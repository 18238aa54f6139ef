import ContractRollout.Rehearsal.Body.Plausibility

/-!
# Likeness to a language

The letters of a text, the most frequent one first, are compared with the alphabets of
languages. Letters of scripts that are not written together are looked at apart, and a few
letters tell nothing.
-/

namespace ContractRollout

/-! ## Alphabets by frequency

The letters of a language from the most to the least frequent one. Some languages have
several lists, for different kinds of writing. -/

/-- The letters of a language, the most frequent one first. -/
structure Alphabet where
  language : String
  letters : List Char
  deriving DecidableEq, Repr

/-- The alphabets of languages that are often written. -/
def alphabets : List Alphabet :=
  [⟨"English", "eationsrhldcumfpgwybvkxjzq".toList⟩,
    ⟨"English", "eationsrhldcmufpgwbyvkjxzq".toList⟩,
    ⟨"German", "enirstadhulgocmbfkwzpvüäöj".toList⟩,
    ⟨"French", "easnitrluodcpmévgfbhqàxèyj".toList⟩,
    ⟨"Dutch", "enairtodslghvmukcpbwjzfyxë".toList⟩,
    ⟨"Italian", "eiaonltrscdupmgvfbzhqèàkyò".toList⟩,
    ⟨"Polish", "aioenrzwsctkydpmuljłgbhąęó".toList⟩,
    ⟨"Spanish", "eaonsrildtcumpbgvfyóhqíjzá".toList⟩,
    ⟨"Russian", "оаеинстрвлкмдпугяызбйьчхжц".toList⟩,
    ⟨"Japanese", String.toList <|
      "人一大亅丁丨竹笑口日今二彳行十土丶寸寺時乙丿乂气気冂巾亠市目儿見八小凵県月彐門間" ++
      "木東山出本中刀分耳又取最言田心思刂前京尹事生厶云会未来白冫楽灬馬尸尺駅明耂者了阝" ++
      "都高卜占厂广店子申奄亻俺上方冖学衣艮食自"⟩,
    ⟨"Japanese", String.toList <|
      "ーンス・ルトリイアラックドシレジタフロカテマィグバムプオコデニウメサビナブャエュ" ++
      "チキズダパミェョハセベガモツネボソノァヴワポペピケゴギザホゲォヤヒユヨヘゼヌゥゾ" ++
      "ヶヂヲヅヵヱヰヮヽ゠ヾヷヿヸヹヺ"⟩,
    ⟨"Japanese", String.toList <|
      "のにるたとはしいをでてがなれからさっりすあもこまうくよきんめおけそつだやえどわち" ++
      "みせじばへびずろほげむべひょゆぶごゃねふぐぎぼゅづざぞぬぜぱぽぷぴぃぁぇぺゞぢぉ" ++
      "ぅゐゝゑ゛゜ゎゔ゚ゟ゙ゕゖ"⟩,
    ⟨"Portuguese", "aeosirdntmuclpgvbfhãqéçází".toList⟩,
    ⟨"Swedish", "eanrtsildomkgvhfupäcböåyjx".toList⟩,
    ⟨"Chinese", String.toList <|
      "的一是不了在人有我他这个们中来上大为和国地到以说时要就出会可也你对生能而子那得于" ++
      "着下自之年过发后作里用道行所然家种事成方多经么去法学如都同现当没动面起看定天分还" ++
      "进好小部其些主样理心她本前开但因只从想实"⟩,
    ⟨"Ukrainian", "оаніирвтесклудмпзяьбгйчхцї".toList⟩,
    ⟨"Norwegian", "erntasioldgkmvfpubhåyjøcæw".toList⟩,
    ⟨"Finnish", "aintesloukämrvjhpydögcbfwz".toList⟩,
    ⟨"Vietnamese", "nhticgaoumlràđsevpbyưdákộế".toList⟩,
    ⟨"Czech", "oeantsilvrkdumpíchzáyjběéř".toList⟩,
    ⟨"Hungarian", "eatlsnkriozáégmbyvdhupjöfc".toList⟩,
    ⟨"Korean", "이다에의는로하을가고지서한은기으년대사시를리도인스일".toList⟩,
    ⟨"Indonesian", "aneirtusdkmlgpbohyjcwfvzxq".toList⟩,
    ⟨"Turkish", "aeinrlıkdtsmyuobüşvgzhcpçğ".toList⟩,
    ⟨"Romanian", "eiarntulocsdpmăfvîgbșțzhâj".toList⟩,
    ⟨"Farsi", "ایردنهومتبسلکشزفگعخقجآپحطص".toList⟩,
    ⟨"Arabic", "اليمونرتبةعدسفهكقأحجشطصىخإ".toList⟩,
    ⟨"Danish", "erntaisdlogmkfvubhpåyøæcjw".toList⟩,
    ⟨"Serbian", "аиоенрсуткјвдмплгзбaieonцш".toList⟩,
    ⟨"Lithuanian", "iasoretnukmlpvdjgėbyųšžcąį".toList⟩,
    ⟨"Slovene", "eaionrsltjvkdpmuzbghčcšžfy".toList⟩,
    ⟨"Slovak", "oaenirvtslkdmpuchjbzáyýíčé".toList⟩,
    ⟨"Hebrew", "יוהלרבתמאשנעםדקחפסכגטצןזך".toList⟩,
    ⟨"Bulgarian", "аиоентрсвлкдпмзгяъубчцйжщх".toList⟩,
    ⟨"Croatian", "aioenrjstuklvdmpgzbcčhšžćf".toList⟩,
    ⟨"Hindi", "करसनतमहपयलवजदगबशटअएथभडचधषइ".toList⟩,
    ⟨"Estonian", "aiestlunokrdmvgpjhäbõüfcöy".toList⟩,
    ⟨"Thai", "านรอกเงมยลวดทสตะปบคหแจพชขใ".toList⟩,
    ⟨"Greek", "ατοιενρσκηπςυμλίόάγέδήωχθύ".toList⟩,
    ⟨"Tamil", "கதபடரமலனவறயளசநஇணஅஆழஙஎஉஒஸ".toList⟩,
    ⟨"Kazakh", "аыентрлідсмқкобиуғжңзшйпгө".toList⟩]

/-! ## Layers and likeness -/

/-- Letters of one script or several that are written together. -/
structure Layer where
  /-- The block of the first letter. -/
  block : Block
  letters : List Char
  deriving DecidableEq, Repr

namespace Layer

/-- Layers with letters of a block added to the first one that they go with. -/
def add (block : Block) (letters : List Char) : List Layer → List Layer
  | [] => [⟨block, letters⟩]
  | layer :: rest =>
      if layer.block.goesWith block then { layer with letters := layer.letters ++ letters } :: rest
      else layer :: add block letters rest

/-- The layers of a text, in small letters. -/
def ofText (text : List Char) : List Layer :=
  (text.filter isLetter).foldl
    (fun layers letter =>
      match blockOf? letter with
      | some block => add block (lowercase letter) layers
      | none => layers)
    []

end Layer

/-- Different letters, the most frequent one first; of equally frequent ones the first
comes first. -/
def byFrequency (letters : List Char) : List Char :=
  letters.eraseDups.mergeSort fun first second => letters.count second ≤ letters.count first

namespace Alphabet

/-- The share of an alphabet that is among given letters. -/
def coverage (alphabet : Alphabet) (letters : List Char) : Rat :=
  share (alphabet.letters.countP letters.contains) alphabet.letters.length

/-- Whether a letter at a rank among given ones has about that rank in an alphabet. In an
alphabet of usual size, its rank must be near and two fifths of the letters before or after
it must stand before or after it here too. In a large alphabet either one will do, and a
third of the size is near. -/
def agreesAt (alphabet : Alphabet) (letters : List Char) (letter : Char) (rank : Nat) : Bool :=
  match alphabet.letters.idxOf? letter with
  | none => false
  | some place =>
      let size := alphabet.letters.length
      let expected := rank * size / letters.length
      let distance := (expected - place) + (place - expected)
      let before := (letters.take rank).countP (alphabet.letters.take place).contains
      let after := (letters.drop rank).countP (alphabet.letters.drop place).contains
      let inOrder := place = 0 || 2 * place ≤ 5 * before || 2 * (size - place) ≤ 5 * after
      if size ≤ 26 then distance ≤ 4 && inOrder else 3 * distance < size || inOrder

/-- The share of letters, given by frequency, that have about their rank in an alphabet. -/
def likeness (alphabet : Alphabet) (letters : List Char) : Rat :=
  share (letters.zipIdx.countP fun (letter, rank) => alphabet.agreesAt letters letter rank)
    letters.length

/-- The alphabets that letters may belong to, the best covered one first: at least a fifth
is covered, and an alphabet without accents has none among the letters. -/
def candidates (letters : List Char) : List Alphabet :=
  let possible := alphabets.filter fun alphabet =>
    1 / 5 ≤ alphabet.coverage letters
      && (alphabet.letters.any isAccented || !letters.any isAccented)
  possible.mergeSort fun first second => second.coverage letters ≤ first.coverage letters

end Alphabet

/-- How much a text is like a language. -/
structure Resemblance where
  language : String
  likeness : Rat
  deriving DecidableEq, Repr

namespace Resemblance

/-- The languages that a layer of more than thirty-two letters is like, a tenth at least. -/
def ofLayer (layer : Layer) : List Resemblance :=
  let letters := byFrequency layer.letters
  if layer.letters.length ≤ 32 then []
  else
    ((Alphabet.candidates letters).map fun alphabet =>
      (⟨alphabet.language, alphabet.likeness letters⟩ : Resemblance)).filter (1 / 10 ≤ ·.likeness)

/-- What is found up to the third likeness of four fifths, after some that were found
before, and how many there are then. -/
def untilThird (before : Nat) : List Resemblance → List Resemblance × Nat
  | [] => ([], before)
  | first :: rest =>
      let found := if 4 / 5 ≤ first.likeness then before + 1 else before
      if 3 ≤ found then ([first], found)
      else
        let (others, found) := untilThird found rest
        (first :: others, found)

/-- The languages that layers are like, after some very alike ones were found before. -/
def ofLayers (before : Nat) : List Layer → List Resemblance
  | [] => []
  | layer :: rest =>
      let (found, before) := untilThird before (ofLayer layer)
      found ++ ofLayers before rest

/-- The languages that a text is like. -/
def ofText (text : List Char) : List Resemblance := ofLayers 0 (Layer.ofText text)

def greatest (numbers : List Rat) : Rat :=
  numbers.foldl (fun first second => if first < second then second else first) 0

/-- The greatest mean likeness to a language that samples of a text have, where only the
samples that are like the language count. -/
def greatestMean (samples : List (List Char)) : Rat :=
  let found := samples.map ofText
  let languages := (found.flatten.map Resemblance.language).eraseDups
  greatest <| languages.map fun language =>
    let likenesses := (found.map fun resemblances =>
      (resemblances.filter (·.language == language)).map Resemblance.likeness).filter (!·.isEmpty)
    (likenesses.map greatest).foldl (· + ·) 0 / (likenesses.length : Rat)

end Resemblance

end ContractRollout
