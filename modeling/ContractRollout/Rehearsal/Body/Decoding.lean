import ContractRollout.Rehearsal.Body.Encoding
import ContractRollout.Rehearsal.Body.Language

/-!
# Decoding of bodies

A rehearsal gives the bodies of replies as bytes, of which the program gets to know the text
only. Bytes whose zeros show no encoding scheme may still hold UTF-16. They are guessed to, when
that makes a more plausible text than UTF-8 does, in one of the two byte orders. Likeness
to a language decides between texts that are about as plausible, and a declared character
set comes first. A text of many bytes is judged by five samples. The bytes themselves are
given by the text that they spell in UTF-8.
-/

namespace ContractRollout

/-- The characters that lie wholly between two places, where each has a width and the
text begins at a place. -/
def charactersBetween (width : Char → Nat) (start finish : Nat) : Nat → List Char → List Char
  | _, [] => []
  | place, character :: rest =>
      let next := place + width character
      let others := charactersBetween width start finish next rest
      if start ≤ place && next ≤ finish then character :: others else others

/-- A way to read bytes as a text. -/
structure ByteReading where
  text : List Char
  /-- The width of a character in bytes. -/
  width : Char → Nat
  /-- The places where a character may begin are multiples of this. -/
  unit : Nat
  /-- Whether likeness to a language speaks for the reading. -/
  showsLanguage : Bool

namespace ByteReading

/-- The reading of bytes as UTF-16, if they hold such a text. -/
def ofUtf16? (order : ByteOrder) (bytes : List UInt8) : Option ByteReading :=
  (order.utf16Text? bytes).map fun text =>
    ⟨text, fun character => 2 * (codeUnits character).length, 2, true⟩

/-- The reading of bytes in a declared character set that is wide. -/
def ofCharset? (charset : Charset) (bytes : List UInt8) : Option ByteReading :=
  match charset with
  | .utf16 order => ofUtf16? order bytes
  | .utf32 order => (order.utf32Text? bytes).map fun text => ⟨text, fun _ => 4, 4, true⟩
  | .latin | .other => none

/-- The reading of bytes as UTF-8. Likeness to a language speaks for ASCII characters only
where a character set with them is declared. -/
def ofUtf8 (text : List Char) (charset : Option Charset) : ByteReading :=
  ⟨text, Char.utf8Size, 1, text.any ('\x7f' < ·) || charset = some .latin⟩

/-- The number of bytes that a reading takes up. -/
def size (reading : ByteReading) : Nat := total (reading.text.map reading.width)

/-- What a reading is judged by: all of it, or five samples of 512 bytes each. -/
def samples (reading : ByteReading) : List (List Char) :=
  if reading.size ≤ 2560 then [reading.text]
  else
    (List.range 5).map fun index =>
      let start := index * (reading.size / 5)
      charactersBetween reading.width (start - start % reading.unit) (start + 512) 0 reading.text

def scores (reading : ByteReading) : List Nat := reading.samples.map implausibility

/-- The mean implausibility of a reading, a number in double precision. -/
def score (reading : ByteReading) : Float :=
  reading.scores.foldl (fun sum score => sum + Float.ofNat score / 1000) 0
    / Float.ofNat reading.scores.length

/-- Whether a reading is plausible as a whole and in all samples but one. -/
def isPlausible (reading : ByteReading) : Bool :=
  reading.score < 0.2 && reading.scores.countP (200 ≤ ·) < 2

/-- How much the text of a reading is like a language. -/
def likeness (reading : ByteReading) : Rat :=
  if reading.showsLanguage then Resemblance.greatestMean reading.samples else 0

/-- Whether the first one of two readings of the same bytes is better: the more plausible
one, or with hardly a difference the one that is more like a language, or else the one
whose characters take more bytes. -/
def isBetter (first second : ByteReading) : Bool :=
  if (first.score - second.score).abs < 0.005 then
    let advantage := first.likeness - second.likeness
    if advantage < -1 / 50 || 1 / 50 < advantage then 0 < advantage
    else first.text.length < second.text.length
  else first.score < second.score

/-- Readings from the worst to the best with one more, which is placed above those at the
end that it is better than. -/
def place (reading : ByteReading) : List ByteReading → List ByteReading
  | [] => [reading]
  | worst :: others =>
      if reading.isBetter worst then worst :: place reading others else reading :: worst :: others

/-- The best one of some readings. Where no order is clear, an earlier one stays above. -/
def best? (readings : List ByteReading) : Option ByteReading :=
  (readings.foldl (fun ranked reading => place reading ranked) []).getLast?

end ByteReading

/-- The text that bytes are guessed to hold. A declared reading without faults is taken at
once, and it or UTF-8 with half the faults allowed is not compared with other readings.
Where nothing is plausible, the declared reading is taken or else UTF-8. -/
def guessedText (plain : List Char) (bytes : List UInt8) : List Char :=
  let charset := Charset.declared? bytes
  let declared := charset.bind (ByteReading.ofCharset? · bytes)
  let first := (declared.toList ++ [ByteReading.ofUtf8 plain charset]).filter (·.isPlausible)
  let orders := [ByteOrder.greatestFirst, .leastFirst].filter fun order =>
    charset != some (.utf16 order)
  let others := (orders.filterMap (ByteReading.ofUtf16? · bytes)).filter (·.isPlausible)
  let flawless := declared.filter fun reading => total reading.scores = 0
  let clear := ByteReading.best? (first.filter (·.score < 0.1))
  let chosen := ((flawless.or clear).or (ByteReading.best? (first ++ others))).or declared
  (chosen.map (·.text)).getD plain

/-- The characters of a received text. Bytes that do not fit their scheme are left as
the UTF-8 text that they also spell, and a text without zeros needs no guess. -/
def receivedText (body : String) : List Char :=
  let plain := body.toList
  let bytes := body.toUTF8.data.toList
  match EncodingScheme.shown? bytes with
  | some .utf8 => plain
  | some .markedUtf8 => plain.drop 1
  | some (.utf16 order) => (order.utf16Text? bytes).getD plain
  | some (.utf32 order) => (order.utf32Text? bytes).getD plain
  | none => if plain.contains '\x00' then guessedText plain bytes else plain

end ContractRollout
