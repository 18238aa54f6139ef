import ContractRollout.Text.Character

/-!
# Kinds of characters

Characters that tell something about a text: letters with accents, the letters of scripts
without blanks between words, the forms of Arabic letters, punctuation and symbols.
-/

namespace ContractRollout

/-! ## Accented letters

Letters that Unicode names with a grave, an acute, a cedilla, a diaeresis, a
circumflex, a tilde, a macron or a ring above. A Latin one is made of another letter
and an accent; of several accents the last one counts, so the other letter may bear
accents too. -/

def accentedRanges : List CharacterRange :=
  [⟨0xc0, 0xc5⟩, ⟨0xc7, 0xcf⟩, ⟨0xd1, 0xd6⟩, ⟨0xd9, 0xdd⟩, ⟨0xe0, 0xe5⟩, ⟨0xe7, 0xef⟩,
    ⟨0xf1, 0xf6⟩, ⟨0xf9, 0xfd⟩, ⟨0xff, 0x101⟩, ⟨0x106, 0x109⟩, ⟨0x112, 0x113⟩, ⟨0x11c, 0x11d⟩,
    ⟨0x122, 0x125⟩, ⟨0x128, 0x12b⟩, ⟨0x134, 0x137⟩, ⟨0x139, 0x13c⟩, ⟨0x143, 0x146⟩,
    ⟨0x14c, 0x14d⟩, ⟨0x154, 0x157⟩, ⟨0x15a, 0x15f⟩, ⟨0x162, 0x163⟩, ⟨0x168, 0x16b⟩,
    ⟨0x16e, 0x16f⟩, ⟨0x174, 0x17a⟩, ⟨0x1d5, 0x1dc⟩, ⟨0x1de, 0x1df⟩, ⟨0x1e2, 0x1e3⟩,
    ⟨0x1f4, 0x1f5⟩, ⟨0x1f8, 0x1fd⟩, ⟨0x228, 0x22d⟩, ⟨0x232, 0x233⟩, ⟨0x3d3, 0x3d4⟩,
    ⟨0x400, 0x400⟩, ⟨0x40d, 0x40d⟩, ⟨0x450, 0x450⟩, ⟨0x45d, 0x45d⟩, ⟨0x4d2, 0x4d3⟩,
    ⟨0x4da, 0x4df⟩, ⟨0x4e2, 0x4e7⟩, ⟨0x4ea, 0x4f1⟩, ⟨0x4f4, 0x4f5⟩, ⟨0x4f8, 0x4f9⟩,
    ⟨0x1e08, 0x1e09⟩, ⟨0x1e10, 0x1e1d⟩, ⟨0x1e20, 0x1e21⟩, ⟨0x1e26, 0x1e29⟩, ⟨0x1e2c, 0x1e31⟩,
    ⟨0x1e3c, 0x1e3f⟩, ⟨0x1e4a, 0x1e55⟩, ⟨0x1e64, 0x1e65⟩, ⟨0x1e70, 0x1e7d⟩, ⟨0x1e80, 0x1e85⟩,
    ⟨0x1e8c, 0x1e8d⟩, ⟨0x1e90, 0x1e91⟩, ⟨0x1e97, 0x1e99⟩, ⟨0x1ea4, 0x1ead⟩, ⟨0x1ebc, 0x1ec7⟩,
    ⟨0x1ed0, 0x1ed9⟩, ⟨0x1ef2, 0x1ef3⟩, ⟨0x1ef8, 0x1ef9⟩, ⟨0x1fb1, 0x1fb1⟩, ⟨0x1fb9, 0x1fb9⟩,
    ⟨0x1fd1, 0x1fd1⟩, ⟨0x1fd9, 0x1fd9⟩, ⟨0x1fe1, 0x1fe1⟩, ⟨0x1fe9, 0x1fe9⟩, ⟨0x10eb1, 0x10eb1⟩]

def isAccented (character : Char) : Bool := inRanges accentedRanges character

/-- Latin letters with the accented letters made of them. -/
def accentedForms : List (Char × String) :=
  [('A', "ÀÁÂÃÄÅĀ"), ('C', "ÇĆĈ"), ('D', "ḐḒ"), ('E', "ÈÉÊËĒȨḘḚẼ"), ('G', "ĜĢǴḠ"), ('H', "ĤḦḨ"),
    ('I', "ÌÍÎÏĨĪḬ"), ('J', "Ĵ"), ('K', "ĶḰ"), ('L', "ĹĻḼ"), ('M', "Ḿ"), ('N', "ÑŃŅǸṊ"),
    ('O', "ÒÓÔÕÖŌ"), ('P', "Ṕ"), ('R', "ŔŖ"), ('S', "ŚŜŞ"), ('T', "ŢṰ"), ('U', "ÙÚÛÜŨŪŮṲṴṶ"),
    ('V', "Ṽ"), ('W', "ŴẀẂẄ"), ('X', "Ẍ"), ('Y', "ÝŶŸȲỲỸ"), ('Z', "ŹẐ"), ('a', "àáâãäåā"),
    ('c', "çćĉ"), ('d', "ḑḓ"), ('e', "èéêëēȩḙḛẽ"), ('g', "ĝģǵḡ"), ('h', "ĥḧḩ"), ('i', "ìíîïĩīḭ"),
    ('j', "ĵ"), ('k', "ķḱ"), ('l', "ĺļḽ"), ('m', "ḿ"), ('n', "ñńņǹṋ"), ('o', "òóôõöō"),
    ('p', "ṕ"), ('r', "ŕŗ"), ('s', "śŝş"), ('t', "ţṱẗ"), ('u', "ùúûüũūůṳṵṷ"), ('v', "ṽ"),
    ('w', "ŵẁẃẅẘ"), ('x', "ẍ"), ('y', "ýÿŷȳẙỳỹ"), ('z', "źẑ"), ('Â', "ẤẦẨẪ"), ('Ä', "Ǟ"),
    ('Å', "Ǻ"), ('Æ', "ǢǼ"), ('Ç', "Ḉ"), ('Ê', "ẾỀỂỄ"), ('Ï', "Ḯ"), ('Ô', "ỐỒỔỖ"), ('Õ', "ȬṌṎ"),
    ('Ö', "Ȫ"), ('Ü', "ǕǗǙǛ"), ('â', "ấầẩẫ"), ('ä', "ǟ"), ('å', "ǻ"), ('æ', "ǣǽ"), ('ç', "ḉ"),
    ('ê', "ếềểễ"), ('ï', "ḯ"), ('ô', "ốồổỗ"), ('õ', "ȭṍṏ"), ('ö', "ȫ"), ('ü', "ǖǘǚǜ"),
    ('Ē', "ḔḖ"), ('ē', "ḕḗ"), ('Ō', "ṐṒ"), ('ō', "ṑṓ"), ('Ś', "Ṥ"), ('ś', "ṥ"), ('Ũ', "Ṹ"),
    ('ũ', "ṹ"), ('Ū', "Ṻ"), ('ū', "ṻ"), ('Ȩ', "Ḝ"), ('ȩ', "ḝ"), ('Ạ', "Ậ"), ('ạ', "ậ"),
    ('Ẹ', "Ệ"), ('ẹ', "ệ"), ('Ọ', "Ộ"), ('ọ', "ộ")]

/-- The letter that an accented Latin letter is made of. -/
def unaccented (character : Char) : Char :=
  ((accentedForms.find? (·.2.toList.contains character)).map (·.1)).getD character

/-! ## Glyphs

The letters of scripts that put no blanks between words: Chinese, Japanese, Korean
and Thai. Most Chinese texts are made of a few hundred common ideographs. -/

def glyphRanges : List CharacterRange :=
  [⟨0xe01, 0xe30⟩, ⟨0xe32, 0xe33⟩, ⟨0xe40, 0xe46⟩, ⟨0x1100, 0x11ff⟩, ⟨0x3041, 0x3096⟩,
    ⟨0x309d, 0x309f⟩, ⟨0x30a1, 0x30fa⟩, ⟨0x30fc, 0x30ff⟩, ⟨0x3131, 0x318e⟩, ⟨0x31f0, 0x31ff⟩,
    ⟨0x3400, 0x4dbf⟩, ⟨0x4e00, 0x9fff⟩, ⟨0xa960, 0xa97c⟩, ⟨0xac00, 0xd7a3⟩, ⟨0xd7b0, 0xd7c6⟩,
    ⟨0xd7cb, 0xd7fb⟩, ⟨0xf900, 0xfa6d⟩, ⟨0xfa70, 0xfad9⟩, ⟨0xff66, 0xffbe⟩, ⟨0xffc2, 0xffc7⟩,
    ⟨0xffca, 0xffcf⟩, ⟨0xffd2, 0xffd7⟩, ⟨0xffda, 0xffdc⟩, ⟨0x1aff0, 0x1aff3⟩, ⟨0x1aff5, 0x1affb⟩,
    ⟨0x1affd, 0x1affe⟩, ⟨0x1b000, 0x1b001⟩, ⟨0x1b11f, 0x1b122⟩, ⟨0x1b150, 0x1b152⟩,
    ⟨0x1b164, 0x1b167⟩, ⟨0x20000, 0x2a6df⟩, ⟨0x2a700, 0x2b738⟩, ⟨0x2b740, 0x2b81d⟩,
    ⟨0x2b820, 0x2cea1⟩, ⟨0x2ceb0, 0x2ebe0⟩, ⟨0x2f800, 0x2fa1d⟩, ⟨0x30000, 0x3134a⟩]

def isGlyph (character : Char) : Bool := inRanges glyphRanges character

def ideographRanges : List CharacterRange :=
  [⟨0x3400, 0x4dbf⟩, ⟨0x4e00, 0x9fff⟩, ⟨0xf900, 0xfa6d⟩, ⟨0xfa70, 0xfad9⟩, ⟨0x20000, 0x2a6df⟩,
    ⟨0x2a700, 0x2b738⟩, ⟨0x2b740, 0x2b81d⟩, ⟨0x2b820, 0x2cea1⟩, ⟨0x2ceb0, 0x2ebe0⟩,
    ⟨0x2f800, 0x2fa1d⟩, ⟨0x30000, 0x3134a⟩]

def isIdeograph (character : Char) : Bool := inRanges ideographRanges character

def commonChinese : List Char := String.toList <|
  "的一是在不了有和人这中大为上个国我以要他时来用们生到作地于出就分对成会可主发年动同工也能下" ++
  "过子说产种面而方后多定行学法所民得经十三之进着等部度家电力里如水化高自二理起小物现实加量都" ++
  "两体制机当使点从业本去把性好应开它合还因由其些然前外天政四日那社义事平形相全表间样与关各重" ++
  "新线内数正心反你明看原又么利比或但质气第向道命此变条只没结解问意建月公无系军很情者最立代想" ++
  "已通并提直题党程展五果料象员革位入常文总次品式活设及管特件长求老头基资边流路级少图山统接知" ++
  "较将组见计别她手角期根论运农指几九区强放决西被干做必战先回则任取据处队南给色光门即保治北造" ++
  "百规热领七海口东导器压志世金增争济阶油思术极交受联什认六共权收证改清己美再采转更单风切打白" ++
  "教速花带安场身车例真务具万每目至达走积示议声报斗完类八离华名确才科张信马节话米整空元况今集" ++
  "温传土许步群广石记需段研界拉林律叫且究观越织装影算低持音众书布复容儿须际商非验连断深难近矿" ++
  "千周委素技备半办青省列习响约支般史感劳便团往酸历市克何除消构府称太准精值号率族维划选标写存" ++
  "候毛亲快效斯院查江型眼王按格养易置派层片始却专状育厂京识适属圆包火住调满县局照参红细引听该" ++
  "铁价严"

/-- Ideographs that are common in Japanese or Korean, but not in Chinese. -/
def commonElsewhere : List Char := String.toList <|
  "長時見後間東円気話女午書川男電校語木聞食車毎母右読友左休父雨萬國學"

/-- An ideograph that is common in no language. -/
def isRareIdeograph (character : Char) : Bool :=
  isIdeograph character && !commonChinese.contains character
    && !commonElsewhere.contains character

/-! ## Forms of Arabic letters

An Arabic letter looks different at the start, in the middle and at the end of a word, and
when it stands alone. A text has the letters as such; the forms are characters too, but
hardly used. -/

/-- The ranges of Arabic letters and their forms. -/
def arabicRanges : List CharacterRange :=
  [⟨0x620, 0x64a⟩, ⟨0x66e, 0x66f⟩, ⟨0x671, 0x6d3⟩, ⟨0x6d5, 0x6d5⟩, ⟨0x6e5, 0x6e6⟩,
    ⟨0x6ee, 0x6ef⟩, ⟨0x6fa, 0x6fc⟩, ⟨0x6ff, 0x6ff⟩, ⟨0x750, 0x77f⟩, ⟨0x870, 0x887⟩,
    ⟨0x889, 0x88e⟩, ⟨0x8a0, 0x8c9⟩, ⟨0xfb50, 0xfbb1⟩, ⟨0xfbd3, 0xfd3d⟩, ⟨0xfd50, 0xfd8f⟩,
    ⟨0xfd92, 0xfdc7⟩, ⟨0xfdf0, 0xfdfb⟩, ⟨0xfe70, 0xfe74⟩, ⟨0xfe76, 0xfefc⟩, ⟨0x1ee00, 0x1ee03⟩,
    ⟨0x1ee05, 0x1ee1f⟩, ⟨0x1ee21, 0x1ee22⟩, ⟨0x1ee24, 0x1ee24⟩, ⟨0x1ee27, 0x1ee27⟩,
    ⟨0x1ee29, 0x1ee32⟩, ⟨0x1ee34, 0x1ee37⟩, ⟨0x1ee39, 0x1ee39⟩, ⟨0x1ee3b, 0x1ee3b⟩,
    ⟨0x1ee42, 0x1ee42⟩, ⟨0x1ee47, 0x1ee47⟩, ⟨0x1ee49, 0x1ee49⟩, ⟨0x1ee4b, 0x1ee4b⟩,
    ⟨0x1ee4d, 0x1ee4f⟩, ⟨0x1ee51, 0x1ee52⟩, ⟨0x1ee54, 0x1ee54⟩, ⟨0x1ee57, 0x1ee57⟩,
    ⟨0x1ee59, 0x1ee59⟩, ⟨0x1ee5b, 0x1ee5b⟩, ⟨0x1ee5d, 0x1ee5d⟩, ⟨0x1ee5f, 0x1ee5f⟩,
    ⟨0x1ee61, 0x1ee62⟩, ⟨0x1ee64, 0x1ee64⟩, ⟨0x1ee67, 0x1ee6a⟩, ⟨0x1ee6c, 0x1ee72⟩,
    ⟨0x1ee74, 0x1ee77⟩, ⟨0x1ee79, 0x1ee7c⟩, ⟨0x1ee7e, 0x1ee7e⟩, ⟨0x1ee80, 0x1ee89⟩,
    ⟨0x1ee8b, 0x1ee9b⟩, ⟨0x1eea1, 0x1eea3⟩, ⟨0x1eea5, 0x1eea9⟩, ⟨0x1eeab, 0x1eebb⟩]

def isArabic (character : Char) : Bool := inRanges arabicRanges character

/-- The ranges of forms for letters that stand alone. -/
def isolatedFormRanges : List CharacterRange :=
  [⟨0xfb50, 0xfb50⟩, ⟨0xfb52, 0xfb52⟩, ⟨0xfb56, 0xfb56⟩, ⟨0xfb5a, 0xfb5a⟩, ⟨0xfb5e, 0xfb5e⟩,
    ⟨0xfb62, 0xfb62⟩, ⟨0xfb66, 0xfb66⟩, ⟨0xfb6a, 0xfb6a⟩, ⟨0xfb6e, 0xfb6e⟩, ⟨0xfb72, 0xfb72⟩,
    ⟨0xfb76, 0xfb76⟩, ⟨0xfb7a, 0xfb7a⟩, ⟨0xfb7e, 0xfb7e⟩, ⟨0xfb82, 0xfb82⟩, ⟨0xfb84, 0xfb84⟩,
    ⟨0xfb86, 0xfb86⟩, ⟨0xfb88, 0xfb88⟩, ⟨0xfb8a, 0xfb8a⟩, ⟨0xfb8c, 0xfb8c⟩, ⟨0xfb8e, 0xfb8e⟩,
    ⟨0xfb92, 0xfb92⟩, ⟨0xfb96, 0xfb96⟩, ⟨0xfb9a, 0xfb9a⟩, ⟨0xfb9e, 0xfb9e⟩, ⟨0xfba0, 0xfba0⟩,
    ⟨0xfba4, 0xfba4⟩, ⟨0xfba6, 0xfba6⟩, ⟨0xfbaa, 0xfbaa⟩, ⟨0xfbae, 0xfbae⟩, ⟨0xfbb0, 0xfbb0⟩,
    ⟨0xfbd3, 0xfbd3⟩, ⟨0xfbd7, 0xfbd7⟩, ⟨0xfbd9, 0xfbd9⟩, ⟨0xfbdb, 0xfbdb⟩, ⟨0xfbdd, 0xfbde⟩,
    ⟨0xfbe0, 0xfbe0⟩, ⟨0xfbe2, 0xfbe2⟩, ⟨0xfbe4, 0xfbe4⟩, ⟨0xfbea, 0xfbea⟩, ⟨0xfbec, 0xfbec⟩,
    ⟨0xfbee, 0xfbee⟩, ⟨0xfbf0, 0xfbf0⟩, ⟨0xfbf2, 0xfbf2⟩, ⟨0xfbf4, 0xfbf4⟩, ⟨0xfbf6, 0xfbf6⟩,
    ⟨0xfbf9, 0xfbf9⟩, ⟨0xfbfc, 0xfbfc⟩, ⟨0xfc00, 0xfc63⟩, ⟨0xfcf5, 0xfd10⟩, ⟨0xfd3d, 0xfd3d⟩,
    ⟨0xfdf0, 0xfdf9⟩, ⟨0xfe70, 0xfe70⟩, ⟨0xfe72, 0xfe72⟩, ⟨0xfe74, 0xfe74⟩, ⟨0xfe76, 0xfe76⟩,
    ⟨0xfe78, 0xfe78⟩, ⟨0xfe7a, 0xfe7a⟩, ⟨0xfe7c, 0xfe7c⟩, ⟨0xfe7e, 0xfe7e⟩, ⟨0xfe80, 0xfe81⟩,
    ⟨0xfe83, 0xfe83⟩, ⟨0xfe85, 0xfe85⟩, ⟨0xfe87, 0xfe87⟩, ⟨0xfe89, 0xfe89⟩, ⟨0xfe8d, 0xfe8d⟩,
    ⟨0xfe8f, 0xfe8f⟩, ⟨0xfe93, 0xfe93⟩, ⟨0xfe95, 0xfe95⟩, ⟨0xfe99, 0xfe99⟩, ⟨0xfe9d, 0xfe9d⟩,
    ⟨0xfea1, 0xfea1⟩, ⟨0xfea5, 0xfea5⟩, ⟨0xfea9, 0xfea9⟩, ⟨0xfeab, 0xfeab⟩, ⟨0xfead, 0xfead⟩,
    ⟨0xfeaf, 0xfeaf⟩, ⟨0xfeb1, 0xfeb1⟩, ⟨0xfeb5, 0xfeb5⟩, ⟨0xfeb9, 0xfeb9⟩, ⟨0xfebd, 0xfebd⟩,
    ⟨0xfec1, 0xfec1⟩, ⟨0xfec5, 0xfec5⟩, ⟨0xfec9, 0xfec9⟩, ⟨0xfecd, 0xfecd⟩, ⟨0xfed1, 0xfed1⟩,
    ⟨0xfed5, 0xfed5⟩, ⟨0xfed9, 0xfed9⟩, ⟨0xfedd, 0xfedd⟩, ⟨0xfee1, 0xfee1⟩, ⟨0xfee5, 0xfee5⟩,
    ⟨0xfee9, 0xfee9⟩, ⟨0xfeed, 0xfeed⟩, ⟨0xfeef, 0xfeef⟩, ⟨0xfef1, 0xfef1⟩, ⟨0xfef5, 0xfef5⟩,
    ⟨0xfef7, 0xfef7⟩, ⟨0xfef9, 0xfef9⟩, ⟨0xfefb, 0xfefb⟩]

def isIsolatedForm (character : Char) : Bool := inRanges isolatedFormRanges character

/-! ## Punctuation and symbols

Punctuation is what Unicode has as such and whatever else stands in its blocks of
punctuation, as far as it is printable. Symbols are the other signs, the numbers that are
no digits and the wide forms of letters. -/

def punctuationRanges : List CharacterRange :=
  [⟨0x21, 0x23⟩, ⟨0x25, 0x2a⟩, ⟨0x2c, 0x2f⟩, ⟨0x3a, 0x3b⟩, ⟨0x3f, 0x40⟩, ⟨0x5b, 0x5d⟩,
    ⟨0x5f, 0x5f⟩, ⟨0x7b, 0x7b⟩, ⟨0x7d, 0x7d⟩, ⟨0xa1, 0xa1⟩, ⟨0xa7, 0xa7⟩, ⟨0xab, 0xab⟩,
    ⟨0xb6, 0xb7⟩, ⟨0xbb, 0xbb⟩, ⟨0xbf, 0xbf⟩, ⟨0x37e, 0x37e⟩, ⟨0x387, 0x387⟩, ⟨0x55a, 0x55f⟩,
    ⟨0x589, 0x58a⟩, ⟨0x5be, 0x5be⟩, ⟨0x5c0, 0x5c0⟩, ⟨0x5c3, 0x5c3⟩, ⟨0x5c6, 0x5c6⟩,
    ⟨0x5f3, 0x5f4⟩, ⟨0x609, 0x60a⟩, ⟨0x60c, 0x60d⟩, ⟨0x61b, 0x61b⟩, ⟨0x61d, 0x61f⟩,
    ⟨0x66a, 0x66d⟩, ⟨0x6d4, 0x6d4⟩, ⟨0x700, 0x70d⟩, ⟨0x7f7, 0x7f9⟩, ⟨0x830, 0x83e⟩,
    ⟨0x85e, 0x85e⟩, ⟨0x964, 0x965⟩, ⟨0x970, 0x970⟩, ⟨0x9fd, 0x9fd⟩, ⟨0xa76, 0xa76⟩,
    ⟨0xaf0, 0xaf0⟩, ⟨0xc77, 0xc77⟩, ⟨0xc84, 0xc84⟩, ⟨0xdf4, 0xdf4⟩, ⟨0xe4f, 0xe4f⟩,
    ⟨0xe5a, 0xe5b⟩, ⟨0xf04, 0xf12⟩, ⟨0xf14, 0xf14⟩, ⟨0xf3a, 0xf3d⟩, ⟨0xf85, 0xf85⟩,
    ⟨0xfd0, 0xfd4⟩, ⟨0xfd9, 0xfda⟩, ⟨0x104a, 0x104f⟩, ⟨0x10fb, 0x10fb⟩, ⟨0x1360, 0x1368⟩,
    ⟨0x1400, 0x1400⟩, ⟨0x166e, 0x166e⟩, ⟨0x169b, 0x169c⟩, ⟨0x16eb, 0x16ed⟩, ⟨0x1735, 0x1736⟩,
    ⟨0x17d4, 0x17d6⟩, ⟨0x17d8, 0x17da⟩, ⟨0x1800, 0x180a⟩, ⟨0x1944, 0x1945⟩, ⟨0x1a1e, 0x1a1f⟩,
    ⟨0x1aa0, 0x1aa6⟩, ⟨0x1aa8, 0x1aad⟩, ⟨0x1b5a, 0x1b60⟩, ⟨0x1b7d, 0x1b7e⟩, ⟨0x1bfc, 0x1bff⟩,
    ⟨0x1c3b, 0x1c3f⟩, ⟨0x1c7e, 0x1c7f⟩, ⟨0x1cc0, 0x1cc7⟩, ⟨0x1cd3, 0x1cd3⟩, ⟨0x2010, 0x2027⟩,
    ⟨0x2030, 0x205e⟩, ⟨0x207d, 0x207e⟩, ⟨0x208d, 0x208e⟩, ⟨0x2308, 0x230b⟩, ⟨0x2329, 0x232a⟩,
    ⟨0x2768, 0x2775⟩, ⟨0x27c5, 0x27c6⟩, ⟨0x27e6, 0x27ef⟩, ⟨0x2983, 0x2998⟩, ⟨0x29d8, 0x29db⟩,
    ⟨0x29fc, 0x29fd⟩, ⟨0x2cf9, 0x2cfc⟩, ⟨0x2cfe, 0x2cff⟩, ⟨0x2d70, 0x2d70⟩, ⟨0x2e00, 0x2e5d⟩,
    ⟨0x3001, 0x303f⟩, ⟨0x30a0, 0x30a0⟩, ⟨0x30fb, 0x30fb⟩, ⟨0xa4fe, 0xa4ff⟩, ⟨0xa60d, 0xa60f⟩,
    ⟨0xa673, 0xa673⟩, ⟨0xa67e, 0xa67e⟩, ⟨0xa6f2, 0xa6f7⟩, ⟨0xa874, 0xa877⟩, ⟨0xa8ce, 0xa8cf⟩,
    ⟨0xa8f8, 0xa8fa⟩, ⟨0xa8fc, 0xa8fc⟩, ⟨0xa92e, 0xa92f⟩, ⟨0xa95f, 0xa95f⟩, ⟨0xa9c1, 0xa9cd⟩,
    ⟨0xa9de, 0xa9df⟩, ⟨0xaa5c, 0xaa5f⟩, ⟨0xaade, 0xaadf⟩, ⟨0xaaf0, 0xaaf1⟩, ⟨0xabeb, 0xabeb⟩,
    ⟨0xfd3e, 0xfd3f⟩, ⟨0xfe10, 0xfe19⟩, ⟨0xfe30, 0xfe52⟩, ⟨0xfe54, 0xfe61⟩, ⟨0xfe63, 0xfe63⟩,
    ⟨0xfe68, 0xfe68⟩, ⟨0xfe6a, 0xfe6b⟩, ⟨0xff01, 0xff03⟩, ⟨0xff05, 0xff0a⟩, ⟨0xff0c, 0xff0f⟩,
    ⟨0xff1a, 0xff1b⟩, ⟨0xff1f, 0xff20⟩, ⟨0xff3b, 0xff3d⟩, ⟨0xff3f, 0xff3f⟩, ⟨0xff5b, 0xff5b⟩,
    ⟨0xff5d, 0xff5d⟩, ⟨0xff5f, 0xff65⟩, ⟨0x10100, 0x10102⟩, ⟨0x1039f, 0x1039f⟩,
    ⟨0x103d0, 0x103d0⟩, ⟨0x1056f, 0x1056f⟩, ⟨0x10857, 0x10857⟩, ⟨0x1091f, 0x1091f⟩,
    ⟨0x1093f, 0x1093f⟩, ⟨0x10a50, 0x10a58⟩, ⟨0x10a7f, 0x10a7f⟩, ⟨0x10af0, 0x10af6⟩,
    ⟨0x10b39, 0x10b3f⟩, ⟨0x10b99, 0x10b9c⟩, ⟨0x10ead, 0x10ead⟩, ⟨0x10f55, 0x10f59⟩,
    ⟨0x10f86, 0x10f89⟩, ⟨0x11047, 0x1104d⟩, ⟨0x110bb, 0x110bc⟩, ⟨0x110be, 0x110c1⟩,
    ⟨0x11140, 0x11143⟩, ⟨0x11174, 0x11175⟩, ⟨0x111c5, 0x111c8⟩, ⟨0x111cd, 0x111cd⟩,
    ⟨0x111db, 0x111db⟩, ⟨0x111dd, 0x111df⟩, ⟨0x11238, 0x1123d⟩, ⟨0x112a9, 0x112a9⟩,
    ⟨0x1144b, 0x1144f⟩, ⟨0x1145a, 0x1145b⟩, ⟨0x1145d, 0x1145d⟩, ⟨0x114c6, 0x114c6⟩,
    ⟨0x115c1, 0x115d7⟩, ⟨0x11641, 0x11643⟩, ⟨0x11660, 0x1166c⟩, ⟨0x116b9, 0x116b9⟩,
    ⟨0x1173c, 0x1173e⟩, ⟨0x1183b, 0x1183b⟩, ⟨0x11944, 0x11946⟩, ⟨0x119e2, 0x119e2⟩,
    ⟨0x11a3f, 0x11a46⟩, ⟨0x11a9a, 0x11a9c⟩, ⟨0x11a9e, 0x11aa2⟩, ⟨0x11c41, 0x11c45⟩,
    ⟨0x11c70, 0x11c71⟩, ⟨0x11ef7, 0x11ef8⟩, ⟨0x11fff, 0x11fff⟩, ⟨0x12400, 0x1246e⟩,
    ⟨0x12470, 0x12474⟩, ⟨0x12ff1, 0x12ff2⟩, ⟨0x16a6e, 0x16a6f⟩, ⟨0x16af5, 0x16af5⟩,
    ⟨0x16b37, 0x16b3b⟩, ⟨0x16b44, 0x16b44⟩, ⟨0x16e97, 0x16e9a⟩, ⟨0x16fe0, 0x16fe4⟩,
    ⟨0x16ff0, 0x16ff1⟩, ⟨0x1bc9f, 0x1bc9f⟩, ⟨0x1da87, 0x1da8b⟩, ⟨0x1e95e, 0x1e95f⟩]

def isPunctuation (character : Char) : Bool := inRanges punctuationRanges character

def symbolRanges : List CharacterRange :=
  [⟨0x24, 0x24⟩, ⟨0x2b, 0x2b⟩, ⟨0x3c, 0x3e⟩, ⟨0x5e, 0x5e⟩, ⟨0x60, 0x60⟩, ⟨0x7c, 0x7c⟩,
    ⟨0x7e, 0x7e⟩, ⟨0xa2, 0xa6⟩, ⟨0xa8, 0xa9⟩, ⟨0xac, 0xac⟩, ⟨0xae, 0xb1⟩, ⟨0xb4, 0xb4⟩,
    ⟨0xb8, 0xb8⟩, ⟨0xbc, 0xbe⟩, ⟨0xd7, 0xd7⟩, ⟨0xf7, 0xf7⟩, ⟨0x2c2, 0x2c5⟩, ⟨0x2d2, 0x2df⟩,
    ⟨0x2e5, 0x2eb⟩, ⟨0x2ed, 0x2ed⟩, ⟨0x2ef, 0x2ff⟩, ⟨0x375, 0x375⟩, ⟨0x384, 0x385⟩,
    ⟨0x3f6, 0x3f6⟩, ⟨0x482, 0x482⟩, ⟨0x58d, 0x58f⟩, ⟨0x606, 0x608⟩, ⟨0x60b, 0x60b⟩,
    ⟨0x60e, 0x60f⟩, ⟨0x6de, 0x6de⟩, ⟨0x6e9, 0x6e9⟩, ⟨0x6fd, 0x6fe⟩, ⟨0x7f6, 0x7f6⟩,
    ⟨0x7fe, 0x7ff⟩, ⟨0x888, 0x888⟩, ⟨0x9f2, 0x9fb⟩, ⟨0xaf1, 0xaf1⟩, ⟨0xb70, 0xb70⟩,
    ⟨0xb72, 0xb77⟩, ⟨0xbf0, 0xbfa⟩, ⟨0xc78, 0xc7f⟩, ⟨0xd4f, 0xd4f⟩, ⟨0xd58, 0xd5e⟩,
    ⟨0xd70, 0xd79⟩, ⟨0xe3f, 0xe3f⟩, ⟨0xf01, 0xf03⟩, ⟨0xf13, 0xf13⟩, ⟨0xf15, 0xf17⟩,
    ⟨0xf1a, 0xf1f⟩, ⟨0xf2a, 0xf34⟩, ⟨0xf36, 0xf36⟩, ⟨0xf38, 0xf38⟩, ⟨0xfbe, 0xfc5⟩,
    ⟨0xfc7, 0xfcc⟩, ⟨0xfce, 0xfcf⟩, ⟨0xfd5, 0xfd8⟩, ⟨0x109e, 0x109f⟩, ⟨0x1372, 0x137c⟩,
    ⟨0x1390, 0x1399⟩, ⟨0x166d, 0x166d⟩, ⟨0x16ee, 0x16f0⟩, ⟨0x17db, 0x17db⟩, ⟨0x17f0, 0x17f9⟩,
    ⟨0x1940, 0x1940⟩, ⟨0x19de, 0x19ff⟩, ⟨0x1b61, 0x1b6a⟩, ⟨0x1b74, 0x1b7c⟩, ⟨0x1fbd, 0x1fbd⟩,
    ⟨0x1fbf, 0x1fc1⟩, ⟨0x1fcd, 0x1fcf⟩, ⟨0x1fdd, 0x1fdf⟩, ⟨0x1fed, 0x1fef⟩, ⟨0x1ffd, 0x1ffe⟩,
    ⟨0x2044, 0x2044⟩, ⟨0x2052, 0x2052⟩, ⟨0x207a, 0x207c⟩, ⟨0x208a, 0x208c⟩, ⟨0x20a0, 0x20c0⟩,
    ⟨0x2100, 0x2101⟩, ⟨0x2103, 0x2106⟩, ⟨0x2108, 0x2109⟩, ⟨0x2114, 0x2114⟩, ⟨0x2116, 0x2118⟩,
    ⟨0x211e, 0x2123⟩, ⟨0x2125, 0x2125⟩, ⟨0x2127, 0x2127⟩, ⟨0x2129, 0x2129⟩, ⟨0x212e, 0x212e⟩,
    ⟨0x213a, 0x213b⟩, ⟨0x2140, 0x2144⟩, ⟨0x214a, 0x214d⟩, ⟨0x214f, 0x218b⟩, ⟨0x2190, 0x2307⟩,
    ⟨0x230c, 0x2328⟩, ⟨0x232b, 0x2426⟩, ⟨0x2440, 0x244a⟩, ⟨0x2469, 0x2473⟩, ⟨0x247d, 0x2487⟩,
    ⟨0x2491, 0x24e9⟩, ⟨0x24eb, 0x24f4⟩, ⟨0x24fe, 0x24fe⟩, ⟨0x2500, 0x2767⟩, ⟨0x277f, 0x277f⟩,
    ⟨0x2789, 0x2789⟩, ⟨0x2793, 0x27c4⟩, ⟨0x27c7, 0x27e5⟩, ⟨0x27f0, 0x2982⟩, ⟨0x2999, 0x29d7⟩,
    ⟨0x29dc, 0x29fb⟩, ⟨0x29fe, 0x2b73⟩, ⟨0x2b76, 0x2b95⟩, ⟨0x2b97, 0x2bff⟩, ⟨0x2ce5, 0x2cea⟩,
    ⟨0x2cfd, 0x2cfd⟩, ⟨0x2e50, 0x2e51⟩, ⟨0x2e80, 0x2e99⟩, ⟨0x2e9b, 0x2ef3⟩, ⟨0x2f00, 0x2fd5⟩,
    ⟨0x2ff0, 0x2ffb⟩, ⟨0x3004, 0x3004⟩, ⟨0x3007, 0x3007⟩, ⟨0x3012, 0x3013⟩, ⟨0x3020, 0x3029⟩,
    ⟨0x3036, 0x303a⟩, ⟨0x303e, 0x303f⟩, ⟨0x309b, 0x309c⟩, ⟨0x3190, 0x319f⟩, ⟨0x31c0, 0x31e3⟩,
    ⟨0x3200, 0x321e⟩, ⟨0x3220, 0x33ff⟩, ⟨0x4dc0, 0x4dff⟩, ⟨0xa490, 0xa4c6⟩, ⟨0xa6e6, 0xa6ef⟩,
    ⟨0xa700, 0xa716⟩, ⟨0xa720, 0xa721⟩, ⟨0xa789, 0xa78a⟩, ⟨0xa828, 0xa82b⟩, ⟨0xa830, 0xa839⟩,
    ⟨0xaa77, 0xaa79⟩, ⟨0xab5b, 0xab5b⟩, ⟨0xab6a, 0xab6b⟩, ⟨0xfb00, 0xfb06⟩, ⟨0xfb13, 0xfb17⟩,
    ⟨0xfb1e, 0xfb1e⟩, ⟨0xfb29, 0xfb29⟩, ⟨0xfbb2, 0xfbc2⟩, ⟨0xfd3e, 0xfd4f⟩, ⟨0xfdcf, 0xfdcf⟩,
    ⟨0xfdfc, 0xfdff⟩, ⟨0xfe10, 0xfe19⟩, ⟨0xfe30, 0xfe4f⟩, ⟨0xfe62, 0xfe62⟩, ⟨0xfe64, 0xfe66⟩,
    ⟨0xfe69, 0xfe69⟩, ⟨0xff01, 0xff0f⟩, ⟨0xff1a, 0xff65⟩, ⟨0xff70, 0xff70⟩, ⟨0xff9e, 0xff9f⟩,
    ⟨0xffe0, 0xffe6⟩, ⟨0xffe8, 0xffee⟩, ⟨0xfffc, 0xfffd⟩, ⟨0x10107, 0x10133⟩, ⟨0x10137, 0x1018e⟩,
    ⟨0x10190, 0x1019c⟩, ⟨0x101a0, 0x101a0⟩, ⟨0x101d0, 0x101fc⟩, ⟨0x102e1, 0x102fb⟩,
    ⟨0x10320, 0x10323⟩, ⟨0x10341, 0x10341⟩, ⟨0x1034a, 0x1034a⟩, ⟨0x103d1, 0x103d5⟩,
    ⟨0x10858, 0x1085f⟩, ⟨0x10877, 0x1087f⟩, ⟨0x108a7, 0x108af⟩, ⟨0x108fb, 0x108ff⟩,
    ⟨0x10916, 0x1091b⟩, ⟨0x109bc, 0x109bd⟩, ⟨0x109c0, 0x109cf⟩, ⟨0x109d2, 0x109ff⟩,
    ⟨0x10a44, 0x10a48⟩, ⟨0x10a7d, 0x10a7e⟩, ⟨0x10a9d, 0x10a9f⟩, ⟨0x10ac8, 0x10ac8⟩,
    ⟨0x10aeb, 0x10aef⟩, ⟨0x10b58, 0x10b5f⟩, ⟨0x10b78, 0x10b7f⟩, ⟨0x10ba9, 0x10baf⟩,
    ⟨0x10cfa, 0x10cff⟩, ⟨0x10e69, 0x10e7e⟩, ⟨0x10f1d, 0x10f26⟩, ⟨0x10f51, 0x10f54⟩,
    ⟨0x10fc5, 0x10fcb⟩, ⟨0x1105b, 0x11065⟩, ⟨0x111e1, 0x111f4⟩, ⟨0x1173a, 0x1173b⟩,
    ⟨0x1173f, 0x1173f⟩, ⟨0x118ea, 0x118f2⟩, ⟨0x11c5a, 0x11c6c⟩, ⟨0x11fc0, 0x11ff1⟩,
    ⟨0x12400, 0x1246e⟩, ⟨0x16b3c, 0x16b3f⟩, ⟨0x16b45, 0x16b45⟩, ⟨0x16b5b, 0x16b61⟩,
    ⟨0x16e80, 0x16e96⟩, ⟨0x1bc9c, 0x1bc9c⟩, ⟨0x1cf50, 0x1cfc3⟩, ⟨0x1d000, 0x1d0f5⟩,
    ⟨0x1d100, 0x1d126⟩, ⟨0x1d129, 0x1d164⟩, ⟨0x1d16a, 0x1d16c⟩, ⟨0x1d183, 0x1d184⟩,
    ⟨0x1d18c, 0x1d1a9⟩, ⟨0x1d1ae, 0x1d1ea⟩, ⟨0x1d200, 0x1d241⟩, ⟨0x1d245, 0x1d245⟩,
    ⟨0x1d2e0, 0x1d2f3⟩, ⟨0x1d300, 0x1d356⟩, ⟨0x1d360, 0x1d378⟩, ⟨0x1d6c1, 0x1d6c1⟩,
    ⟨0x1d6db, 0x1d6db⟩, ⟨0x1d6fb, 0x1d6fb⟩, ⟨0x1d715, 0x1d715⟩, ⟨0x1d735, 0x1d735⟩,
    ⟨0x1d74f, 0x1d74f⟩, ⟨0x1d76f, 0x1d76f⟩, ⟨0x1d789, 0x1d789⟩, ⟨0x1d7a9, 0x1d7a9⟩,
    ⟨0x1d7c3, 0x1d7c3⟩, ⟨0x1d800, 0x1d9ff⟩, ⟨0x1da37, 0x1da3a⟩, ⟨0x1da6d, 0x1da74⟩,
    ⟨0x1da76, 0x1da83⟩, ⟨0x1da85, 0x1da86⟩, ⟨0x1e14f, 0x1e14f⟩, ⟨0x1e2ff, 0x1e2ff⟩,
    ⟨0x1e8c7, 0x1e8cf⟩, ⟨0x1ec71, 0x1ecb4⟩, ⟨0x1ed01, 0x1ed3d⟩, ⟨0x1eef0, 0x1eef1⟩,
    ⟨0x1f000, 0x1f02b⟩, ⟨0x1f030, 0x1f093⟩, ⟨0x1f0a0, 0x1f0ae⟩, ⟨0x1f0b1, 0x1f0bf⟩,
    ⟨0x1f0c1, 0x1f0cf⟩, ⟨0x1f0d1, 0x1f0f5⟩, ⟨0x1f10b, 0x1f1ad⟩, ⟨0x1f1e6, 0x1f202⟩,
    ⟨0x1f210, 0x1f23b⟩, ⟨0x1f240, 0x1f248⟩, ⟨0x1f250, 0x1f251⟩, ⟨0x1f260, 0x1f265⟩,
    ⟨0x1f300, 0x1f6d7⟩, ⟨0x1f6dd, 0x1f6ec⟩, ⟨0x1f6f0, 0x1f6fc⟩, ⟨0x1f700, 0x1f773⟩,
    ⟨0x1f780, 0x1f7d8⟩, ⟨0x1f7e0, 0x1f7eb⟩, ⟨0x1f7f0, 0x1f7f0⟩, ⟨0x1f800, 0x1f80b⟩,
    ⟨0x1f810, 0x1f847⟩, ⟨0x1f850, 0x1f859⟩, ⟨0x1f860, 0x1f887⟩, ⟨0x1f890, 0x1f8ad⟩,
    ⟨0x1f8b0, 0x1f8b1⟩, ⟨0x1f900, 0x1fa53⟩, ⟨0x1fa60, 0x1fa6d⟩, ⟨0x1fa70, 0x1fa74⟩,
    ⟨0x1fa78, 0x1fa7c⟩, ⟨0x1fa80, 0x1fa86⟩, ⟨0x1fa90, 0x1faac⟩, ⟨0x1fab0, 0x1faba⟩,
    ⟨0x1fac0, 0x1fac5⟩, ⟨0x1fad0, 0x1fad9⟩, ⟨0x1fae0, 0x1fae7⟩, ⟨0x1faf0, 0x1faf6⟩,
    ⟨0x1fb00, 0x1fb92⟩, ⟨0x1fb94, 0x1fbca⟩]

def isSymbol (character : Char) : Bool := inRanges symbolRanges character

/-! ## Digits

Raised, lowered and circled digits are digits too, but no decimal number is written with
them. -/

def otherDigitRanges : List CharacterRange :=
  [⟨0xb2, 0xb3⟩, ⟨0xb9, 0xb9⟩, ⟨0x1369, 0x1371⟩, ⟨0x19da, 0x19da⟩, ⟨0x2070, 0x2070⟩,
    ⟨0x2074, 0x2079⟩, ⟨0x2080, 0x2089⟩, ⟨0x2460, 0x2468⟩, ⟨0x2474, 0x247c⟩, ⟨0x2488, 0x2490⟩,
    ⟨0x24ea, 0x24ea⟩, ⟨0x24f5, 0x24fd⟩, ⟨0x24ff, 0x24ff⟩, ⟨0x2776, 0x277e⟩, ⟨0x2780, 0x2788⟩,
    ⟨0x278a, 0x2792⟩, ⟨0x10a40, 0x10a43⟩, ⟨0x10e60, 0x10e68⟩, ⟨0x11052, 0x1105a⟩,
    ⟨0x1f100, 0x1f10a⟩]

/-- A digit of any script, decimal or not. -/
def isDigitLike (character : Char) : Bool :=
  (digitValue? character).isSome || inRanges otherDigitRanges character

end ContractRollout
