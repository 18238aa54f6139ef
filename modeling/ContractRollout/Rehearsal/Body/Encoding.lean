import ContractRollout.Text.CodeUnit

/-!
# Encodings

Bytes received over a network hold a text in an encoding that they show or declare.
-/

namespace ContractRollout

/-! ## Encoding schemes

Bytes received over a network hold a text in UTF-8, with or without a mark in front,
in UTF-16 or in UTF-32. The places of the zeros among the first four bytes show which:
they are those of two ASCII characters in UTF-16 or of one in UTF-32. -/

/-- Which byte of a number comes first. -/
inductive ByteOrder where
  | greatestFirst
  | leastFirst
  deriving DecidableEq, Repr

def ByteOrder.number (order : ByteOrder) (bytes : List UInt8) : Nat :=
  match order with
  | greatestFirst => bytes.foldl (fun number byte => 256 * number + byte.toNat) 0
  | leastFirst => bytes.foldr (fun byte number => 256 * number + byte.toNat) 0

/-- A way to hold a text in bytes. -/
inductive EncodingScheme where
  | utf8
  /-- UTF-8 after a byte order mark, which is no part of the text. -/
  | markedUtf8
  | utf16 (order : ByteOrder)
  | utf32 (order : ByteOrder)
  deriving DecidableEq, Repr

/-- The scheme that the first four bytes show. -/
def EncodingScheme.shown? : List UInt8 → Option EncodingScheme
  | 0xef :: 0xbb :: 0xbf :: _ :: _ => some markedUtf8
  | first :: second :: third :: fourth :: _ =>
      match first == 0, second == 0, third == 0, fourth == 0 with
      | false, false, false, false => some utf8
      | true, false, true, false => some (utf16 .greatestFirst)
      | false, true, false, true => some (utf16 .leastFirst)
      | true, true, true, false => some (utf32 .greatestFirst)
      | false, true, true, true => some (utf32 .leastFirst)
      | _, _, _, _ => none
  | _ => none

/-- The character with a code point; a surrogate has none. -/
def characterOfCode? (code : Nat) : Option Char :=
  if code.isValidChar then some (Char.ofNat code) else none

/-- The characters of code units, if every surrogate is in a pair. -/
def charactersOfUnits? : List Nat → Option (List Char)
  | [] => some []
  | unit :: rest =>
      match characterOfCode? unit, rest with
      | some character, rest => (charactersOfUnits? rest).map (character :: ·)
      | none, next :: rest =>
          match pairedCharacter? unit next with
          | some character => (charactersOfUnits? rest).map (character :: ·)
          | none => none
      | none, [] => none

namespace ByteOrder

/-- The numbers of two bytes each, if no byte is left over. -/
def pairs? (order : ByteOrder) : List UInt8 → Option (List Nat)
  | [] => some []
  | first :: second :: rest => (pairs? order rest).map (order.number [first, second] :: ·)
  | [_] => none

/-- The numbers of four bytes each, if no byte is left over. -/
def quadruples? (order : ByteOrder) : List UInt8 → Option (List Nat)
  | [] => some []
  | first :: second :: third :: fourth :: rest =>
      (quadruples? order rest).map (order.number [first, second, third, fourth] :: ·)
  | _ => none

def utf16Text? (order : ByteOrder) (bytes : List UInt8) : Option (List Char) :=
  (order.pairs? bytes).bind charactersOfUnits?

def utf32Text? (order : ByteOrder) (bytes : List UInt8) : Option (List Char) :=
  (order.quadruples? bytes).bind (·.mapM characterOfCode?)

end ByteOrder

/-! ## Declared character sets

A text may say in which character set it is, as in `charset=utf-8`. Its bytes are searched
for the first such declaration with a known name; only ASCII characters count. A name may
be written with hyphens or underscores, and in capitals. -/

/-- What a declared character set says about bytes. -/
inductive Charset where
  | utf16 (order : ByteOrder)
  | utf32 (order : ByteOrder)
  /-- A set that has ASCII characters as they are and otherwise Latin letters or all. -/
  | latin
  /-- Any other set. -/
  | other
  deriving DecidableEq, Repr

namespace Charset

def wideNames : List (String × Charset) :=
  [("unicodebigunmarked", utf16 .greatestFirst), ("utf_16_be", utf16 .greatestFirst),
    ("utf_16be", utf16 .greatestFirst), ("unicodelittleunmarked", utf16 .leastFirst),
    ("utf_16_le", utf16 .leastFirst), ("utf_16le", utf16 .leastFirst),
    ("utf_32_be", utf32 .greatestFirst), ("utf_32be", utf32 .greatestFirst),
    ("utf_32_le", utf32 .leastFirst), ("utf_32le", utf32 .leastFirst)]

/-- The names of character sets with Latin letters. -/
def latinNames : List String :=
  ["1250", "1252", "1254", "1257", "1258", "775", "850", "852", "857", "858", "864", "8859",
    "cp1051", "cp1250", "cp1252", "cp1254", "cp1257", "cp1258", "cp65001", "cp775", "cp819",
    "cp850", "cp852", "cp857", "cp858", "cp864", "csibm857", "csibm858", "csibm864",
    "csisolatin1", "csisolatin2", "csisolatin3", "csisolatin4", "csisolatin5", "csisolatin6",
    "cspc775baltic", "cspc850multilingual", "cspcp852", "hp_roman8", "ibm1051", "ibm775",
    "ibm819", "ibm850", "ibm852", "ibm857", "ibm858", "ibm864", "iso8859", "iso8859_1",
    "iso8859_10", "iso8859_13", "iso8859_14", "iso8859_15", "iso8859_16", "iso8859_2",
    "iso8859_3", "iso8859_4", "iso8859_9", "iso_8859_1", "iso_8859_10", "iso_8859_10_1992",
    "iso_8859_13", "iso_8859_14", "iso_8859_14_1998", "iso_8859_15", "iso_8859_16",
    "iso_8859_16_2001", "iso_8859_1_1987", "iso_8859_2", "iso_8859_2_1987", "iso_8859_3",
    "iso_8859_3_1988", "iso_8859_4", "iso_8859_4_1988", "iso_8859_9", "iso_8859_9_1989",
    "iso_celtic", "iso_ir_100", "iso_ir_101", "iso_ir_109", "iso_ir_110", "iso_ir_148",
    "iso_ir_157", "iso_ir_199", "iso_ir_226", "l1", "l10", "l2", "l3", "l4", "l5", "l6", "l7",
    "l8", "l9", "latin", "latin1", "latin10", "latin2", "latin3", "latin4", "latin5", "latin6",
    "latin7", "latin8", "latin9", "latin_1", "mac_centeuro", "mac_iceland", "mac_latin2",
    "mac_roman", "mac_turkish", "maccentraleurope", "maciceland", "macintosh", "maclatin2",
    "macroman", "macturkish", "r8", "roman8", "u8", "utf", "utf8", "utf8_ucs2", "utf8_ucs4",
    "utf_8", "windows_1250", "windows_1252", "windows_1254", "windows_1257", "windows_1258"]

def otherNames : List String :=
  ["037", "1026", "1125", "1140", "1251", "1253", "1255", "1256", "273", "424", "437", "500",
    "646", "855", "860", "861", "862", "863", "865", "866", "869", "932", "936", "949", "950",
    "ansi", "ansi_x3_4_1968", "arabic", "ascii", "asmo_708", "base64", "base64_codec", "base_64",
    "big5", "big5_hkscs", "big5_tw", "big5hkscs", "bz2", "bz2_codec", "chinese", "cp037",
    "cp1026", "cp1125", "cp1140", "cp1251", "cp1253", "cp1255", "cp1256", "cp1361", "cp154",
    "cp273", "cp367", "cp424", "cp437", "cp500", "cp855", "cp860", "cp861", "cp862", "cp863",
    "cp865", "cp866", "cp866u", "cp869", "cp932", "cp936", "cp949", "cp950", "cp_gr", "cp_is",
    "csascii", "csbig5", "csibm037", "csibm1026", "csibm273", "csibm424", "csibm500", "csibm855",
    "csibm860", "csibm861", "csibm863", "csibm865", "csibm866", "csibm869", "csiso2022jp",
    "csiso2022kr", "csiso58gb231280", "csisolatinarabic", "csisolatincyrillic",
    "csisolatingreek", "csisolatinhebrew", "cskoi8r", "cspc862latinhebrew", "cspc8codepage437",
    "csptcp154", "csshiftjis", "cyrillic", "cyrillic_asian", "dbcs", "ebcdic_cp_be",
    "ebcdic_cp_ca", "ebcdic_cp_ch", "ebcdic_cp_he", "ebcdic_cp_nl", "ebcdic_cp_us",
    "ebcdic_cp_wt", "ecma_114", "ecma_118", "elot_928", "euc_cn", "euc_jis2004", "euc_jis_2004",
    "euc_jisx0213", "euc_jp", "euc_kr", "euccn", "eucgb2312_cn", "eucjis2004", "eucjisx0213",
    "eucjp", "euckr", "gb18030", "gb18030_2000", "gb2312", "gb2312_1980", "gb2312_80", "gbk",
    "greek", "greek8", "hebrew", "hex", "hex_codec", "hkscs", "hz", "hz_gb", "hz_gb_2312",
    "hzgb", "ibm037", "ibm039", "ibm1026", "ibm1125", "ibm1140", "ibm273", "ibm367", "ibm424",
    "ibm437", "ibm500", "ibm855", "ibm860", "ibm861", "ibm862", "ibm863", "ibm865", "ibm866",
    "ibm869", "iso2022_jp", "iso2022_jp_1", "iso2022_jp_2", "iso2022_jp_2004", "iso2022_jp_3",
    "iso2022_jp_ext", "iso2022_kr", "iso2022jp", "iso2022jp_1", "iso2022jp_2", "iso2022jp_2004",
    "iso2022jp_3", "iso2022jp_ext", "iso2022kr", "iso646_us", "iso8859_11", "iso8859_5",
    "iso8859_6", "iso8859_7", "iso8859_8", "iso_2022_jp", "iso_2022_jp_1", "iso_2022_jp_2",
    "iso_2022_jp_2004", "iso_2022_jp_3", "iso_2022_jp_ext", "iso_2022_kr", "iso_8859_11",
    "iso_8859_11_2001", "iso_8859_5", "iso_8859_5_1988", "iso_8859_6", "iso_8859_6_1987",
    "iso_8859_7", "iso_8859_7_1987", "iso_8859_8", "iso_8859_8_1988", "iso_ir_126", "iso_ir_127",
    "iso_ir_138", "iso_ir_144", "iso_ir_166", "iso_ir_58", "iso_ir_6", "jisx0213", "johab",
    "koi8_r", "korean", "ks_c_5601", "ks_c_5601_1987", "ks_x_1001", "ksc5601", "ksx1001",
    "kz1048", "kz_1048", "mac_cyrillic", "mac_greek", "maccyrillic", "macgreek", "mbcs",
    "ms1361", "ms932", "ms936", "ms949", "ms950", "ms_kanji", "mskanji", "pt154", "ptcp154",
    "quopri", "quopri_codec", "quoted_printable", "quotedprintable", "rk1048", "rot13", "rot_13",
    "ruscii", "s_jis", "s_jis_2004", "s_jisx0213", "shift_jis", "shift_jis_2004",
    "shift_jisx0213", "shiftjis", "shiftjis2004", "shiftjisx0213", "sjis", "sjis_2004",
    "sjisx0213", "strk1048_2002", "thai", "tis620", "tis_620", "tis_620_0", "tis_620_2529_0",
    "tis_620_2529_1", "u16", "u32", "u7", "u_jis", "uhc", "ujis", "unicode_1_1_utf_7", "us",
    "us_ascii", "utf16", "utf32", "utf7", "utf_16", "utf_32", "utf_7", "uu", "uu_codec",
    "windows_1251", "windows_1253", "windows_1255", "windows_1256", "x_mac_japanese",
    "x_mac_korean", "x_mac_simp_chinese", "x_mac_trad_chinese", "zip", "zlib", "zlib_codec"]

/-- The character set with a name. -/
def named? (name : String) : Option Charset :=
  (wideNames.lookup name).or <|
    if latinNames.contains name then some latin
    else if otherNames.contains name then some other
    else none

def isNameCharacter (character : Char) : Bool :=
  character.isAlphanum || character == '-' || character == '_'

/-- A name in small letters and with underscores. -/
def normalName (name : List Char) : String :=
  String.ofList (name.map fun character => if character = '-' then '_' else character.toLower)

/-- The name that is declared by the beginning of a text, and how long the declaration is:
a keyword, up to ten colons, equals signs or spaces, perhaps a quote, and the name. The
keyword `encoding` ends in another one, so it needs no case of its own. -/
def declaration? (text : List Char) : Option (String × Nat) := do
  let keyword ← ["coding", "charset"].find? fun keyword =>
    keyword.toList.isPrefixOf (text.map Char.toLower)
  let rest := text.drop keyword.length
  let signs := rest.takeWhile [':', '=', ' '].contains
  guard (0 < signs.length && signs.length ≤ 10)
  let rest := rest.drop signs.length
  let quote := (rest.take 1).filter ['\x22', '\x27'].contains
  let name := (rest.drop quote.length).takeWhile isNameCharacter
  guard !name.isEmpty
  return (normalName name, keyword.length + signs.length + quote.length + name.length)

/-- The names declared in a text of which some characters are yet to be passed over. -/
def declaredNames (passed : Nat) : List Char → List String
  | [] => []
  | character :: rest =>
      match passed with
      | passed + 1 => declaredNames passed rest
      | 0 =>
          match declaration? (character :: rest) with
          | some (name, length) => name :: declaredNames (length - 1) rest
          | none => declaredNames 0 rest

/-- The first known character set that bytes declare among the first 8192. -/
def declared? (bytes : List UInt8) : Option Charset :=
  let ascii := (bytes.take 8192).filter (· < 0x80)
  (declaredNames 0 (ascii.map fun byte => Char.ofNat byte.toNat)).findSome? named?

end Charset

end ContractRollout
