import ContractRollout.Json.Members
import ContractRollout.Number.Integer
import ContractRollout.Number.Shortest
import ContractRollout.Text.CodeUnit
import ContractRollout.Text.Lines

/-!
# Reading values

Reading works on the characters that remain and stops at the first one that cannot
go on a value; where it stopped is told by what remains there. The three names of
doubles that are no numbers are read too, and of several members with one key the
last counts, in the place of the first.

Two things are idealised. Values are read however deeply they are nested, while a reader
on a machine gives up when its stack is used up. And texts are made of characters, of
which a surrogate that is escaped outside of a pair is none: `loneCharacter` puts the
replacement character in its place, so that texts and keys which differ by such
surrogates only are read as the same. What is proved of reading is not meant for them.
-/

namespace ContractRollout

namespace Json

/-- A reason why a text is not a value. -/
inductive Problem where
  | expectedValue
  | expectedName
  | expectedColon
  | expectedComma
  | extraData
  | unterminatedString
  | controlCharacter
  | badEscape
  | badCode
  | byteOrderMark
  | longInteger
  deriving DecidableEq, Repr

def Problem.message : Problem → String
  | expectedValue => "Expecting value"
  | expectedName => "Expecting property name enclosed in double quotes"
  | expectedColon => "Expecting ':' delimiter"
  | expectedComma => "Expecting ',' delimiter"
  | extraData => "Extra data"
  | unterminatedString => "Unterminated string starting at"
  | controlCharacter => "Invalid control character at"
  | badEscape => "Invalid \\escape"
  | badCode => "Invalid \\uXXXX escape"
  | byteOrderMark => "Unexpected UTF-8 BOM (decode using utf-8-sig)"
  | longInteger => "Exceeds the limit (4300 digits) for integer string conversion"

/-- Where reading stopped, and why. -/
structure Stop where
  problem : Problem
  rest : List Char

def isSpace (character : Char) : Bool :=
  character == ' ' || character == '\t' || character == '\n' || character == '\r'

def skipSpace (text : List Char) : List Char := text.dropWhile isSpace

/-! ### Texts -/

/-- A part of a text in quotes: a character, or an escaped UTF-16 code unit. -/
inductive Piece where
  | character (value : Char)
  | unit (code : Nat)
  deriving DecidableEq, Repr

/-- The character that a letter after a backslash stands for. -/
def escapedCharacter? (letter : Char) : Option Char :=
  if letter = '\x22' || letter = '\x5c' || letter = '/' then some letter
  else if letter = 'n' then some '\n'
  else if letter = 'r' then some '\r'
  else if letter = 't' then some '\t'
  else if letter = 'f' then some '\x0c'
  else if letter = 'b' then some '\x08'
  else none

/-- The pieces up to the closing quote. The opening quote is the first character
of `opening`. -/
def readPieces (opening : List Char) : List Char → Except Stop (List Piece × List Char)
  | [] => .error ⟨.unterminatedString, opening⟩
  | '\x22' :: rest => .ok ([], rest)
  | '\x5c' :: 'u' :: first :: second :: third :: fourth :: rest =>
      match numberOfHex? [first, second, third, fourth] with
      | some code =>
          if rest.isEmpty then
            .error ⟨.badCode, 'u' :: first :: second :: third :: fourth :: rest⟩
          else do
            let (pieces, rest) ← readPieces opening rest
            return (.unit code :: pieces, rest)
      | none => .error ⟨.badCode, 'u' :: first :: second :: third :: fourth :: rest⟩
  | '\x5c' :: letter :: rest =>
      match escapedCharacter? letter with
      | some character => do
          let (pieces, rest) ← readPieces opening rest
          return (.character character :: pieces, rest)
      | none =>
          if letter = 'u' then .error ⟨.badCode, letter :: rest⟩
          else .error ⟨.badEscape, '\x5c' :: letter :: rest⟩
  | '\x5c' :: [] => .error ⟨.unterminatedString, opening⟩
  | character :: rest =>
      if character < ' ' then .error ⟨.controlCharacter, character :: rest⟩
      else do
        let (pieces, rest) ← readPieces opening rest
        return (.character character :: pieces, rest)

/-- The character of a code unit on its own. A lone surrogate has no character and becomes
the replacement character like any other one, so texts with lone surrogates are outside of
what is modelled here. -/
def loneCharacter (code : Nat) : Char :=
  if 0xd800 ≤ code ∧ code < 0xe000 then '\ufffd' else Char.ofNat code

/-- The character of a piece on its own. -/
def Piece.alone : Piece → Char
  | character value => value
  | unit code => loneCharacter code

/-- Pieces put together, escaped surrogates in pairs. -/
def joinPieces : List Piece → List Char
  | [] => []
  | .unit code :: .unit next :: rest =>
      match pairedCharacter? code next with
      | some character => character :: joinPieces rest
      | none => loneCharacter code :: joinPieces (.unit next :: rest)
  | piece :: rest => piece.alone :: joinPieces rest

/-- A text in quotes, from after its opening quote. -/
def readString (opening text : List Char) : Except Stop (String × List Char) := do
  let (pieces, rest) ← readPieces opening text
  return (String.ofList (joinPieces pieces), rest)

/-! ### Numbers -/

/-- A number as it is spelled. -/
structure Numeral where
  negative : Bool
  whole : List Char
  /-- The digits after the point, none when there is no point. -/
  fraction : List Char
  /-- The sign and the digits of the exponent. -/
  exponent : Option (Bool × List Char)

/-- The digits before the point: a zero alone or digits that do not start with one. -/
def readWhole? : List Char → Option (List Char × List Char)
  | '0' :: rest => some (['0'], rest)
  | text =>
      let digits := text.takeWhile Char.isDigit
      if digits.isEmpty then none else some (digits, text.dropWhile Char.isDigit)

/-- A point with digits after it, if the text goes on so. -/
def readFraction : List Char → List Char × List Char
  | '.' :: rest =>
      let digits := rest.takeWhile Char.isDigit
      if digits.isEmpty then ([], '.' :: rest) else (digits, rest.dropWhile Char.isDigit)
  | text => ([], text)

/-- An exponent with digits, if the text goes on so. -/
def readExponent : List Char → Option (Bool × List Char) × List Char
  | [] => (none, [])
  | mark :: rest =>
      let (negative, unsigned) := splitSign rest
      let digits := unsigned.takeWhile Char.isDigit
      if (mark = 'e' || mark = 'E') && !digits.isEmpty then
        (some (negative, digits), unsigned.dropWhile Char.isDigit)
      else (none, mark :: rest)

/-- The longest number at the start of a text. -/
def readNumeral? (text : List Char) : Option (Numeral × List Char) :=
  let (negative, unsigned) :=
    match text with
    | '-' :: rest => (true, rest)
    | _ => (false, text)
  (readWhole? unsigned).map fun (whole, rest) =>
    let (fraction, rest) := readFraction rest
    let (exponent, rest) := readExponent rest
    (⟨negative, whole, fraction, exponent⟩, rest)

namespace Numeral

def isInteger (numeral : Numeral) : Bool := numeral.fraction.isEmpty && numeral.exponent.isNone

/-- The decimal of a number's digits. -/
def decimal (numeral : Numeral) : Decimal :=
  let exponent : Int :=
    match numeral.exponent with
    | none => 0
    | some (true, digits) => -naturalOfDigits digits
    | some (false, digits) => naturalOfDigits digits
  ⟨naturalOfDigits (numeral.whole ++ numeral.fraction), exponent - numeral.fraction.length⟩

/-- A number without point and exponent is an integer, any other one the nearest double. -/
def value (numeral : Numeral) : Number :=
  if numeral.isInteger then
    let magnitude : Int := naturalOfDigits numeral.whole
    .integer (if numeral.negative then -magnitude else magnitude)
  else .real (numeral.decimal.toBinary64 numeral.negative)

end Numeral

/-! ### Values -/

/-- The values that are spelled as one word. -/
def words : List (List Char × Json) :=
  [("null".toList, .null), ("true".toList, .bool true), ("false".toList, .bool false),
    ("NaN".toList, .number (.real .nan)),
    ("Infinity".toList, .number (.real (.infinite false))),
    ("-Infinity".toList, .number (.real (.infinite true)))]

/-- What follows a word at the start of a text. -/
def dropWord? : List Char → List Char → Option (List Char)
  | [], text => some text
  | _ :: _, [] => none
  | letter :: word, character :: text => if letter = character then dropWord? word text else none

/-- A value without parts: a word or a number. -/
def readAtom (text : List Char) : Except Stop (Json × List Char) :=
  match words.findSome? fun (word, value) => (dropWord? word text).map (value, ·) with
  | some reading => .ok reading
  | none =>
      match readNumeral? text with
      | none => .error ⟨.expectedValue, text⟩
      | some (numeral, rest) =>
          if numeral.isInteger && digitLimit < numeral.whole.length then
            .error ⟨.longInteger, text⟩
          else .ok (.number numeral.value, rest)

mutual

/-- A value at the start of a text. The bound is on the values that are read inside or
after one another; each of them takes a character, and its container may take one more
step, so twice the length of the text is never reached. -/
def readValue : Nat → List Char → Except Stop (Json × List Char)
  | 0, text => .error ⟨.expectedValue, text⟩
  | bound + 1, text =>
      match text with
      | '\x22' :: rest => do
          let (value, rest) ← readString text rest
          return (.string value, rest)
      | '[' :: rest =>
          match skipSpace rest with
          | ']' :: rest => .ok (.array [], rest)
          | rest => do
              let (items, rest) ← readItems bound rest
              return (.array items, rest)
      | '\x7b' :: rest =>
          match skipSpace rest with
          | '\x7d' :: rest => .ok (.object [], rest)
          | rest => do
              let (members, rest) ← readMembers bound rest
              return (.object members.collect, rest)
      | _ => readAtom text

/-- The items of an array from the first of them to the closing bracket. -/
def readItems : Nat → List Char → Except Stop (List Json × List Char)
  | 0, text => .error ⟨.expectedValue, text⟩
  | bound + 1, text => do
      let (item, rest) ← readValue bound text
      match skipSpace rest with
      | ']' :: rest => return ([item], rest)
      | ',' :: rest =>
          let (items, rest) ← readItems bound (skipSpace rest)
          return (item :: items, rest)
      | rest => .error ⟨.expectedComma, rest⟩

/-- The members of an object from the first of them to the closing brace. -/
def readMembers : Nat → List Char → Except Stop (Members × List Char)
  | 0, text => .error ⟨.expectedName, text⟩
  | bound + 1, text =>
      match text with
      | '\x22' :: rest => do
          let (key, rest) ← readString text rest
          match skipSpace rest with
          | ':' :: rest =>
              let (value, rest) ← readValue bound (skipSpace rest)
              match skipSpace rest with
              | '\x7d' :: rest => return ([(key, value)], rest)
              | ',' :: rest =>
                  let (members, rest) ← readMembers bound (skipSpace rest)
                  return ((key, value) :: members, rest)
              | rest => .error ⟨.expectedComma, rest⟩
          | rest => .error ⟨.expectedColon, rest⟩
      | _ => .error ⟨.expectedName, text⟩

end

/-- A whole text: one value with space around it. -/
def readDocument (text : List Char) : Except Stop Json :=
  match text with
  | '\ufeff' :: _ => .error ⟨.byteOrderMark, text⟩
  | _ => do
      let (value, rest) ← readValue (2 * text.length + 1) (skipSpace text)
      match skipSpace rest with
      | [] => return value
      | rest => .error ⟨.extraData, rest⟩

/-- Why a text could not be read, with the place in it. -/
structure ReadError where
  problem : Problem
  line : Nat
  column : Nat
  position : Nat
  deriving DecidableEq, Repr

/-- The message of an error: the problem and its place. -/
def ReadError.message (error : ReadError) : String :=
  match error.problem with
  | .longInteger => error.problem.message
  | problem =>
      problem.message ++ ": line " ++ toString error.line ++ " column " ++ toString error.column
        ++ " (char " ++ toString error.position ++ ")"

/-- The value that a text spells, of any depth. Lone surrogates in it are not told apart. -/
def read (text : List Char) : Except ReadError Json :=
  match readDocument text with
  | .ok value => .ok value
  | .error stop =>
      let position := text.length - stop.rest.length
      .error ⟨stop.problem, lineOf text position, columnOf text position, position⟩

end Json

end ContractRollout
