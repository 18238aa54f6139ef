/-!
# Classes of characters

A class of characters is a list of code point ranges, both ends included.
-/

namespace ContractRollout

/-- The code points from `first` to `last`. -/
structure CharacterRange where
  first : Nat
  last : Nat
  deriving DecidableEq, Repr

namespace CharacterRange

def contains (range : CharacterRange) (character : Char) : Bool :=
  range.first ≤ character.toNat && character.toNat ≤ range.last

end CharacterRange

/-- A character of a class given by its ranges. -/
def inRanges (ranges : List CharacterRange) (character : Char) : Bool :=
  ranges.any (·.contains character)

/-! ## Blank characters

The white space of Unicode together with the four information separators. The
line feed, the tabulator and the space are among them; the zero width space and
the byte order mark are not. -/

def blankRanges : List CharacterRange :=
  [⟨0x9, 0xd⟩, ⟨0x1c, 0x20⟩, ⟨0x85, 0x85⟩, ⟨0xa0, 0xa0⟩, ⟨0x1680, 0x1680⟩,
    ⟨0x2000, 0x200a⟩, ⟨0x2028, 0x2029⟩, ⟨0x202f, 0x202f⟩, ⟨0x205f, 0x205f⟩, ⟨0x3000, 0x3000⟩]

def isBlank (character : Char) : Bool := inRanges blankRanges character

/-- Characters without the blanks at either end. -/
def stripBlanks (characters : List Char) : List Char :=
  ((characters.dropWhile isBlank).reverse.dropWhile isBlank).reverse

/-- A text without the blanks at either end. -/
def stripped (text : String) : String := String.ofList (stripBlanks text.toList)

/-- A text without the given characters at its end. -/
def withoutTrailing (character : Char) (text : String) : String :=
  String.ofList (text.toList.reverse.dropWhile (· == character)).reverse

/-! ## Decimal digits

Every script with decimal digits has them as ten consecutive characters, zero
first, so a digit is known by the zero that it follows. -/

/-- The digits for zero of all scripts, as code points. -/
def digitZeros : List Nat :=
  [0x30, 0x660, 0x6f0, 0x7c0, 0x966, 0x9e6, 0xa66, 0xae6, 0xb66, 0xbe6, 0xc66, 0xce6,
    0xd66, 0xde6, 0xe50, 0xed0, 0xf20, 0x1040, 0x1090, 0x17e0, 0x1810, 0x1946, 0x19d0,
    0x1a80, 0x1a90, 0x1b50, 0x1bb0, 0x1c40, 0x1c50, 0xa620, 0xa8d0, 0xa900, 0xa9d0, 0xa9f0,
    0xaa50, 0xabf0, 0xff10, 0x104a0, 0x10d30, 0x11066, 0x110f0, 0x11136, 0x111d0, 0x112f0,
    0x11450, 0x114d0, 0x11650, 0x116c0, 0x11730, 0x118e0, 0x11950, 0x11c50, 0x11d50,
    0x11da0, 0x16a60, 0x16ac0, 0x16b50, 0x1d7ce, 0x1d7d8, 0x1d7e2, 0x1d7ec, 0x1d7f6,
    0x1e140, 0x1e2f0, 0x1e950, 0x1fbf0]

/-- The value of a decimal digit of any script. -/
def digitValue? (character : Char) : Option Nat :=
  (digitZeros.find? fun first => first ≤ character.toNat && character.toNat < first + 10).map
    (character.toNat - ·)

end ContractRollout
