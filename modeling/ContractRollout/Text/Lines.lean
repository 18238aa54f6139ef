/-!
# Text files and lines

A text file holds UTF-8 and is read with every line end, a carriage return or one
followed by a line feed, as a single line feed. A position in a text has a line and
a column, both counted from one.
-/

namespace ContractRollout

def unifyLineEnds : List Char → List Char
  | [] => []
  | '\r' :: '\n' :: rest => '\n' :: unifyLineEnds rest
  | '\r' :: rest => '\n' :: unifyLineEnds rest
  | character :: rest => character :: unifyLineEnds rest

/-- The characters of a text file, if it is UTF-8. -/
def fileText? (bytes : ByteArray) : Option (List Char) :=
  (String.fromUTF8? bytes).map fun text => unifyLineEnds text.toList

def lineOf (text : List Char) (position : Nat) : Nat :=
  (text.take position).count '\n' + 1

def columnOf (text : List Char) (position : Nat) : Nat :=
  ((text.take position).reverse.takeWhile (· != '\n')).length + 1

/-- A text cut at every occurrence of a character. -/
def cutAt (separator : Char) : List Char → List (List Char)
  | [] => [[]]
  | character :: rest =>
      if character = separator then [] :: cutAt separator rest
      else
        match cutAt separator rest with
        | [] => [[character]]
        | piece :: pieces => (character :: piece) :: pieces

end ContractRollout
