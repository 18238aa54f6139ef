import ContractRollout.Rehearsal.Body.Block
import ContractRollout.Rehearsal.Body.Character
import ContractRollout.Rehearsal.Body.Letter
import ContractRollout.Text.Printable

/-!
# Plausible texts

Bytes read in the wrong way make a text that nobody wrote: it has control characters, is
crowded with signs or accents, puts scripts side by side that do not belong together, or
has odd words. A text is looked at several times while it is read, then as a whole, and
once more with an end of line after it. What is read so far has a share of each fault, and
the text is implausible as soon as the shares together reach a fifth.
-/

namespace ContractRollout

/-! ## Shares

A share is an exact fraction. Nothing is a share of an empty whole. -/

def total (numbers : List Nat) : Nat := numbers.foldl (· + ·) 0

def share (part whole : Nat) : Rat := (part : Rat) / (whole : Rat)

def shareFrom (limit : Rat) (part whole : Nat) : Rat :=
  if share part whole < limit then 0 else share part whole

/-- A share in parts of a thousand, to the nearest. -/
def perMille (part : Rat) : Nat := (1000 * part + 1 / 2).floor.toNat

/-! ## Runs of capital and small letters

A run is a character with the capital and small letters after it; the character that
ends it is no part of the next run. Few capitals stand between small letters. -/

/-- A run together with the character that ends it. -/
structure CaseRun where
  letters : List Char
  finish : Char
  deriving DecidableEq, Repr

namespace CaseRun

/-- Whether one character is a capital and the other one a small letter. -/
def changesCase (first second : Char) : Bool :=
  (isUpper first && isLower second) || (isLower first && isUpper second)

/-- How often the case changes twice in succession, no change counted twice. -/
def doubleChanges : List Char → Nat
  | first :: second :: third :: rest =>
      if changesCase first second && changesCase second third then
        doubleChanges (third :: rest) + 1
      else doubleChanges (second :: third :: rest)
  | _ => 0

/-- Whether changes of case in a run count: it has at most sixty-four characters, not
all of them ASCII, and does not end in a digit. -/
def counts (run : CaseRun) : Bool :=
  run.letters.length ≤ 64 && !run.letters.all (· ≤ '\x7f') && !isDigitLike run.finish

/-- The runs that end in a text, where the characters `begun` of a run stand in front
of it. -/
def ended (begun : List Char) : List Char → List CaseRun
  | [] => []
  | character :: rest =>
      if begun.isEmpty || isCased character then ended (begun ++ [character]) rest
      else ⟨begun, character⟩ :: ended [] rest

/-- The runs of a text. A run at its very end does not count, as it may go on. -/
def ofText (text : List Char) : List CaseRun := ended [] text

end CaseRun

/-! ## Words

A word is a run of letters and of signs among them, up to a blank or punctuation. What
is neither, such as a digit, is passed over. Some words look like nothing that anyone
writes, and those that no language has are foreign. -/

def endsWord (character : Char) : Bool :=
  isBlank character || isPunctuation character || ['+', '<', '>', '｜'].contains character

/-- A sign that counts as a part of the word it stands in. -/
def isWordSign (character : Char) : Bool :=
  isSymbol character && !(['=', '~', '|'].contains character)

/-- The words that end in a text, where the letters `begun` stand in front of it. -/
def endedWords (begun : List Char) : List Char → List (List Char)
  | [] => []
  | character :: rest =>
      if isLetter character then endedWords (begun ++ [character]) rest
      else if begun.isEmpty then endedWords [] rest
      else if endsWord character then begun :: endedWords [] rest
      else if isWordSign character then endedWords (begun ++ [character]) rest
      else endedWords begun rest

/-- The words of a text. A word at its very end does not count, as it may go on. -/
def wordsOf (text : List Char) : List (List Char) := endedWords [] text

/-- A word of four characters or more, half of them accented. -/
def isAccentHeavy (word : List Char) : Bool :=
  4 ≤ word.length && word.length ≤ 2 * word.countP isAccented

/-- A word with an accented capital at the end, unless it is all capitals. -/
def endsInAccentedCapital (word : List Char) : Bool :=
  word.getLast?.any (fun character => isAccented character && isUpper character)
    && !word.all isUpper

/-- A letter other than a plain Latin one or a glyph. -/
def isUncommonLetter (character : Char) : Bool :=
  isLetter character && (!isLatin character || isAccented character) && !isGlyph character

/-- A word of twenty-four characters or more with an uncommon letter, unless a few
capitals show that it is several words in one. -/
def isEndless (word : List Char) : Bool :=
  let capitals := word.countP isUpper
  24 ≤ word.length && word.any isUncommonLetter
    && (capitals == 0 || 3 * word.length < 10 * capitals)

def isForeign (word : List Char) : Bool :=
  isEndless word
    || (4 ≤ word.length && !isAccentHeavy word
      && (endsInAccentedCapital word || word.countP isGlyph == 1))

/-- A word that looks wrong. -/
def isOdd (word : List Char) : Bool :=
  isForeign word || isAccentHeavy word || !word.all isLetter

/-! ## Faults of a text -/

def dataSigns : List Char :=
  ['<', '>', '=', ':', '/', '&', ';', '\x7b', '\x7d', '[', ']', ',', '|', '\x22', '-', '(', ')']

def isDataSeparator (character : Char) : Bool := '\x1c' ≤ character && character ≤ '\x1f'

/-- A character that nobody types. -/
def isStray (character : Char) : Bool :=
  !isPrintable character && (!isBlank character || isDataSeparator character)
    && character != '\x1a' && character != '\ufeff'

/-- Eight times the share of stray characters. -/
def strayShare (text : List Char) : Rat := share (8 * text.countP isStray) text.length

/-- A small picture, such as a face. -/
def isPicture (character : Char) : Bool :=
  (blockOf? character).any fun block => block.mentions "Emoticons" || block.mentions "Pictographs"

/-- The weight of a character as a sign, nothing where it repeats the one before. -/
def signWeight (before : Option Char) (character : Char) : Nat :=
  if before = some character || dataSigns.contains character then 0
  else if isPunctuation character then 1
  else if isSymbol character && !isPicture character then 2
  else 0

/-- The share of signs among printable characters, nothing below three in ten. -/
def signShare (text : List Char) : Rat :=
  let printable := text.filter isPrintable
  let weights := List.zipWith signWeight (none :: printable.map some) printable
  shareFrom (3 / 10) (total weights) printable.length

/-- The share of accented letters, nothing below seven in twenty or among fewer than
eight letters. -/
def accentShare (text : List Char) : Rat :=
  let letters := text.filter isLetter
  if letters.length < 8 then 0
  else shareFrom (7 / 20) (letters.countP isAccented) letters.length

/-- How much two Latin letters in succession are the same letter with an accent, or both
capitals with one. -/
def accentRepetition (first second : Char) : Nat :=
  if isAccented first && isAccented second then
    (if isUpper first && isUpper second then 1 else 0)
      + (if unaccented first = unaccented second then 1 else 0)
  else 0

/-- Twice the share of accents repeated among Latin letters. -/
def repeatedAccentShare (text : List Char) : Rat :=
  let letters := text.filter isLatin
  share (2 * total (List.zipWith accentRepetition letters (letters.drop 1))) letters.length

/-- Whether two characters side by side, neither of which sets the other one apart, are
of scripts that are not written together. -/
def clash (first second : Char) : Bool :=
  let setsApart (character : Char) :=
    isBlank character || isPunctuation character || dataSigns.contains character
  !setsApart first && !setsApart second
    && !(match blockOf? first, blockOf? second with
      | some block, some other => block.goesWith other
      | _, _ => false)

/-- Twice the share of clashes, nothing in a text of at most thirteen characters. -/
def clashShare (text : List Char) : Rat :=
  let printable := text.filter isPrintable
  let clashes := (List.zipWith clash printable (printable.drop 1)).count true
  if printable.length ≤ 13 then 0 else share (2 * clashes) printable.length

/-- The share of characters that stand in odd words. Up to ten words, it counts only if
one of them is foreign. -/
def oddWordShare (text : List Char) : Rat :=
  let words := wordsOf text
  let size (words : List (List Char)) := total (words.map List.length)
  if words.length ≤ 10 && !words.any isForeign then 0
  else share (size (words.filter isOdd)) (size words)

/-- A tenth of the share of rare ideographs, if most ideographs are rare and there are
eight or more. -/
def rareIdeographShare (text : List Char) : Rat :=
  let ideographs := text.filter isIdeograph
  let rare := ideographs.countP isRareIdeograph
  if ideographs.length < 8 || 2 * rare ≤ ideographs.length then 0
  else share rare (10 * ideographs.length)

/-- The share of isolated forms among Arabic letters, if there are eight or more. -/
def isolatedFormShare (text : List Char) : Rat :=
  let letters := text.filter isArabic
  if letters.length < 8 then 0 else share (letters.countP isIsolatedForm) letters.length

/-- Twice the share of double changes of case. -/
def caseShare (text : List Char) : Rat :=
  let changes := ((CaseRun.ofText text).filter CaseRun.counts).map
    fun run => CaseRun.doubleChanges run.letters
  share (2 * total changes) text.length

/-- The shares of all faults in what is read of a text. -/
def faultShare (text : List Char) : Rat :=
  strayShare text + signShare text + accentShare text + repeatedAccentShare text
    + clashShare text + oddWordShare text + rareIdeographShare text + isolatedFormShare text
    + caseShare text

/-- How many characters are read from one look to the next. -/
def stride (length : Nat) : Nat :=
  if length < 511 then 32 else if length < 1024 then 64 else 128

/-- What is read of a text at each look before the last one. -/
def readings (text : List Char) : List (List Char) :=
  let step := stride text.length
  (List.range (text.length / step)).map (fun look => text.take ((look + 1) * step)) ++ [text]

/-- How little a text looks like one that somebody wrote, in parts of a thousand: the
faults at the first look that shows a fifth, or at the last one. -/
def implausibility (text : List Char) : Nat :=
  let early := (readings text).find? fun reading => 1 / 5 ≤ faultShare reading
  perMille (faultShare (early.getD (text ++ ['\n'])))

end ContractRollout
