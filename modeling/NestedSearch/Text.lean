import NestedSearch.Unicode.Case
import NestedSearch.Unicode.Property

/-!
# Texts

What is done with texts: taking them apart at white space or into terms, putting them into lower
case, and showing them between quotes in messages. Two comparisons of lists stand at the end, that
of a phrase with a list of terms and that of the characters of two terms.
-/

namespace NestedSearch.Text

/-! ## White space -/

/-- Whether a character is white space. -/
def isWhiteSpace (c : Char) : Bool := Unicode.isSpace c.toNat

/-- Whether a text holds nothing but white space. -/
def isBlank (text : String) : Bool := text.toList.all isWhiteSpace

/-- The longest runs of characters with the property, in order. -/
def runs (p : Char → Bool) (s : List Char) : List (List Char) :=
  (s.splitOnP fun c => !p c).filter fun run => !run.isEmpty

/-- The words of a text: its longest runs without white space. -/
def words (text : String) : List String :=
  (runs (fun c => !isWhiteSpace c) text.toList).map String.ofList

/-! ## Lower case

Each character has a lower case of its own, with one exception: a capital sigma at the end of a
word becomes a final sigma.
-/

/-- The lower case of a character by itself. Only the capital I with a dot has more than one
    character in lower case. -/
def lowercaseChar (c : Char) : List Char :=
  if c = 'İ' then ['i', '\u0307'] else [Char.ofNat (Unicode.lowercase c.toNat)]

/-- Whether the first character that is not ignored in questions of case has case. -/
def reachesCased (s : List Char) : Bool :=
  match s.dropWhile fun c => Unicode.isCaseIgnorable c.toNat with
  | c :: _ => Unicode.isCased c.toNat
  | [] => false

/-- The lower case of the characters after those in `before`, which holds the last one first. -/
def lowercaseFrom (before : List Char) : List Char → List Char
  | [] => []
  | c :: rest =>
    let lower :=
      if c = 'Σ' then if reachesCased before && !reachesCased rest then ['ς'] else ['σ']
      else lowercaseChar c
    lower ++ lowercaseFrom (c :: before) rest

/-- The lower case of a text. -/
def lowercase (text : String) : String := String.ofList (lowercaseFrom [] text.toList)

/-! ## Terms -/

/-- Whether a character is part of a term. -/
def isTermChar (c : Char) : Bool := Unicode.isAlphabetic c.toNat || Unicode.isNumeric c.toNat

/-- The terms of a text, in order: its longest runs of letters and digits, in lower case. What
    stands between them only separates. -/
def terms (text : String) : List String :=
  (runs isTermChar text.toList).map fun run => lowercase (String.ofList run)

/-! ## Quotes

Between quotes, what cannot be seen on its own, or would attach to its neighbour, is written as an
escape.
-/

/-- Whether a character can be shown as it is: no control or format character, no separator but
    the space, and nothing that is not assigned. -/
def isPrintable (c : Char) : Bool :=
  c = ' ' ||
    (Unicode.isAssigned c.toNat &&
      !Unicode.inCategory [.cc, .cf, .co, .zl, .zp, .zs] c.toNat)

/-- A character within quotes. -/
def quotedChar (c : Char) : List Char :=
  if c = '\x00' then ['\\', '0']
  else if c = '\t' then ['\\', 't']
  else if c = '\n' then ['\\', 'n']
  else if c = '\r' then ['\\', 'r']
  else if c = '"' || c = '\\' then ['\\', c]
  else if Unicode.isGraphemeExtend c.toNat || !isPrintable c then
    ['\\', 'u', '\x7b'] ++ Nat.toDigits 16 c.toNat ++ ['\x7d']
  else [c]

/-- A text between quotes. -/
def quoted (text : String) : String :=
  "\"" ++ String.ofList (text.toList.flatMap quotedChar) ++ "\""

/-- A list of texts between brackets, each between quotes. -/
def quotedList (texts : List String) : String :=
  "[" ++ ", ".intercalate (texts.map quoted) ++ "]"

variable {α : Type} [DecidableEq α]

/-! ## Phrases

A phrase occurs in a list of terms if its terms occur there in order, with not more than a given
number of other terms between the first and the last of them. Taking for each term the nearest
place after the one before it is enough: a later place never leaves fewer terms between.
-/

/-- How far into the list the terms reach, each at the nearest place after the one before. -/
def reach? : (terms list : List α) → Option Nat
  | [], _ => some 0
  | _ :: _, [] => none
  | t :: ts, x :: xs =>
    (if t = x then reach? ts xs else reach? (t :: ts) xs).map fun n => n + 1

/-- Whether the phrase of this first term and these others occurs in the list, with at most `slop`
    other terms in between. -/
def occurs (slop : Nat) (first : α) (others : List α) : List α → Bool
  | [] => false
  | x :: xs =>
    (first = x && (reach? others xs).any fun n => n - others.length ≤ slop) ||
      occurs slop first others xs

/-- Whether a phrase occurs in the list. A phrase without terms occurs nowhere. -/
def containsPhrase (slop : Nat) (phrase list : List α) : Bool :=
  match phrase with
  | [] => false
  | first :: others => occurs slop first others list

/-! ## Edit distance

The least number of insertions, deletions and substitutions of single items that turn one list
into another. It is computed row by row: the row of a list `as` against `bs` holds the distances
from `as` to each initial part of `bs`, and the row of `as ++ [a]` follows from it.
-/

/-- The cells of the next row after `left`, from the cells of the row above: the one above `left`
    and those after it. -/
def nextCells (a : α) : (left : Nat) → List α → List Nat → List Nat
  | left, b :: bs, diagonal :: above :: row =>
    let cell := min (min (diagonal + if a = b then 0 else 1) (above + 1)) (left + 1)
    cell :: nextCells a cell bs (above :: row)
  | _, _, _ => []

/-- The row that follows a row, one item `a` further on. -/
def nextRow (bs : List α) (row : List Nat) (a : α) : List Nat :=
  let first := row.headD 0 + 1
  first :: nextCells a first bs row

/-- The least number of edits that turn one list into the other. -/
def editDistance (as bs : List α) : Nat :=
  (as.foldl (nextRow bs) (List.range (bs.length + 1))).getLastD 0

end NestedSearch.Text
