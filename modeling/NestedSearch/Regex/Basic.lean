import NestedSearch.Regex.Property

/-!
# Regular expressions

What a regular expression matches. An expression is matched against a whole text at once: from
a set of places in the text it leads to the set of places where a match that begins at one of
them can end.
-/

namespace NestedSearch

/-- Conditions on the characters on both sides of a place. -/
inductive Regex.Look where
  | start
  | finish
  | lineStart
  | lineFinish
  /-- Line ends are carriage returns, line feeds and both together. -/
  | lineStartCrlf
  | lineFinishCrlf
  | wordBoundary (unicode : Bool)
  | notWordBoundary (unicode : Bool)
  | wordStart (unicode : Bool)
  | wordEnd (unicode : Bool)
  | wordStartHalf (unicode : Bool)
  | wordEndHalf (unicode : Bool)
deriving DecidableEq, Repr

/-- A set of characters. -/
inductive Regex.CharClass where
  | range (first last : Nat)
  | named (members : Nat → Bool)
  | union (classes : List CharClass)
  | intersection (left right : CharClass)
  | difference (left right : CharClass)
  | symmetricDifference (left right : CharClass)
  | complement (inner : CharClass)
  /-- All characters that differ only in case from one of the class. -/
  | folded (unicode : Bool) (inner : CharClass)

/-- A regular expression. -/
inductive Regex where
  | empty
  | char (set : Regex.CharClass)
  | look (condition : Regex.Look)
  | concat (first second : Regex)
  | alternate (left right : Regex)
  | repeated (inner : Regex) (least : Nat) (most : Option Nat)

namespace Regex

/-! ## Characters -/

/-- The code points that differ from this one only in case, within ASCII. -/
def asciiVariants (c : Nat) : List Nat :=
  if 'A'.toNat ≤ c && c ≤ 'Z'.toNat then [c, c + 32]
  else if 'a'.toNat ≤ c && c ≤ 'z'.toNat then [c, c - 32]
  else [c]

namespace CharClass

mutual

/-- Whether the class holds the code point. -/
def contains : CharClass → Nat → Bool
  | .range first last, c => first ≤ c && c ≤ last
  | .named members, c => members c
  | .union classes, c => containsAny classes c
  | .intersection left right, c => left.contains c && right.contains c
  | .difference left right, c => left.contains c && !right.contains c
  | .symmetricDifference left right, c => left.contains c != right.contains c
  | .complement inner, c => !inner.contains c
  | .folded unicode inner, c =>
    (if unicode then Unicode.caseVariants c else asciiVariants c).any fun v => inner.contains v

/-- Whether one of the classes holds the code point. -/
def containsAny : List CharClass → Nat → Bool
  | [], _ => false
  | k :: ks, c => k.contains c || containsAny ks c

end

/-- The class of one code point. -/
def single (c : Nat) : CharClass := .range c c

/-- All characters but these. -/
def except (excluded : List Char) : CharClass :=
  .complement (.union (excluded.map fun c => single c.toNat))

end CharClass

/-! ## Places

A place in a text is given by the number of characters before it.
-/

namespace Look

/-- The character before a place. -/
def before? (text : Array Char) : (place : Nat) → Option Char
  | 0 => none
  | place + 1 => text[place]?

/-- Whether this is a character, and one that words are made of. -/
def isWordChar (unicode : Bool) : Option Char → Bool
  | some c => ShorthandClass.word.contains unicode c.toNat
  | none => false

/-- Whether the condition holds at a place. -/
def holds (text : Array Char) (place : Nat) (condition : Look) : Bool :=
  let before := before? text place
  let after := text[place]?
  match condition with
  | .start => before.isNone
  | .finish => after.isNone
  | .lineStart => before.all (· = '\n')
  | .lineFinish => after.all (· = '\n')
  | .lineStartCrlf => before.all fun c => c = '\n' || c = '\r' && after ≠ some '\n'
  | .lineFinishCrlf => after.all fun c => c = '\r' || c = '\n' && before ≠ some '\r'
  | .wordBoundary u => isWordChar u before != isWordChar u after
  | .notWordBoundary u => isWordChar u before == isWordChar u after
  | .wordStart u => !isWordChar u before && isWordChar u after
  | .wordEnd u => isWordChar u before && !isWordChar u after
  | .wordStartHalf u => !isWordChar u before
  | .wordEndHalf u => !isWordChar u after

end Look

/-! ## Matching -/

/-- The place after the next character, if that is in the class. -/
def CharClass.step? (text : Array Char) (set : CharClass) (place : Nat) : Option Nat :=
  match text[place]? with
  | some c => if set.contains c.toNat then some (place + 1) else none
  | none => none

/-- The places of the second list that are not in the first one. -/
def beyond (places others : List Nat) : List Nat := others.filter fun i => !places.contains i

/-- The places of both lists. -/
def union (places others : List Nat) : List Nat := places ++ beyond places others

/-- Applies a step at most so many times, for as long as it leads to new places, and collects all
    places on the way. -/
def reach (step : List Nat → List Nat) : (times : Nat) → (reached new : List Nat) → List Nat
  | 0, reached, _ => reached
  | times + 1, reached, new =>
    let fresh := beyond reached (step new)
    if fresh.isEmpty then reached else reach step times (reached ++ fresh) fresh

/-- Applies a step so many times; once it changes nothing, the rest of the times cannot either. -/
def iterate (step : List Nat → List Nat) : (times : Nat) → List Nat → List Nat
  | 0, places => places
  | times + 1, places =>
    let next := step places
    if next = places then places else iterate step times next

/-- The number of further repetitions that can lead to new places: not more than the text has
    places. -/
def furtherTimes (text : Array Char) (least : Nat) (most : Option Nat) : Nat :=
  match most with
  | some most => min (most - least) (text.size + 1)
  | none => text.size + 1

/-- The places where a match that begins at one of the places can end. -/
def advance (text : Array Char) : Regex → List Nat → List Nat
  | .empty, places => places
  | .char set, places => places.filterMap (set.step? text)
  | .look condition, places => places.filter fun i => condition.holds text i
  | .concat first second, places => second.advance text (first.advance text places)
  | .alternate left right, places => union (left.advance text places) (right.advance text places)
  | .repeated inner least most, places =>
    let start := iterate (inner.advance text) least places
    reach (inner.advance text) (furtherTimes text least most) start start

/-- Whether the expression matches the text from its beginning to its end. -/
def matchesWhole (r : Regex) (text : Array Char) : Bool :=
  (r.advance text [0]).contains text.size

/-- The expressions one after the other. -/
def sequence : List Regex → Regex
  | [] => .empty
  | r :: rs => .concat r (sequence rs)

/-- One of the expressions. -/
def choice : List Regex → Regex
  | [] => .empty
  | [r] => r
  | r :: rs => .alternate r (choice rs)

end Regex

end NestedSearch
