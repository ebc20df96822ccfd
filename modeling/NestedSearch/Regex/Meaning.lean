import NestedSearch.Regex.Basic
import NestedSearch.Regex.Parser

/-!
# From the text of an expression to what it matches

A flag holds from where it is set up to the end of the group around it, across the branches of
an alternation. Outside Unicode mode an expression is about bytes; since only whole characters
can be matched, everything that could match a byte beyond ASCII is refused there.

Which properties of characters there are is a parameter of all this: a lookup that gives a query for
a property the code points that have it. `parse?` reads expressions with the properties of Unicode.
There is no limit on the size of what an expression is compiled to.
-/

namespace NestedSearch.Regex

/-- The flags in force at some place of an expression. -/
structure Flags where
  caseInsensitive : Bool
  multiLine : Bool
  dotMatchesNewLine : Bool
  unicode : Bool
  crlf : Bool

namespace Flags

/-- The flags at the beginning of an expression. -/
def initial : Flags := ⟨false, false, false, true, false⟩

/-- Turns a flag on or off. -/
def set (flags : Flags) (change : Flag × Bool) : Flags :=
  match change.1 with
  | .caseInsensitive => { flags with caseInsensitive := change.2 }
  | .multiLine => { flags with multiLine := change.2 }
  | .dotMatchesNewLine => { flags with dotMatchesNewLine := change.2 }
  | .unicode => { flags with unicode := change.2 }
  | .crlf => { flags with crlf := change.2 }
  | .swapGreed => flags
  | .verbose => flags

/-- The flags after a change. -/
def apply (flags : Flags) (change : FlagChange) : Flags := change.foldl set flags

/-- The class without regard to case, if the flags ask for that. -/
def fold (flags : Flags) (c : CharClass) : CharClass :=
  if flags.caseInsensitive then .folded flags.unicode c else c

/-- The class or its complement, which exists in Unicode mode only. -/
def negate? (flags : Flags) (negated : Bool) (c : CharClass) : Option CharClass :=
  if negated then if flags.unicode then some (.complement c) else none else some c

end Flags

/-- The code point of a literal within a class. -/
def Literal.classCode? (flags : Flags) (l : Literal) : Option Nat :=
  if flags.unicode || l.code < 128 then some l.code else none

/-- The code point of a literal by itself. -/
def Literal.code? (flags : Flags) (l : Literal) : Option Nat :=
  if flags.unicode || l.code < 128 || !l.isByte then some l.code else none

/-- The class of an escape. -/
def shorthandClass? (flags : Flags) (negated : Bool) (kind : ShorthandClass) : Option CharClass :=
  flags.negate? negated (.named (kind.contains flags.unicode))

variable (properties : PropertyQuery → Option (Nat → Bool))

/-- The class of a property. -/
def propertyClass (flags : Flags) (negated : Bool) (query : PropertyQuery) : Option CharClass :=
  if flags.unicode then
    match properties query with
    | some members => flags.negate? negated (flags.fold (.named members))
    | none => none
  else none

namespace ClassPattern

/-- Two classes combined. -/
def combine : ClassOperator → CharClass → CharClass → CharClass
  | .intersection, l, r => .intersection l r
  | .difference, l, r => .difference l r
  | .symmetricDifference, l, r => .symmetricDifference l r

mutual

/-- The class that the inside of a bracketed class stands for. -/
def class? (flags : Flags) : ClassPattern → Option CharClass
  | .empty => some (.union [])
  | .literal l => (l.classCode? flags).map CharClass.single
  | .range first last => do
    return .range (← first.classCode? flags) (← last.classCode? flags)
  | .ascii negated kind => flags.negate? negated (flags.fold (.named kind.contains))
  | .shorthand negated kind => shorthandClass? flags negated kind
  | .property negated query => propertyClass properties flags negated query
  | .bracketed negated inner =>
    match inner.class? flags with
    | some c => flags.negate? negated (flags.fold c)
    | none => none
  | .union items => (classes? flags items).map CharClass.union
  | .operation operator left right => do
    let l ← left.class? flags
    let r ← right.class? flags
    return combine operator (flags.fold l) (flags.fold r)

def classes? (flags : Flags) : List ClassPattern → Option (List CharClass)
  | [] => some []
  | c :: cs => do
    let k ← c.class? flags
    let ks ← classes? flags cs
    return k :: ks

end

end ClassPattern

/-- The condition that an assertion states under the flags. -/
def Assertion.look (flags : Flags) : Assertion → Look
  | .startLine =>
    if flags.multiLine then if flags.crlf then .lineStartCrlf else .lineStart else .start
  | .endLine =>
    if flags.multiLine then if flags.crlf then .lineFinishCrlf else .lineFinish else .finish
  | .startText => .start
  | .endText => .finish
  | .wordBoundary => .wordBoundary flags.unicode
  | .notWordBoundary => .notWordBoundary flags.unicode
  | .wordStart => .wordStart flags.unicode
  | .wordEnd => .wordEnd flags.unicode
  | .wordStartHalf => .wordStartHalf flags.unicode
  | .wordEndHalf => .wordEndHalf flags.unicode

/-- The characters that a dot matches. -/
def dotClass (flags : Flags) : CharClass :=
  if flags.dotMatchesNewLine then .except []
  else if flags.crlf then .except ['\r', '\n']
  else .except ['\n']

namespace Pattern

mutual

/-- The expression that a pattern stands for under the flags, and the flags after it. -/
def meaning (flags : Flags) : Pattern → Option (Regex × Flags)
  | .empty => some (.empty, flags)
  | .flags change => some (.empty, flags.apply change)
  | .literal l => do
    return (.char (flags.fold (CharClass.single (← l.code? flags))), flags)
  | .dot => if flags.unicode then some (.char (dotClass flags), flags) else none
  | .assertion kind => some (.look (kind.look flags), flags)
  | .shorthand negated kind => do return (.char (← shorthandClass? flags negated kind), flags)
  | .property negated query => do
    return (.char (← propertyClass properties flags negated query), flags)
  | .bracketed negated inner => do
    let c ← inner.class? properties flags
    return (.char (← flags.negate? negated (flags.fold c)), flags)
  | .repetition inner least most => do
    let (r, flags) ← meaning flags inner
    return (.repeated r least most, flags)
  | .group change inner => do
    let (r, _) ← meaning (flags.apply change) inner
    return (r, flags)
  | .alternation branches => do
    let (rs, flags) ← meanings flags branches
    return (choice rs, flags)
  | .concatenation parts => do
    let (rs, flags) ← meanings flags parts
    return (sequence rs, flags)

/-- The expressions of several patterns, each under the flags that the one before it leaves. -/
def meanings (flags : Flags) : List Pattern → Option (List Regex × Flags)
  | [] => some ([], flags)
  | e :: es => do
    let (r, flags) ← meaning flags e
    let (rs, flags) ← meanings flags es
    return (r :: rs, flags)

end

end Pattern

/-- The expression that a text writes, if it is one. -/
def parseWith? (pattern : List Char) : Option Regex := do
  let e ← Pattern.parse? pattern
  let (r, _) ← e.meaning properties .initial
  return r

/-- The expression that matches exactly the texts that the pattern matches from their beginning to
    their end: the pattern as a group between the marks for both. -/
def parseWholeWith? (pattern : List Char) : Option Regex :=
  parseWith? properties ("^(?:".toList ++ pattern ++ ")$".toList)

/-- The expression that a text writes, with the properties of Unicode. -/
def parse? : List Char → Option Regex := parseWith? PropertyQuery.class?

/-- The expression that matches the whole of what a pattern matches, with the properties of
    Unicode. -/
def parseWhole? : List Char → Option Regex := parseWholeWith? PropertyQuery.class?

/-! ## Wildcards -/

/-- One character of a wildcard pattern: an asterisk stands for any characters of a line, a
    question mark for one. -/
def ofWildcard (c : Char) : Regex :=
  if c = '*' then .repeated (.char (.except ['\n'])) 0 none
  else if c = '?' then .char (.except ['\n'])
  else .char (.single c.toNat)

/-- The expression of a wildcard pattern. -/
def wildcard (pattern : List Char) : Regex := sequence (pattern.map ofWildcard)

end Regex

end NestedSearch
