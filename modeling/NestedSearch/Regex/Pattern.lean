/-!
# Regular expressions as written

The tree of a regular expression as its text gives it, before flags are applied. Whether a
text is an expression at all depends on this tree too: it may not nest too deeply.
-/

namespace NestedSearch.Regex

/-- A character that stands for itself. `isByte` marks one written as two hexadecimal digits,
    which outside Unicode mode is a byte. -/
structure Literal where
  code : Nat
  isByte : Bool
deriving DecidableEq, Repr

/-- The classes that have a name of their own within brackets. -/
inductive AsciiClass where
  | alnum | alpha | ascii | blank | cntrl | digit | graph | lower | print | punct | space
  | upper | word | xdigit
deriving DecidableEq, Repr

/-- The classes that have an escape of their own. -/
inductive ShorthandClass where
  | digit | space | word
deriving DecidableEq, Repr

/-- A class of code points chosen by a property. -/
inductive PropertyQuery where
  /-- A property, category or script by its name. -/
  | named (name : String)
  /-- The code points for which a property has a value. -/
  | valued (property value : String)
deriving DecidableEq, Repr

/-- What combines two classes within brackets. -/
inductive ClassOperator where
  | intersection | difference | symmetricDifference
deriving DecidableEq, Repr

/-- The inside of a bracketed class. -/
inductive ClassPattern where
  | empty
  | literal (l : Literal)
  | range (first last : Literal)
  | ascii (negated : Bool) (kind : AsciiClass)
  | shorthand (negated : Bool) (kind : ShorthandClass)
  | property (negated : Bool) (query : PropertyQuery)
  | bracketed (negated : Bool) (inner : ClassPattern)
  | union (items : List ClassPattern)
  | operation (operator : ClassOperator) (left right : ClassPattern)
deriving Repr

/-- A condition on a place in the text, as written. -/
inductive Assertion where
  | startLine | endLine | startText | endText | wordBoundary | notWordBoundary | wordStart
  | wordEnd | wordStartHalf | wordEndHalf
deriving DecidableEq, Repr

/-- The flags of an expression. -/
inductive Flag where
  | caseInsensitive | multiLine | dotMatchesNewLine | swapGreed | unicode | crlf | verbose
deriving DecidableEq, Repr

/-- The flags that a group or a mark turns on or off. -/
abbrev FlagChange := List (Flag × Bool)

/-- An expression. How a repetition prefers its lengths is left out: it has no influence on
    whether there is a match. -/
inductive Pattern where
  | empty
  | flags (change : FlagChange)
  | literal (l : Literal)
  | dot
  | assertion (kind : Assertion)
  | shorthand (negated : Bool) (kind : ShorthandClass)
  | property (negated : Bool) (query : PropertyQuery)
  | bracketed (negated : Bool) (inner : ClassPattern)
  | repetition (inner : Pattern) (least : Nat) (most : Option Nat)
  | group (change : FlagChange) (inner : Pattern)
  | alternation (branches : List Pattern)
  | concatenation (parts : List Pattern)
deriving Repr

/-! ## Depth -/

namespace ClassPattern

mutual

/-- How deeply the class nests. -/
def depth : ClassPattern → Nat
  | .bracketed _ inner => inner.depth + 1
  | .union items => depthOf items + 1
  | .operation _ left right => max left.depth right.depth + 1
  | _ => 0

def depthOf : List ClassPattern → Nat
  | [] => 0
  | c :: cs => max c.depth (depthOf cs)

end

end ClassPattern

namespace Pattern

mutual

/-- How deeply the expression nests. -/
def depth : Pattern → Nat
  | .bracketed _ inner => inner.depth + 1
  | .repetition inner _ _ => inner.depth + 1
  | .group _ inner => inner.depth + 1
  | .alternation branches => depthOf branches + 1
  | .concatenation parts => depthOf parts + 1
  | _ => 0

def depthOf : List Pattern → Nat
  | [] => 0
  | e :: es => max e.depth (depthOf es)

end

/-- The greatest depth of an expression. -/
def maxDepth : Nat := 250

/-- The expressions one after the other. -/
def concat : List Pattern → Pattern
  | [] => .empty
  | [e] => e
  | es => .concatenation es

/-- One of the expressions. -/
def alternate : List Pattern → Pattern
  | [] => .empty
  | [e] => e
  | es => .alternation es

end Pattern

end NestedSearch.Regex
