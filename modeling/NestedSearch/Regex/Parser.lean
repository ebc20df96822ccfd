import NestedSearch.Regex.Pattern
import NestedSearch.Regex.Property
import NestedSearch.Text

/-!
# Reading regular expressions

A reader for the text of an expression. In verbose mode white space and comments between the
parts of an expression are skipped. Every reader takes the characters still to be read and
leaves a shorter rest, so the length of the text bounds the recursion.
-/

namespace NestedSearch.Regex.Parser

/-- What is known while reading: whether the mode is verbose, and the names of the groups. -/
structure State where
  verbose : Bool
  names : List String

/-! ## Space -/

/-- Skips white space and comments. -/
def skipSpaceAndComments : (comment : Bool) → List Char → List Char
  | _, [] => []
  | true, c :: rest => skipSpaceAndComments (c ≠ '\n') rest
  | false, c :: rest =>
    if Text.isWhiteSpace c then skipSpaceAndComments false rest
    else if c = '#' then skipSpaceAndComments true rest
    else c :: rest

/-- Skips what may stand between the parts of an expression in this mode. -/
def skip (verbose : Bool) (s : List Char) : List Char :=
  if verbose then skipSpaceAndComments false s else s

/-- The character that decides about a hyphen: the next one, in verbose mode after white space
    and the sign of a comment. -/
def peekPast (verbose : Bool) (s : List Char) : Option Char :=
  if verbose then
    match s.dropWhile Text.isWhiteSpace with
    | '#' :: rest =>
      match rest.dropWhile Text.isWhiteSpace with
      | [] => s.head?
      | c :: _ => some c
    | [] => s.head?
    | c :: _ => some c
  else s.head?

/-! ## Escapes -/

/-- Whether a character has a meaning of its own in expressions. -/
def isMeta (c : Char) : Bool := "\\.+*?()|[]\x7b\x7d^$#&-~".toList.contains c

/-- Whether a character may be escaped although it need not be. -/
def isEscapable (c : Char) : Bool :=
  isMeta c || (c.toNat < 128 && !c.isAlphanum && c ≠ '<' && c ≠ '>')

/-- The value of a hexadecimal digit. -/
def hexValue? (c : Char) : Option Nat :=
  if c.isDigit then some (c.toNat - '0'.toNat)
  else if 'a' ≤ c && c ≤ 'f' then some (c.toNat - 'a'.toNat + 10)
  else if 'A' ≤ c && c ≤ 'F' then some (c.toNat - 'A'.toNat + 10)
  else none

/-- A code point that is a character. -/
def scalar? (n : Nat) : Option Nat := if n.isValidChar then some n else none

/-- Reads the given number of hexadecimal digits. -/
def fixedHex (verbose : Bool) : (count : Nat) → (value : Nat) → List Char →
    Option (Nat × List Char)
  | 0, value, s => some (value, s)
  | count + 1, value, c :: rest => do
    let digit ← hexValue? c
    fixedHex verbose count (value * 16 + digit) (skip verbose rest)
  | _ + 1, _, [] => none

/-- Reads hexadecimal digits up to a closing brace. -/
def bracedHex (verbose : Bool) : (fuel : Nat) → (value : Option Nat) → List Char →
    Option (Nat × List Char)
  | 0, _, _ => none
  | fuel + 1, value, s =>
    match skip verbose s with
    | [] => none
    | c :: rest =>
      if c = '\x7d' then value.map fun v => (v, skip verbose rest)
      else do
        let digit ← hexValue? c
        bracedHex verbose fuel (some (value.getD 0 * 16 + digit)) rest

/-- Reads the digits of a code point after the letter that announces them. -/
def hex? (verbose : Bool) (digits : Nat) (s : List Char) : Option (Literal × List Char) := do
  match skip verbose s with
  | [] => none
  | c :: rest =>
    if c = '\x7b' then
      let (value, rest) ← bracedHex verbose (rest.length + 1) none rest
      return (⟨← scalar? value, false⟩, rest)
    else
      let (value, rest) ← fixedHex verbose digits 0 (c :: rest)
      return (⟨← scalar? value, digits = 2⟩, rest)

/-- Reads up to a closing brace. -/
def braced (verbose : Bool) : (fuel : Nat) → List Char → Option (List Char × List Char)
  | 0, _ => none
  | fuel + 1, s =>
    match skip verbose s with
    | [] => none
    | c :: rest =>
      if c = '\x7d' then some ([], rest)
      else (braced verbose fuel rest).map fun r => (c :: r.1, r.2)

/-- The text before the first place where the mark stands, and the text after it. -/
def cut? (mark : List Char) : List Char → Option (List Char × List Char)
  | [] => none
  | c :: rest =>
    if mark.isPrefixOf (c :: rest) then some ([], (c :: rest).drop mark.length)
    else (cut? mark rest).map fun r => (c :: r.1, r.2)

/-- The query between the braces of a property, and whether it is negated. -/
def query (inside : List Char) : PropertyQuery × Bool :=
  let valued (r : List Char × List Char) :=
    PropertyQuery.valued (String.ofList r.1) (String.ofList r.2)
  match cut? ['!', '='] inside, cut? [':'] inside, cut? ['='] inside with
  | some r, _, _ => (valued r, true)
  | none, some r, _ => (valued r, false)
  | none, none, some r => (valued r, false)
  | none, none, none => (.named (String.ofList inside), false)

/-- Reads a property after the letter that announces it. -/
def property? (verbose negated : Bool) (s : List Char) :
    Option ((Bool × PropertyQuery) × List Char) :=
  match skip verbose s with
  | [] => none
  | c :: rest =>
    if c = '\x7b' then
      (braced verbose (rest.length + 1) rest).map fun r =>
        let (q, differs) := query r.1
        ((negated != differs, q), r.2)
    else if c = '\\' then none
    else some ((negated, .named (String.ofList [c])), skip verbose rest)

/-- Whether a character may stand in the name of a special word boundary. -/
def isBoundaryChar (c : Char) : Bool := c.isAlpha || c = '-'

/-- Reads the name of a special word boundary. -/
def boundaryName (verbose : Bool) : (fuel : Nat) → List Char → List Char × List Char
  | 0, s => ([], s)
  | fuel + 1, s =>
    match s with
    | [] => ([], [])
    | c :: rest =>
      if isBoundaryChar c then
        let r := boundaryName verbose fuel (skip verbose rest)
        (c :: r.1, r.2)
      else ([], c :: rest)

/-- Reads what follows the escape of a word boundary. A brace that begins no name is left for the
    repetition it may belong to. -/
def boundary? (verbose : Bool) (s : List Char) : Option (Assertion × List Char) :=
  match s with
  | '\x7b' :: rest =>
    match skip verbose rest with
    | [] => none
    | c :: after =>
      if !isBoundaryChar c then some (.wordBoundary, s)
      else
        let (name, after) := boundaryName verbose (after.length + 1) (c :: after)
        match after with
        | '\x7d' :: rest =>
          match String.ofList name with
          | "start" => some (.wordStart, rest)
          | "end" => some (.wordEnd, rest)
          | "start-half" => some (.wordStartHalf, rest)
          | "end-half" => some (.wordEndHalf, rest)
          | _ => none
        | _ => none
  | s => some (.wordBoundary, s)

/-- The smallest parts of an expression. -/
inductive Primitive where
  | literal (l : Literal)
  | assertion (kind : Assertion)
  | shorthand (negated : Bool) (kind : ShorthandClass)
  | property (negated : Bool) (query : PropertyQuery)

/-- A literal for a character. -/
def Primitive.ofChar (c : Char) : Primitive := .literal ⟨c.toNat, false⟩

/-- Reads an escape whose backslash has been read. -/
def escape? (verbose : Bool) (s : List Char) : Option (Primitive × List Char) :=
  match s with
  | [] => none
  | c :: rest =>
    match c with
    | 'x' => (hex? verbose 2 rest).map fun r => (.literal r.1, r.2)
    | 'u' => (hex? verbose 4 rest).map fun r => (.literal r.1, r.2)
    | 'U' => (hex? verbose 8 rest).map fun r => (.literal r.1, r.2)
    | 'p' => (property? verbose false rest).map fun r => (.property r.1.1 r.1.2, r.2)
    | 'P' => (property? verbose true rest).map fun r => (.property r.1.1 r.1.2, r.2)
    | 'd' => some (.shorthand false .digit, rest)
    | 'D' => some (.shorthand true .digit, rest)
    | 's' => some (.shorthand false .space, rest)
    | 'S' => some (.shorthand true .space, rest)
    | 'w' => some (.shorthand false .word, rest)
    | 'W' => some (.shorthand true .word, rest)
    | 'a' => some (.ofChar '\x07', rest)
    | 'f' => some (.ofChar '\x0c', rest)
    | 't' => some (.ofChar '\t', rest)
    | 'n' => some (.ofChar '\n', rest)
    | 'r' => some (.ofChar '\r', rest)
    | 'v' => some (.ofChar '\x0b', rest)
    | 'A' => some (.assertion .startText, rest)
    | 'z' => some (.assertion .endText, rest)
    | 'b' => (boundary? verbose rest).map fun r => (.assertion r.1, r.2)
    | 'B' => some (.assertion .notWordBoundary, rest)
    | '<' => some (.assertion .wordStart, rest)
    | '>' => some (.assertion .wordEnd, rest)
    | c => if isEscapable c then some (.ofChar c, rest) else none

/-! ## Bracketed classes -/

/-- One item of a class, or the end of a range. -/
def classItem? (verbose : Bool) : List Char → Option (Primitive × List Char)
  | [] => none
  | '\\' :: rest => escape? verbose rest
  | c :: rest => some (.ofChar c, rest)

/-- A primitive as an item of a class. -/
def Primitive.classItem? : Primitive → Option ClassPattern
  | .literal l => some (.literal l)
  | .shorthand negated kind => some (.shorthand negated kind)
  | .property negated query => some (.property negated query)
  | .assertion _ => none

/-- Reads an item or a range. -/
def classRange? (verbose : Bool) (s : List Char) : Option (ClassPattern × List Char) := do
  let (first, rest) ← classItem? verbose s
  match skip verbose rest with
  | [] => none
  | '-' :: after =>
    let next := peekPast verbose after
    if next = some ']' || next = some '-' then
      return (← first.classItem?, '-' :: after)
    else
      match skip verbose after with
      | [] => none
      | after =>
        let (last, rest) ← classItem? verbose after
        match first, last with
        | .literal a, .literal b => if a.code ≤ b.code then some (.range a b, rest) else none
        | _, _ => none
  | rest => return (← first.classItem?, rest)

/-- Reads a class of ASCII, such as `[:alpha:]`, whose bracket has been read. -/
def asciiClass? (s : List Char) : Option (ClassPattern × List Char) :=
  match s with
  | ':' :: rest =>
    let (negated, rest) := match rest with
      | '^' :: rest => (true, rest)
      | rest => (false, rest)
    match cut? [':'] rest with
    | some (name, ']' :: rest) =>
      (AsciiClass.named? (String.ofList name)).map fun kind => (.ascii negated kind, rest)
    | _ => none
  | _ => none

/-- Reads leading hyphens, which stand for themselves. -/
def leadingHyphens (verbose : Bool) : (fuel : Nat) → List Char → Nat × List Char
  | 0, s => (0, s)
  | fuel + 1, s =>
    match s with
    | '-' :: rest =>
      let r := leadingHyphens verbose fuel (skip verbose rest)
      (r.1 + 1, r.2)
    | s => (0, s)

/-- Reads what may stand at the beginning of a class whose bracket has been read: the sign of
    negation, hyphens, and a closing bracket that stands for itself. -/
def classStart (verbose : Bool) (s : List Char) : Bool × List ClassPattern × List Char :=
  let (negated, s) := match skip verbose s with
    | '^' :: rest => (true, skip verbose rest)
    | s => (false, s)
  let (hyphens, s) := leadingHyphens verbose (s.length + 1) s
  let items := List.replicate hyphens (ClassPattern.literal ⟨'-'.toNat, false⟩)
  match hyphens, s with
  | 0, ']' :: rest => (negated, [.literal ⟨']'.toNat, false⟩], skip verbose rest)
  | _, s => (negated, items, s)

/-- The items of a class together. -/
def unionOf : List ClassPattern → ClassPattern
  | [] => .empty
  | [c] => c
  | cs => .union cs

/-- Completes the operation to the left of a class, if there is one. -/
def complete (left : Option (ClassOperator × ClassPattern)) (right : ClassPattern) : ClassPattern :=
  match left with
  | some (operator, left) => .operation operator left right
  | none => right

/-- Reads the rest of a class, up to its closing bracket. `items` holds what was read since the
    last operator, the latest first. -/
def classBody (verbose : Bool) : (fuel : Nat) → (left : Option (ClassOperator × ClassPattern)) →
    (items : List ClassPattern) → List Char → Option (ClassPattern × List Char)
  | 0, _, _, _ => none
  | fuel + 1, left, items, s =>
    let operation (operator : ClassOperator) (rest : List Char) :=
      classBody verbose fuel (some (operator, complete left (unionOf items.reverse))) [] rest
    match skip verbose s with
    | [] => none
    | '[' :: rest =>
      match asciiClass? rest with
      | some (item, rest) => classBody verbose fuel left (item :: items) rest
      | none =>
        let (negated, first, rest) := classStart verbose rest
        match classBody verbose fuel none first.reverse rest with
        | some (inner, rest) =>
          classBody verbose fuel left (.bracketed negated inner :: items) rest
        | none => none
    | ']' :: rest => some (complete left (unionOf items.reverse), rest)
    | '&' :: '&' :: rest => operation .intersection rest
    | '-' :: '-' :: rest => operation .difference rest
    | '~' :: '~' :: rest => operation .symmetricDifference rest
    | s =>
      match classRange? verbose s with
      | some (item, rest) => classBody verbose fuel left (item :: items) rest
      | none => none

/-- Reads a class whose opening bracket has been read. -/
def class? (verbose : Bool) (s : List Char) : Option (Pattern × List Char) :=
  let (negated, first, rest) := classStart verbose s
  (classBody verbose (s.length + 1) none first.reverse rest).map fun r =>
    (.bracketed negated r.1, r.2)

/-! ## Groups and flags -/

/-- The flag of this letter. -/
def flag? : Char → Option Flag
  | 'i' => some .caseInsensitive
  | 'm' => some .multiLine
  | 's' => some .dotMatchesNewLine
  | 'U' => some .swapGreed
  | 'u' => some .unicode
  | 'R' => some .crlf
  | 'x' => some .verbose
  | _ => none

/-- Reads flags up to the colon or parenthesis that ends them. A sign turns off the flags after
    it; it stands at most once and not last, and a flag at most once. -/
def flags? (negated : Bool) (seen : FlagChange) : List Char → Option (FlagChange × List Char)
  | [] => none
  | ':' :: rest => some (seen.reverse, ':' :: rest)
  | ')' :: rest => some (seen.reverse, ')' :: rest)
  | '-' :: rest =>
    match rest with
    | ':' :: _ => none
    | ')' :: _ => none
    | rest => if negated then none else flags? true seen rest
  | c :: rest =>
    match flag? c with
    | some f => if seen.any (·.1 = f) then none else flags? negated ((f, !negated) :: seen) rest
    | none => none

/-- What a change makes of the verbose mode. -/
def verboseAfter (change : FlagChange) (verbose : Bool) : Bool :=
  (change.lookup .verbose).getD verbose

/-- Whether a character may stand in the name of a group. -/
def isNameChar (first : Bool) (c : Char) : Bool :=
  c = '_' || Unicode.isAlphabetic c.toNat ||
    (!first && (c = '.' || c = '[' || c = ']' || Unicode.isNumeric c.toNat))

/-- Reads the name of a group, up to the closing angle bracket. -/
def groupName? (names : List String) (s : List Char) : Option (String × List Char) :=
  match cut? ['>'] s with
  | some (c :: cs, rest) =>
    let name := String.ofList (c :: cs)
    if isNameChar true c && cs.all (isNameChar false) && !names.contains name then
      some (name, rest)
    else none
  | _ => none

/-- What an opening parenthesis begins. -/
inductive Opening where
  /-- A mark that changes flags up to the end of the enclosing group. -/
  | mark (change : FlagChange)
  | group (change : FlagChange)

/-- Reads what follows an opening parenthesis. -/
def opening? (st : State) (s : List Char) : Option (Opening × State × List Char) :=
  match skip st.verbose s with
  | '?' :: '=' :: _ => none
  | '?' :: '!' :: _ => none
  | '?' :: '<' :: '=' :: _ => none
  | '?' :: '<' :: '!' :: _ => none
  | '?' :: 'P' :: '<' :: rest => named rest
  | '?' :: '<' :: rest => named rest
  | '?' :: rest =>
    match flags? false [] rest with
    | some (change, ')' :: rest) =>
      if change.isEmpty then none
      else some (.mark change, ⟨verboseAfter change st.verbose, st.names⟩, rest)
    | some (change, ':' :: rest) =>
      some (.group change, ⟨verboseAfter change st.verbose, st.names⟩, rest)
    | _ => none
  | rest => some (.group [], st, rest)
where
  named (rest : List Char) : Option (Opening × State × List Char) :=
    (groupName? st.names rest).map fun r => (.group [], ⟨st.verbose, r.1 :: st.names⟩, r.2)

/-! ## Repetitions -/

/-- Reads digits; space between them is skipped in verbose mode. -/
def decimalDigits (verbose : Bool) : (fuel : Nat) → List Char → List Char × List Char
  | 0, s => ([], s)
  | fuel + 1, s =>
    match s with
    | [] => ([], [])
    | c :: rest =>
      if c.isDigit then
        let r := decimalDigits verbose fuel (skip verbose rest)
        (c :: r.1, r.2)
      else ([], c :: rest)

/-- Skips white space, and in verbose mode comments after it. -/
def skipAround (verbose : Bool) : (fuel : Nat) → List Char → List Char
  | 0, s => s
  | fuel + 1, s =>
    match s with
    | c :: rest => if Text.isWhiteSpace c then skipAround verbose fuel (skip verbose rest) else s
    | [] => []

/-- Reads a number of 32 bits with white space around it. The outer result is what is left; the
    number is `none` if there are no digits. -/
def count? (verbose : Bool) (s : List Char) : Option (Option Nat × List Char) :=
  let s := s.dropWhile Text.isWhiteSpace
  let (digits, rest) := decimalDigits verbose (s.length + 1) s
  let rest := skipAround verbose (rest.length + 1) rest
  if digits.isEmpty then some (none, rest)
  else
    let value := digits.foldl (fun n d => 10 * n + (d.toNat - '0'.toNat)) 0
    if value < Nat.pow 2 32 then some (some value, rest) else none

/-- Whether an expression can be repeated. -/
def isRepeatable : Pattern → Bool
  | .empty => false
  | .flags _ => false
  | _ => true

/-- Leaves out the sign of a repetition that prefers to be short. -/
def dropLazy : List Char → List Char
  | '?' :: rest => rest
  | s => s

/-- Reads the bounds of a repetition whose brace has been read. -/
def bounds? (verbose : Bool) (s : List Char) : Option ((Nat × Option Nat) × List Char) := do
  let s := skip verbose s
  if s.isEmpty then none
  let (least, rest) ← count? verbose s
  let (bounds, rest) ← match rest with
    | ',' :: rest =>
      let rest := skip verbose rest
      match rest with
      | [] => none
      | '\x7d' :: _ => do
        let least ← least
        pure ((least, none), rest)
      | rest => do
        let least ← least
        let (most, rest) ← count? verbose rest
        let most ← most
        pure ((least, some most), rest)
    | rest => do
      let least ← least
      pure ((least, some least), rest)
  match rest with
  | '\x7d' :: rest =>
    if bounds.2.all (bounds.1 ≤ ·) then return (bounds, dropLazy (skip verbose rest)) else none
  | _ => none

/-- Repeats the last part. -/
def repeatLast (least : Nat) (most : Option Nat) : List Pattern → Option (List Pattern)
  | [] => none
  | e :: es => if isRepeatable e then some (.repetition e least most :: es) else none

/-! ## Expressions -/

/-- A primitive as a part of an expression. -/
def Primitive.pattern : Primitive → Pattern
  | .literal l => .literal l
  | .assertion kind => .assertion kind
  | .shorthand negated kind => .shorthand negated kind
  | .property negated query => .property negated query

/-- Reads the rest of an expression, up to its end or to a closing parenthesis. `branches` and
    `parts` hold what was read, the latest first. -/
def expression : (fuel : Nat) → State → (branches parts : List Pattern) → List Char →
    Option (Pattern × State × List Char)
  | 0, _, _, _, _ => none
  | fuel + 1, st, branches, parts, s =>
    let finished := Pattern.alternate (branches.reverse ++ [Pattern.concat parts.reverse])
    let repeated (least : Nat) (most : Option Nat) (rest : List Char) :=
      match repeatLast least most parts with
      | some parts => expression fuel st branches parts rest
      | none => none
    match skip st.verbose s with
    | [] => some (finished, st, [])
    | c :: rest =>
      match c with
      | ')' => some (finished, st, c :: rest)
      | '(' =>
        match opening? st rest with
        | none => none
        | some (.mark change, st, rest) =>
          expression fuel st branches (.flags change :: parts) rest
        | some (.group change, inside, rest) =>
          match expression fuel inside [] [] rest with
          | some (inner, after, ')' :: rest) =>
            expression fuel ⟨st.verbose, after.names⟩ branches (.group change inner :: parts) rest
          | _ => none
      | '|' => expression fuel st (Pattern.concat parts.reverse :: branches) [] rest
      | '[' =>
        match class? st.verbose rest with
        | some (e, rest) => expression fuel st branches (e :: parts) rest
        | none => none
      | '?' => repeated 0 (some 1) (dropLazy rest)
      | '*' => repeated 0 none (dropLazy rest)
      | '+' => repeated 1 none (dropLazy rest)
      | '\x7b' =>
        match bounds? st.verbose rest with
        | some ((least, most), rest) => repeated least most rest
        | none => none
      | '\\' =>
        match escape? st.verbose rest with
        | some (p, rest) => expression fuel st branches (p.pattern :: parts) rest
        | none => none
      | '.' => expression fuel st branches (.dot :: parts) rest
      | '^' => expression fuel st branches (.assertion .startLine :: parts) rest
      | '$' => expression fuel st branches (.assertion .endLine :: parts) rest
      | c => expression fuel st branches (.literal ⟨c.toNat, false⟩ :: parts) rest

end Parser

/-- The expression that a text writes. -/
def Pattern.parse? (pattern : List Char) : Option Pattern :=
  match Parser.expression (pattern.length + 1) ⟨false, []⟩ [] [] pattern with
  | some (e, _, []) => if e.depth ≤ maxDepth then some e else none
  | _ => none

end NestedSearch.Regex
