import NestedSearch.Json.Basic
import NestedSearch.Decimal.Layout

/-!
# Reading JSON

The grammar of JSON, strictly: no comments, no trailing commas, no text after the value. A
reader takes the characters still to be read and gives what it read together with the rest,
which is always shorter; nesting is bounded by a limit the caller sets.
-/

namespace NestedSearch.Json

/-- What a reader found, and what is left after it. -/
structure Step (input : List Char) (α : Type) where
  value : α
  rest : List Char
  shorter : rest.length < input.length

namespace Step

/-- The same step with another value. -/
def map {α β : Type} {input : List Char} (f : α → β) (s : Step input α) : Step input β :=
  ⟨f s.value, s.rest, s.shorter⟩

/-- A step from a later point of the input is one from an earlier point. -/
def weaken {α : Type} {input input' : List Char} (s : Step input α)
    (h : input.length ≤ input'.length) : Step input' α :=
  ⟨s.value, s.rest, Nat.lt_of_lt_of_le s.shorter h⟩

end Step

/-- The four characters that may stand between tokens. -/
def isBlank (c : Char) : Bool := c = ' ' || c = '\n' || c = '\t' || c = '\r'

/-- Leaves out leading blanks. -/
def skipBlanks (s : List Char) : List Char := s.dropWhile isBlank

theorem length_skipBlanks_le (s : List Char) : (skipBlanks s).length ≤ s.length :=
  (List.dropWhile_sublist _).length_le

theorem length_le_of_skipBlanks {s rest : List Char} {c : Char} (h : skipBlanks s = c :: rest) :
    (c :: rest).length ≤ s.length :=
  h ▸ length_skipBlanks_le s

/-! ## Strings -/

/-- The value of a hexadecimal digit. -/
def hexDigit? (c : Char) : Option Nat :=
  if '0' ≤ c && c ≤ '9' then some (c.toNat - '0'.toNat)
  else if 'a' ≤ c && c ≤ 'f' then some (c.toNat - 'a'.toNat + 10)
  else if 'A' ≤ c && c ≤ 'F' then some (c.toNat - 'A'.toNat + 10)
  else none

/-- The value of four hexadecimal digits. -/
def hexUnit? (a b c d : Char) : Option Nat := do
  let a ← hexDigit? a
  let b ← hexDigit? b
  let c ← hexDigit? c
  let d ← hexDigit? d
  return ((a * 16 + b) * 16 + c) * 16 + d

/-- The character that a one-letter escape stands for. -/
def escaped? : Char → Option Char
  | '"' => some '"'
  | '\\' => some '\\'
  | '/' => some '/'
  | 'b' => some '\x08'
  | 'f' => some '\x0c'
  | 'n' => some '\n'
  | 'r' => some '\r'
  | 't' => some '\t'
  | _ => none

/-- The units of a string up to its closing quote, and the rest: characters as code points,
    `\u` escapes as the UTF-16 units they are. -/
def units? : List Char → Option (List Nat × List Char)
  | [] => none
  | '"' :: rest => some ([], rest)
  | '\\' :: 'u' :: a :: b :: c :: d :: rest =>
    match hexUnit? a b c d with
    | some unit => (units? rest).map fun r => (unit :: r.1, r.2)
    | none => none
  | '\\' :: c :: rest =>
    match escaped? c with
    | some c => (units? rest).map fun r => (c.toNat :: r.1, r.2)
    | none => none
  | c :: rest =>
    if ' ' ≤ c then (units? rest).map fun r => (c.toNat :: r.1, r.2) else none

/-- Joins surrogate pairs. A surrogate that is no half of a pair stands for no character. -/
def ofUnits? : List Nat → Option (List Char)
  | [] => some []
  | u :: us =>
    if 0xD800 ≤ u && u < 0xDC00 then
      match us with
      | v :: us =>
        if 0xDC00 ≤ v && v < 0xE000 then
          (ofUnits? us).map (Char.ofNat (0x10000 + (u - 0xD800) * 0x400 + (v - 0xDC00)) :: ·)
        else none
      | [] => none
    else if 0xDC00 ≤ u && u < 0xE000 then none
    else (ofUnits? us).map (Char.ofNat u :: ·)

theorem length_units? {s : List Char} {r : List Nat × List Char} (h : units? s = some r) :
    r.2.length < s.length := by
  fun_induction units? s generalizing r with
  | case1 => simp at h
  | case2 rest =>
    obtain rfl := Option.some.inj h
    simp
  | case3 a b c d rest unit _ ih =>
    obtain ⟨r', hr, rfl⟩ := Option.map_eq_some_iff.1 h
    have := ih hr
    simp; omega
  | case4 => simp at h
  | case5 c rest _ c' _ ih =>
    obtain ⟨r', hr, rfl⟩ := Option.map_eq_some_iff.1 h
    have := ih hr
    simp; omega
  | case6 => simp at h
  | case7 c rest _ _ _ _ ih =>
    obtain ⟨r', hr, rfl⟩ := Option.map_eq_some_iff.1 h
    have := ih hr
    simp; omega
  | case8 => simp at h

/-- Reads a string whose opening quote has been read. -/
def string? (s : List Char) : Option (Step s (Option String)) :=
  match h : units? s with
  | none => none
  | some r => some ⟨(ofUnits? r.1).map String.ofList, r.2, length_units? h⟩

/-! ## Numbers -/

/-- The digit that a character is. -/
def digit? (c : Char) : Option (Fin 10) :=
  if c.isDigit then some (digitOf c) else none

/-- Reads digits for as long as there are any. -/
def digits : List Char → List (Fin 10) × List Char
  | [] => ([], [])
  | c :: rest =>
    match digit? c with
    | some d => (d :: (digits rest).1, (digits rest).2)
    | none => ([], c :: rest)

theorem length_digits (s : List Char) :
    (digits s).1.length + (digits s).2.length = s.length := by
  induction s with
  | nil => rfl
  | cons c r ih =>
    rw [digits]
    split
    · simp; omega
    · simp

theorem length_digits_lt {s : List Char} (h : (digits s).1 ≠ []) :
    (digits s).2.length < s.length := by
  have := length_digits s
  have := List.length_pos_iff.2 h
  omega

/-- Reads the whole part: one zero, or digits that do not begin with one. -/
def whole? (s : List Char) : Option (Step s Nat) :=
  match s with
  | [] => none
  | c :: rest =>
    if c = '0' then some ⟨0, rest, by simp⟩
    else if c.isDigit then
      if h : (digits (c :: rest)).1 = [] then none
      else some ⟨ofDecimalDigits (digits (c :: rest)).1, (digits (c :: rest)).2,
        length_digits_lt h⟩
    else none

/-- Reads at least one digit. -/
def digits? (s : List Char) : Option (Step s (List (Fin 10))) :=
  if h : (digits s).1 = [] then none
  else some ⟨(digits s).1, (digits s).2, length_digits_lt h⟩

/-- Reads the fraction part, if there is one: `none` is a point without digits. -/
def fraction? (s : List Char) : Option (List (Fin 10) × { r : List Char // r.length ≤ s.length }) :=
  match s with
  | '.' :: rest =>
    (digits? rest).map fun f => (f.value, ⟨f.rest, by have := f.shorter; simp; omega⟩)
  | s => some ([], ⟨s, Nat.le_refl _⟩)

/-- Reads the exponent, if there is one: `none` is an `e` without digits. -/
def exponent? (s : List Char) : Option (Option Int × { r : List Char // r.length ≤ s.length }) :=
  match s with
  | [] => some (none, ⟨[], Nat.le_refl _⟩)
  | c :: rest =>
    if c = 'e' || c = 'E' then
      match rest with
      | '-' :: rest =>
        (digits? rest).map fun e =>
          (some (-(ofDecimalDigits e.value : Int)), ⟨e.rest, by have := e.shorter; simp; omega⟩)
      | '+' :: rest =>
        (digits? rest).map fun e =>
          (some (ofDecimalDigits e.value : Int), ⟨e.rest, by have := e.shorter; simp; omega⟩)
      | rest =>
        (digits? rest).map fun e =>
          (some (ofDecimalDigits e.value : Int), ⟨e.rest, by have := e.shorter; simp; omega⟩)
    else some (none, ⟨c :: rest, Nat.le_refl _⟩)

/-- Reads a numeral without its sign. -/
def unsigned? (negative : Bool) (s : List Char) : Option (Step s Numeral) := do
  let whole ← whole? s
  let (fraction, ⟨rest, hf⟩) ← fraction? whole.rest
  let (exponent, ⟨rest, he⟩) ← exponent? rest
  return ⟨⟨negative, whole.value, fraction, exponent⟩, rest,
    Nat.lt_of_le_of_lt (Nat.le_trans he hf) whole.shorter⟩

/-- Reads a numeral. -/
def numeral? (s : List Char) : Option (Step s Numeral) :=
  match s with
  | '-' :: rest => (unsigned? true rest).map fun n => n.weaken (by simp)
  | s => unsigned? false s

/-! ## Values -/

/-- Reads exactly these characters. -/
def keyword? {α : Type} (word : List Char) (value : α) (s : List Char) : Option (Step s α) :=
  if h : word.isPrefixOf s ∧ word ≠ [] then
    some ⟨value, s.drop word.length, by
      have hl := List.length_pos_iff.2 h.2
      have := (List.isPrefixOf_iff_prefix.1 h.1).length_le
      simp; omega⟩
  else none

/-- Reads items separated by commas, up to the closing mark. An item is read where it begins,
    after the blanks. -/
def separated? {α : Type} (item : (s : List Char) → Option (Step s α)) (close : Char)
    (s : List Char) : Option (Step s (List α)) :=
  match item s with
  | none => none
  | some first =>
    match h : skipBlanks first.rest with
    | [] => none
    | c :: rest =>
      have hrest : rest.length < s.length :=
        Nat.lt_trans (Nat.lt_of_succ_le (length_le_of_skipBlanks h)) first.shorter
      if c = close then some ⟨[first.value], rest, hrest⟩
      else if c = ',' then
        have hskip : (skipBlanks rest).length < s.length :=
          Nat.lt_of_le_of_lt (length_skipBlanks_le rest) hrest
        match separated? item close (skipBlanks rest) with
        | none => none
        | some more => some ((more.map (first.value :: ·)).weaken (Nat.le_of_lt hskip))
      else none
termination_by s.length

/-- Reads what stands between an opening mark, already read, and the closing one: nothing, or
    items separated by commas. -/
def enclosed? {α : Type} (item : (s : List Char) → Option (Step s α)) (close : Char)
    (s : List Char) : Option (Step s (List α)) :=
  match h : skipBlanks s with
  | [] => none
  | c :: rest =>
    if c = close then some ⟨[], rest, Nat.lt_of_succ_le (length_le_of_skipBlanks h)⟩
    else (separated? item close (c :: rest)).map fun r => r.weaken (length_le_of_skipBlanks h)

/-- Reads a member of an object: a name, a colon and a value. -/
def member? (value : (s : List Char) → Option (Step s Json)) (s : List Char) :
    Option (Step s (Option String × Json)) :=
  match s with
  | '"' :: rest => do
    let name ← string? rest
    match h : skipBlanks name.rest with
    | ':' :: after =>
      let v ← value (skipBlanks after)
      return ⟨(name.value, v.value), v.rest, by
        have h1 := length_skipBlanks_le name.rest
        have h2 := length_skipBlanks_le after
        have h3 := name.shorter
        have h4 := v.shorter
        rw [h] at h1
        simp at h1 ⊢
        omega⟩
    | _ => none
  | _ => none

/-- Reads a value that begins at once and nests at most as deeply as the limit allows. -/
def value? : (limit : Nat) → (s : List Char) → Option (Step s Json)
  | limit, s =>
    match s with
    | [] => none
    | c :: rest =>
      if c = '{' then
        match limit with
        | 0 => none
        | limit + 1 =>
          (enclosed? (member? (value? limit)) '}' rest).map fun r =>
            (r.map Json.obj).weaken (by simp)
      else if c = '[' then
        match limit with
        | 0 => none
        | limit + 1 =>
          (enclosed? (value? limit) ']' rest).map fun r => (r.map Json.arr).weaken (by simp)
      else if c = '"' then
        (string? rest).map fun r => (r.map Json.str).weaken (by simp)
      else if c = 'n' then keyword? ['n', 'u', 'l', 'l'] Json.null (c :: rest)
      else if c = 't' then keyword? ['t', 'r', 'u', 'e'] (Json.bool true) (c :: rest)
      else if c = 'f' then keyword? ['f', 'a', 'l', 's', 'e'] (Json.bool false) (c :: rest)
      else (numeral? (c :: rest)).map fun r => r.map Json.num

/-- The value that a text holds, blanks around it apart, if its nesting stays within the
    limit. -/
def parse? (limit : Nat) (text : String) : Option Json :=
  match value? limit (skipBlanks text.toList) with
  | some step => if skipBlanks step.rest = [] then some step.value else none
  | none => none

/-- How deeply a text may nest arrays and objects. -/
def nestingLimit : Nat := 127

end NestedSearch.Json
