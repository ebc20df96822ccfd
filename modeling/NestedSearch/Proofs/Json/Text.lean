import NestedSearch.Json.Number
import NestedSearch.Proofs.Json.Token

/-!
# Values are read back

A value that is written as a text, in either of the two ways, is what the reader finds in it
(`parse?_compact`, `parse?_pretty`). The two ways differ only in the blanks between tokens, which
the reader skips; `Spacing` says what these are, and `written` is one writer for both.

The proof is an induction on the value, and of what follows it the reader only has to see that it
is no more of a numeral. A list of items is read from behind the blanks before its first one, since
that is where the reader goes on after a comma.
-/

namespace NestedSearch.Json

/-! ## One writer for both ways -/

/-- The blanks that a writer puts between tokens. -/
structure Spacing where
  /-- Before an item, a member or a closing mark, inside this many indentation steps. -/
  line : Nat → List Char
  /-- After the colon of a member. -/
  colon : List Char
  blank_line : ∀ steps, ∀ c ∈ line steps, isBlank c = true
  blank_colon : ∀ c ∈ colon, isBlank c = true

namespace Spacing

/-- No blanks at all. -/
def tight : Spacing where
  line _ := []
  colon := []
  blank_line := by simp
  blank_colon := by simp

/-- Items and members on lines of their own. -/
def indented : Spacing where
  line steps := '\n' :: List.replicate (2 * steps) ' '
  colon := [' ']
  blank_line steps c hc := by
    rcases List.mem_cons.mp hc with rfl | hc
    · rfl
    · rw [List.eq_of_mem_replicate hc]
      rfl
  blank_colon := by simp [isBlank]

end Spacing

variable {s : Spacing}

mutual

/-- The value with these blanks, inside the given number of indentation steps. -/
def written (s : Spacing) (steps : Nat) : Json → List Char
  | .null => ['n', 'u', 'l', 'l']
  | .bool b => if b then ['t', 'r', 'u', 'e'] else ['f', 'a', 'l', 's', 'e']
  | .num n => (n.render true).toList
  | .str text => ((text.map quoted).getD "null").toList
  | .arr [] => ['[', ']']
  | .arr (j :: js) =>
    '[' :: (writtenItems s (steps + 1) (j :: js) ++ (s.line steps ++ [']']))
  | .obj [] => ['\x7b', '\x7d']
  | .obj (m :: ms) =>
    '\x7b' :: (writtenMembers s (steps + 1) (m :: ms) ++ (s.line steps ++ ['\x7d']))

def writtenItems (s : Spacing) (steps : Nat) : List Json → List Char
  | [] => []
  | [j] => s.line steps ++ written s steps j
  | j :: js => s.line steps ++ (written s steps j ++ ',' :: writtenItems s steps js)

def writtenMember (s : Spacing) (steps : Nat) : Option String × Json → List Char
  | (name, j) =>
    s.line steps ++ ((quoted (name.getD "")).toList ++ ':' :: (s.colon ++ written s steps j))

def writtenMembers (s : Spacing) (steps : Nat) : List (Option String × Json) → List Char
  | [] => []
  | [m] => writtenMember s steps m
  | m :: ms => writtenMember s steps m ++ ',' :: writtenMembers s steps ms

end

mutual

theorem toList_compact (steps : Nat) : ∀ j : Json, j.compact.toList = written .tight steps j
  | .null => rfl
  | .bool b => by cases b <;> rfl
  | .num n => rfl
  | .str text => rfl
  | .arr [] => rfl
  | .arr (j :: js) => by
    rw [compact, written, String.toList_append, String.toList_append,
      toList_compactItems (steps + 1) (j :: js)]
    simp [Spacing.tight]
  | .obj [] => rfl
  | .obj (m :: ms) => by
    rw [compact, written, String.toList_append, String.toList_append,
      toList_compactMembers (steps + 1) (m :: ms)]
    simp [Spacing.tight]

theorem toList_compactItems (steps : Nat) :
    ∀ js : List Json, (compactItems js).toList = writtenItems .tight steps js
  | [] => rfl
  | [j] => toList_compact steps j
  | j :: j' :: js => by
    rw [compactItems, writtenItems, String.toList_append, String.toList_append,
      toList_compact steps j, toList_compactItems steps (j' :: js)]
    all_goals simp [Spacing.tight]

theorem toList_compactMember (steps : Nat) :
    ∀ m : Option String × Json, (compactMember m).toList = writtenMember .tight steps m
  | (name, j) => by
    rw [compactMember, writtenMember, String.toList_append, String.toList_append,
      toList_compact steps j]
    simp [Spacing.tight]

theorem toList_compactMembers (steps : Nat) : ∀ ms : List (Option String × Json),
    (compactMembers ms).toList = writtenMembers .tight steps ms
  | [] => rfl
  | [m] => toList_compactMember steps m
  | m :: m' :: ms => by
    rw [compactMembers, writtenMembers, String.toList_append, String.toList_append,
      toList_compactMember steps m, toList_compactMembers steps (m' :: ms)]
    all_goals simp [Spacing.tight]

end

theorem toList_newLine (steps : Nat) : (newLine steps).toList = Spacing.indented.line steps := by
  simp [newLine, Spacing.indented]

mutual

theorem toList_prettyAt (steps : Nat) :
    ∀ j : Json, (prettyAt steps j).toList = written .indented steps j
  | .null => by
    rw [prettyAt, written]
    rfl
  | .bool b => by
    rw [prettyAt, written]
    cases b <;> rfl
  | .num n => by rw [prettyAt, written]
  | .str text => by rw [prettyAt, written]
  | .arr [] => by
    rw [prettyAt, written]
    rfl
  | .arr (j :: js) => by
    rw [prettyAt, written]
    simp only [String.toList_append, toList_newLine, toList_prettyItems (steps + 1) (j :: js)]
    all_goals simp
  | .obj [] => by
    rw [prettyAt, written]
    rfl
  | .obj (m :: ms) => by
    rw [prettyAt, written]
    simp only [String.toList_append, toList_newLine, toList_prettyMembers (steps + 1) (m :: ms)]
    all_goals simp

theorem toList_prettyItems (steps : Nat) :
    ∀ js : List Json, (prettyItems steps js).toList = writtenItems .indented steps js
  | [] => rfl
  | [j] => by
    rw [prettyItems, writtenItems, String.toList_append, toList_newLine, toList_prettyAt steps j]
  | j :: j' :: js => by
    rw [prettyItems, writtenItems]
    simp only [String.toList_append, toList_newLine, toList_prettyAt steps j,
      toList_prettyItems steps (j' :: js)]
    all_goals simp

theorem toList_prettyMember (steps : Nat) :
    ∀ m : Option String × Json, (prettyMember steps m).toList = writtenMember .indented steps m
  | (name, j) => by
    rw [prettyMember, writtenMember]
    simp only [String.toList_append, toList_newLine, toList_prettyAt steps j]
    simp [Spacing.indented]

theorem toList_prettyMembers (steps : Nat) : ∀ ms : List (Option String × Json),
    (prettyMembers steps ms).toList = writtenMembers .indented steps ms
  | [] => rfl
  | [m] => toList_prettyMember steps m
  | m :: m' :: ms => by
    rw [prettyMembers, writtenMembers]
    simp only [String.toList_append, toList_prettyMember steps m,
      toList_prettyMembers steps (m' :: ms)]
    all_goals simp

end

/-! ## Blanks -/

theorem skipBlanks_append {blanks : List Char} (h : ∀ c ∈ blanks, isBlank c = true)
    (rest : List Char) : skipBlanks (blanks ++ rest) = skipBlanks rest :=
  List.dropWhile_append_of_pos h

theorem skipBlanks_cons {c : Char} (h : isBlank c = false) (rest : List Char) :
    skipBlanks (c :: rest) = c :: rest :=
  List.dropWhile_cons_of_neg (by rw [h]; exact Bool.false_ne_true)

theorem endsNumeral_of_isBlank {c : Char} (h : isBlank c = true) (rest : List Char) :
    EndsNumeral (c :: rest) := by
  rintro _ ⟨⟩
  simp only [isBlank, Bool.or_eq_true, decide_eq_true_eq] at h
  rcases h with ((rfl | rfl) | rfl) | rfl <;> decide

/-- A numeral ends before a closing mark, whatever blanks are between. -/
theorem endsNumeral_append {blanks rest : List Char} (h : ∀ c ∈ blanks, isBlank c = true)
    (hrest : EndsNumeral rest) : EndsNumeral (blanks ++ rest) := by
  cases blanks with
  | nil => exact hrest
  | cons c more => exact endsNumeral_of_isBlank (h c List.mem_cons_self) _

/-! ## Lists -/

section Lists

variable {α : Type} {item : (s : List Char) → Option (Step s α)} {close : Char}
  {text after more rest : List Char} {value : α} {values : List α}

/-- The last item ends at the closing mark. -/
theorem separated?_last (h : Reads (item text) value after)
    (hclose : skipBlanks after = close :: rest) :
    Reads (separated? item close text) [value] rest := by
  obtain ⟨step, hstep, rfl, rfl⟩ := h
  rw [separated?, hstep]
  simp only
  split
  · next hnil => cases hnil.symm.trans hclose
  · next hcons =>
    cases hcons.symm.trans hclose
    rw [if_pos rfl]
    exact ⟨_, rfl, rfl, rfl⟩

/-- Any other item ends at a comma, and the reader goes on behind the blanks. -/
theorem separated?_cons (hne : ',' ≠ close) (h : Reads (item text) value after)
    (hcomma : skipBlanks after = ',' :: more)
    (hmore : Reads (separated? item close (skipBlanks more)) values rest) :
    Reads (separated? item close text) (value :: values) rest := by
  obtain ⟨step, hstep, rfl, rfl⟩ := h
  obtain ⟨next, hnext, rfl, rfl⟩ := hmore
  rw [separated?, hstep]
  simp only
  split
  · next hnil => cases hnil.symm.trans hcomma
  · next hcons =>
    cases hcons.symm.trans hcomma
    rw [if_neg hne, if_pos rfl, hnext]
    exact ⟨_, rfl, rfl, rfl⟩

theorem enclosed?_nil (h : skipBlanks text = close :: rest) :
    Reads (enclosed? item close text) [] rest := by
  unfold enclosed?
  split
  · next hnil => cases hnil.symm.trans h
  · next hcons =>
    cases hcons.symm.trans h
    rw [if_pos rfl]
    exact ⟨_, rfl, rfl, rfl⟩

theorem enclosed?_of_separated (hne : (skipBlanks text).head? ≠ some close)
    (h : Reads (separated? item close (skipBlanks text)) values rest) :
    Reads (enclosed? item close text) values rest := by
  unfold enclosed?
  split
  · next hnil =>
    -- No items are read from nothing.
    obtain ⟨step, -, -, -⟩ := h
    exact absurd step.shorter (by simp [hnil])
  · next hcons =>
    rw [hcons] at hne h
    rw [if_neg (fun hc => hne (congrArg some hc))]
    exact h.weaken _

theorem member?_of_parts {value : (s : List Char) → Option (Step s Json)} {name : Option String}
    {j : Json} (hname : Reads (string? text) name after) (hcolon : skipBlanks after = ':' :: more)
    (hvalue : Reads (value (skipBlanks more)) j rest) :
    Reads (member? value ('"' :: text)) (name, j) rest := by
  obtain ⟨step, hstep, rfl, rfl⟩ := hname
  obtain ⟨found, hfound, rfl, rfl⟩ := hvalue
  simp only [member?, hstep, Option.bind_eq_bind, Option.bind_some]
  split
  · next hcons =>
    cases hcons.symm.trans hcolon
    rw [hfound]
    exact ⟨_, rfl, rfl, rfl⟩
  · next hother => exact absurd hcolon (hother _)

end Lists

/-! ## Values -/

section Values

variable {limit : Nat} {text rest : List Char}

theorem value?_obj {members : List (Option String × Json)}
    (h : Reads (enclosed? (member? (value? limit)) '\x7d' text) members rest) :
    Reads (value? (limit + 1) ('\x7b' :: text)) (.obj members) rest := by
  rw [value?]
  exact h.lift Json.obj _

theorem value?_arr {items : List Json}
    (h : Reads (enclosed? (value? limit) ']' text) items rest) :
    Reads (value? (limit + 1) ('[' :: text)) (.arr items) rest := by
  rw [value?]
  exact h.lift Json.arr _

theorem value?_str {value : Option String} (h : Reads (string? text) value rest) :
    Reads (value? limit ('"' :: text)) (.str value) rest := by
  rw [value?.eq_def]
  exact h.lift Json.str _

/-- Whatever begins like a numeral is read as one. -/
theorem value?_num {c : Char} {n : Numeral} (hc : c = '-' ∨ c.isDigit = true)
    (h : Reads (numeral? (c :: text)) n rest) : Reads (value? limit (c :: text)) (.num n) rest := by
  have hother : c ≠ '\x7b' ∧ c ≠ '[' ∧ c ≠ '"' ∧ c ≠ 'n' ∧ c ≠ 't' ∧ c ≠ 'f' := by
    refine ⟨?_, ?_, ?_, ?_, ?_, ?_⟩ <;> rintro rfl <;> revert hc <;> decide
  obtain ⟨hobj, harr, hstr, hn, ht, hf⟩ := hother
  rw [value?.eq_def]
  simp only
  rw [if_neg hobj, if_neg harr, if_neg hstr, if_neg hn, if_neg ht, if_neg hf]
  exact h.map Json.num

/-- How a value begins: not with a blank, and not with a mark that closes a list. -/
theorem exists_written_cons (steps : Nat) : ∀ {j : Json}, j.isSound = true →
    ∃ c cs, written s steps j = c :: cs ∧ isBlank c = false ∧ c ≠ ']'
  | .null, _ => ⟨_, _, rfl, by decide, by decide⟩
  | .bool true, _ => ⟨_, _, rfl, by decide, by decide⟩
  | .bool false, _ => ⟨_, _, rfl, by decide, by decide⟩
  | .num n, _ => by
    obtain ⟨c, cs, hcons, hdigit⟩ := exists_unsignedChars_cons n
    rw [written, toList_render]
    cases n.negative with
    | true => exact ⟨_, _, rfl, by decide, by decide⟩
    | false =>
      refine ⟨c, cs, hcons, ?_, ?_⟩
      · by_contra hblank
        rw [Bool.not_eq_false] at hblank
        exact Bool.false_ne_true ((endsNumeral_of_isBlank hblank [] c rfl).1.symm.trans hdigit)
      · rintro rfl
        cases hdigit
  | .str (some text), _ => by
    rw [written, Option.map_some, Option.getD_some, toList_quoted]
    exact ⟨_, _, rfl, by decide, by decide⟩
  | .arr [], _ => ⟨_, _, rfl, by decide, by decide⟩
  | .arr (j :: js), _ => ⟨_, _, rfl, by decide, by decide⟩
  | .obj [], _ => ⟨_, _, rfl, by decide, by decide⟩
  | .obj (m :: ms), _ => ⟨_, _, rfl, by decide, by decide⟩

/-- What follows an item: a comma, or blanks and the closing mark. -/
theorem endsNumeral_closing (steps : Nat) {c : Char} (hc : c = ']' ∨ c = '\x7d')
    (rest : List Char) : EndsNumeral (s.line steps ++ c :: rest) := by
  refine endsNumeral_append (s.blank_line steps) ?_
  rintro _ ⟨⟩
  rcases hc with rfl | rfl <;> decide

theorem endsNumeral_comma (rest : List Char) : EndsNumeral (',' :: rest) := by
  rintro _ ⟨⟩
  decide

/-- Behind blanks a value begins. -/
theorem skipBlanks_written {blanks : List Char} (hblanks : ∀ c ∈ blanks, isBlank c = true)
    (steps : Nat) {j : Json} (h : j.isSound = true) (rest : List Char) :
    skipBlanks (blanks ++ (written s steps j ++ rest)) = written s steps j ++ rest := by
  obtain ⟨c, cs, hcons, hblank, -⟩ := exists_written_cons (s := s) steps h
  rw [skipBlanks_append hblanks, hcons]
  exact skipBlanks_cons hblank _

theorem skipBlanks_closing (steps : Nat) {c : Char} (hc : isBlank c = false) (rest : List Char) :
    skipBlanks (s.line steps ++ c :: rest) = c :: rest := by
  rw [skipBlanks_append (s.blank_line steps), skipBlanks_cons hc]

/-! ## Items and members -/

theorem skipBlanks_writtenMember (steps : Nat) (name : String) (j : Json) (rest : List Char) :
    skipBlanks (writtenMember s steps (some name, j) ++ rest) =
      '"' :: (name.toList.flatMap escape ++
        '"' :: ':' :: (s.colon ++ (written s steps j ++ rest))) := by
  rw [writtenMember, List.append_assoc, skipBlanks_append (s.blank_line steps), Option.getD_some,
    toList_quoted]
  simp only [List.cons_append, List.append_assoc, List.nil_append]
  exact skipBlanks_cons (by decide) _

/-- A list of items does not begin like one that is empty. -/
theorem head?_writtenItems {steps : Nat} {j : Json} {js : List Json} (h : j.isSound = true)
    (rest : List Char) :
    (skipBlanks (writtenItems s steps (j :: js) ++ rest)).head? ≠ some ']' := by
  obtain ⟨c, cs, hcons, -, hc⟩ := exists_written_cons (s := s) steps h
  have hitems : ∃ more, writtenItems s steps (j :: js) =
      s.line steps ++ (written s steps j ++ more) := by
    cases js with
    | nil => exact ⟨[], by rw [writtenItems, List.append_nil]⟩
    | cons j' js => exact ⟨',' :: writtenItems s steps (j' :: js), by rw [writtenItems]; simp⟩
  obtain ⟨more, hmore⟩ := hitems
  rw [hmore, List.append_assoc, List.append_assoc,
    skipBlanks_written (s.blank_line steps) steps h, hcons]
  exact fun heq => hc (Option.some.inj heq)

theorem head?_writtenMembers (steps : Nat) (name : String) (j : Json)
    (ms : List (Option String × Json)) (rest : List Char) :
    (skipBlanks (writtenMembers s steps ((some name, j) :: ms) ++ rest)).head? ≠ some '\x7d' := by
  have hmembers : ∃ more, writtenMembers s steps ((some name, j) :: ms) =
      writtenMember s steps (some name, j) ++ more := by
    cases ms with
    | nil => exact ⟨[], by rw [writtenMembers, List.append_nil]⟩
    | cons m ms => exact ⟨',' :: writtenMembers s steps (m :: ms), by rw [writtenMembers]; simp⟩
  obtain ⟨more, hmore⟩ := hmembers
  rw [hmore, List.append_assoc, skipBlanks_writtenMember]
  exact fun heq => absurd (Option.some.inj heq) (by decide)

/-- A member is read back if its value is. -/
theorem member?_writtenMember {steps : Nat} {name : String} {j : Json} {after : List Char}
    (hsound : j.isSound = true)
    (h : Reads (value? limit (written s steps j ++ after)) j rest) :
    Reads (member? (value? limit) (skipBlanks (writtenMember s steps (some name, j) ++ after)))
      (some name, j) rest := by
  rw [skipBlanks_writtenMember]
  refine member?_of_parts (string?_quoted name _) (skipBlanks_cons (by decide) _) ?_
  rw [skipBlanks_written s.blank_colon steps hsound]
  exact h

end Values

mutual

/-- **A value is read back**, if its nesting stays within the limit. -/
theorem value?_written : ∀ (j : Json) (steps : Nat) {limit : Nat} {rest : List Char},
    j.isSound = true → j.nesting ≤ limit → EndsNumeral rest →
      Reads (value? limit (written s steps j ++ rest)) j rest
  | .null, steps, limit, rest, _, _, _ => ⟨_, by rw [value?.eq_def]; rfl, rfl, rfl⟩
  | .bool true, steps, limit, rest, _, _, _ => ⟨_, by rw [value?.eq_def]; rfl, rfl, rfl⟩
  | .bool false, steps, limit, rest, _, _, _ => ⟨_, by rw [value?.eq_def]; rfl, rfl, rfl⟩
  | .num n, steps, limit, rest, _, _, hrest => by
    obtain ⟨c, cs, hcons, hc⟩ := exists_render_cons n
    have hread := numeral?_render n hrest
    rw [written, hcons] at *
    exact value?_num hc hread
  | .str (some text), steps, limit, rest, _, _, _ => by
    rw [written, Option.map_some, Option.getD_some, toList_quoted, List.cons_append,
      List.append_assoc]
    exact value?_str (string?_quoted text rest)
  | .arr [], steps, limit, rest, _, hlimit, _ => by
    obtain ⟨limit, rfl⟩ := Nat.exists_eq_add_of_le' hlimit
    exact value?_arr (enclosed?_nil (skipBlanks_cons (by decide) rest))
  | .arr (j :: js), steps, limit, rest, hsound, hlimit, _ => by
    obtain ⟨limit, rfl⟩ := Nat.exists_eq_add_of_le' (Nat.le_trans (Nat.le_add_left 1 _) hlimit)
    rw [written, List.cons_append, List.append_assoc, List.append_assoc]
    have hj : j.isSound = true := (Bool.and_eq_true_iff.mp hsound).1
    exact value?_arr (enclosed?_of_separated (head?_writtenItems hj _)
      (separated?_writtenItems (j :: js) (steps + 1) steps (by simp) hsound
        (Nat.le_of_succ_le_succ hlimit)))
  | .obj [], steps, limit, rest, _, hlimit, _ => by
    obtain ⟨limit, rfl⟩ := Nat.exists_eq_add_of_le' hlimit
    exact value?_obj (enclosed?_nil (skipBlanks_cons (by decide) rest))
  | .obj ((none, j) :: ms), steps, limit, rest, hsound, hlimit, _ => by cases hsound
  | .obj ((some name, j) :: ms), steps, limit, rest, hsound, hlimit, _ => by
    obtain ⟨limit, rfl⟩ := Nat.exists_eq_add_of_le' (Nat.le_trans (Nat.le_add_left 1 _) hlimit)
    rw [written, List.cons_append, List.append_assoc, List.append_assoc]
    exact value?_obj (enclosed?_of_separated (head?_writtenMembers _ _ _ _ _)
      (separated?_writtenMembers ((some name, j) :: ms) (steps + 1) steps (by simp) hsound
        (Nat.le_of_succ_le_succ hlimit)))

theorem separated?_writtenItems : ∀ (js : List Json) (steps outer : Nat) {limit : Nat}
    {rest : List Char}, js ≠ [] → soundItems js = true → nestingItems js ≤ limit →
      Reads (separated? (value? limit) ']'
        (skipBlanks (writtenItems s steps js ++ (s.line outer ++ ']' :: rest)))) js rest
  | [], _, _, _, _, hne, _, _ => absurd rfl hne
  | [j], steps, outer, limit, rest, _, hsound, hlimit => by
    have hj : j.isSound = true := (Bool.and_eq_true_iff.mp hsound).1
    rw [writtenItems, List.append_assoc, skipBlanks_written (s.blank_line steps) steps hj]
    have hread := value?_written j steps hj (Nat.le_trans (Nat.le_max_left _ _) hlimit)
      (endsNumeral_closing (s := s) outer (.inl rfl) rest)
    exact separated?_last hread (skipBlanks_closing outer (by decide) rest)
  | j :: j' :: js, steps, outer, limit, rest, _, hsound, hlimit => by
    obtain ⟨hj, hrest⟩ := Bool.and_eq_true_iff.mp hsound
    obtain ⟨hlimit, hmore⟩ := Nat.max_le.mp hlimit
    rw [writtenItems, List.append_assoc, List.append_assoc,
      skipBlanks_written (s.blank_line steps) steps hj]
    · exact separated?_cons (by decide) (value?_written j steps hj hlimit (endsNumeral_comma _))
        (skipBlanks_cons (by decide) _)
        (separated?_writtenItems (j' :: js) steps outer (by simp) hrest hmore)
    · simp

theorem separated?_writtenMembers : ∀ (ms : List (Option String × Json)) (steps outer : Nat)
    {limit : Nat} {rest : List Char}, ms ≠ [] → soundMembers ms = true → nestingMembers ms ≤ limit →
      Reads (separated? (member? (value? limit)) '\x7d'
        (skipBlanks (writtenMembers s steps ms ++ (s.line outer ++ '\x7d' :: rest)))) ms rest
  | [], _, _, _, _, hne, _, _ => absurd rfl hne
  | (none, _) :: _, _, _, _, _, _, hsound, _ => by cases hsound
  | [(some name, j)], steps, outer, limit, rest, _, hsound, hlimit => by
    have hj : j.isSound = true := by simpa [soundMembers] using hsound
    have hread := value?_written j steps hj (Nat.le_trans (Nat.le_max_left _ _) hlimit)
      (endsNumeral_closing (s := s) outer (.inr rfl) rest)
    rw [writtenMembers]
    exact separated?_last (member?_writtenMember hj hread)
      (skipBlanks_closing outer (by decide) rest)
  | (some name, j) :: m :: ms, steps, outer, limit, rest, _, hsound, hlimit => by
    obtain ⟨hj, hrest⟩ : j.isSound = true ∧ soundMembers (m :: ms) = true := by
      simpa [soundMembers] using hsound
    obtain ⟨hlimit, hmore⟩ := Nat.max_le.mp hlimit
    have hread := value?_written j steps hj hlimit (endsNumeral_comma
      (writtenMembers s steps (m :: ms) ++ (s.line outer ++ '\x7d' :: rest)))
    rw [writtenMembers, List.append_assoc]
    · exact separated?_cons (by decide) (member?_writtenMember hj hread)
        (skipBlanks_cons (by decide) _)
        (separated?_writtenMembers (m :: ms) steps outer (by simp) hrest hmore)
    · simp

end

/-! ## Texts -/

theorem parse?_of_written {limit : Nat} {j : Json} {text : String}
    (htext : text.toList = written s 0 j) (hsound : j.isSound = true) (hlimit : j.nesting ≤ limit) :
    parse? limit text = some j := by
  have hend : EndsNumeral [] := by simp [EndsNumeral]
  have hread := value?_written (s := s) j 0 hsound hlimit hend
  obtain ⟨c, cs, hcons, hblank, -⟩ := exists_written_cons (s := s) 0 hsound
  have hskip : skipBlanks text.toList = written s 0 j ++ [] := by
    rw [htext, hcons, List.append_nil]
    exact skipBlanks_cons hblank cs
  rw [← hskip] at hread
  obtain ⟨step, hstep, rfl, hrest⟩ := hread
  have hdone : skipBlanks step.rest = [] := by
    rw [hrest]
    rfl
  rw [parse?, hstep]
  exact if_pos hdone

/-- **A value on one line is read back.** -/
theorem parse?_compact {limit : Nat} {j : Json} (hsound : j.isSound = true)
    (hlimit : j.nesting ≤ limit) : parse? limit j.compact = some j :=
  parse?_of_written (toList_compact 0 j) hsound hlimit

/-- **A value over several lines is read back.** -/
theorem parse?_pretty {limit : Nat} {j : Json} (hsound : j.isSound = true)
    (hlimit : j.nesting ≤ limit) : parse? limit j.pretty = some j :=
  parse?_of_written (toList_prettyAt 0 j) hsound hlimit

end NestedSearch.Json
