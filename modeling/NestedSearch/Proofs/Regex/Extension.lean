import NestedSearch.Regex.Parser

/-!
# Reading an expression within a longer text

What a reader makes of a text when more text stands behind it. A reader that stops before the
end of the text never looks at what is added. One that reads to the end either goes on like
before when a parenthesis is closed there, or it was within a comment, and the comment goes on
up to the end of the line.
-/

namespace NestedSearch.Regex.Parser

variable {α β γ : Type} {v : Bool} {c : Char} {s s' rest rest' : List Char}

/-- How a reader that leaves `rest` of the text `s` reads the text with more behind it, given any
    fuel beyond what `s` takes. What the reader makes of a text that ends where `rest` begins is
    `result`. -/
inductive Extends (read : (fuel : Nat) → List Char → Option β) (result : List Char → β)
    (s : List Char) : (rest : List Char) → Prop where
  /-- It stops at the same place, whatever follows. -/
  | through {rest : List Char}
      (h : ∀ fuel t, read fuel (s ++ t) = some (result (rest ++ t))) : Extends read result s rest
  /-- It stops before a closing parenthesis. -/
  | closed (h : ∀ fuel more, read fuel (s ++ ')' :: more) = some (result (')' :: more))) :
      Extends read result s []
  /-- It skips what follows on the same line. -/
  | inComment (h : ∀ fuel t, '\n' ∉ t → read fuel (s ++ t) = some (result [])) :
      Extends read result s []

/-- The reader finds nothing to read at the end of a text and before a closing parenthesis. -/
structure Rests (read : (fuel : Nat) → List Char → Option β) (result : List Char → β) : Prop where
  atEnd : ∀ fuel, read fuel [] = some (result [])
  beforeClosing : ∀ fuel more, read fuel (')' :: more) = some (result (')' :: more))

namespace Extends

variable {read : Nat → List Char → Option β} {result : List Char → β}

/-- A reader that reads what another one reads extends like that one. -/
theorem imp {read' : Nat → List Char → Option β} (h : Extends read' result s' rest)
    (himp : ∀ fuel t, ∃ fuel', ∀ x, read' fuel' (s' ++ t) = some x → read fuel (s ++ t) = some x) :
    Extends read result s rest := by
  have hread (fuel : Nat) (t : List Char) {x : β} (hx : ∀ fuel', read' fuel' (s' ++ t) = some x) :
      read fuel (s ++ t) = some x := by
    obtain ⟨fuel', himp⟩ := himp fuel t
    exact himp x (hx fuel')
  cases h with
  | through h => exact .through fun fuel t => hread fuel t fun fuel' => h fuel' t
  | closed h => exact .closed fun fuel more => hread fuel _ fun fuel' => h fuel' more
  | inComment h => exact .inComment fun fuel t ht => hread fuel t fun fuel' => h fuel' t ht

/-- What was read is turned into something else, which may fail for other results. -/
theorem filterMap {f : β → Option γ} {result' : List Char → γ} (h : Extends read result s rest)
    (hf : ∀ r, f (result r) = some (result' r)) :
    Extends (fun fuel u => (read fuel u).bind f) result' s rest := by
  cases h with
  | through h => exact .through fun fuel t => by simp [h fuel t, hf]
  | closed h => exact .closed fun fuel more => by simp [h fuel more, hf]
  | inComment h => exact .inComment fun fuel t ht => by simp [h fuel t ht, hf]

/-- What is left of a text keeps the text behind it from being looked at. -/
theorem append (h : Extends read result s rest) (hrest : rest ≠ []) (fuel : Nat) (t : List Char) :
    read fuel (s ++ t) = some (result (rest ++ t)) := by
  cases h with
  | through h => exact h fuel t
  | closed | inComment => exact absurd rfl hrest

/-- One reader after another. The second one may find nothing left to read. -/
theorem bind {read₁ : Nat → List Char → Option α} {result₁ : List Char → α}
    {next : Nat → α → Option β} {middle : List Char} (h₁ : Extends read₁ result₁ s middle)
    (h₂ : middle ≠ [] → Extends (fun fuel u => next fuel (result₁ u)) result middle rest)
    (hnil : middle = [] → rest = [] ∧ Rests (fun fuel u => next fuel (result₁ u)) result) :
    Extends (fun fuel u => (read₁ fuel u).bind (next fuel)) result s rest := by
  cases h₁ with
  | through h =>
    by_cases hm : middle = []
    · subst hm
      obtain ⟨rfl, hrests⟩ := hnil rfl
      exact .closed fun fuel more => by simpa [h] using hrests.beforeClosing fuel more
    · exact (h₂ hm).imp fun fuel t => ⟨fuel, fun x hx => by simpa [h] using hx⟩
  | closed h =>
    obtain ⟨rfl, hrests⟩ := hnil rfl
    exact .closed fun fuel more => by simpa [h] using hrests.beforeClosing fuel more
  | inComment h =>
    obtain ⟨rfl, hrests⟩ := hnil rfl
    exact .inComment fun fuel t ht => by simpa [h fuel t ht] using hrests.atEnd fuel

/-- Reading on where a reader that cannot fail has left off. -/
theorem comp {f : List Char → List Char} (h₁ : Extends (fun _ u => some (f u)) id s (f s))
    (h₂ : f s ≠ [] → Extends read result (f s) rest)
    (hnil : f s = [] → rest = [] ∧ Rests read result) :
    Extends (fun fuel u => read fuel (f u)) result s rest :=
  h₁.bind h₂ hnil

/-- Reading on where a reader with the result `a` has left off. -/
theorem bindValue {read₁ : List Char → Option (α × List Char)} {a : α} {middle : List Char}
    {k : Nat → α → List Char → Option β} (h₁ : Extends (fun _ => read₁) (fun r => (a, r)) s middle)
    (h₂ : middle ≠ [] → Extends (fun fuel => k fuel a) result middle rest)
    (hnil : middle = [] → rest = [] ∧ Rests (fun fuel => k fuel a) result) :
    Extends (fun fuel u => (read₁ u).bind fun r => k fuel r.1 r.2) result s rest :=
  h₁.bind h₂ hnil

end Extends

/-! ## Space -/

theorem skipSpaceAndComments_append {comment : Bool}
    (h : skipSpaceAndComments comment s = c :: rest) (t : List Char) :
    skipSpaceAndComments comment (s ++ t) = c :: (rest ++ t) := by
  fun_induction skipSpaceAndComments comment s with grind [skipSpaceAndComments]

/-- A text that is skipped as a whole ends within a comment or outside of one. -/
theorem skipSpaceAndComments_of_eq_nil {comment : Bool}
    (h : skipSpaceAndComments comment s = []) :
    ∃ comment', ∀ t, skipSpaceAndComments comment (s ++ t) = skipSpaceAndComments comment' t := by
  fun_induction skipSpaceAndComments comment s with
  | case1 comment => exact ⟨comment, fun t => rfl⟩
  | case2 c rest ih => simpa [skipSpaceAndComments] using ih h
  | case3 c rest hc ih => simpa [skipSpaceAndComments, hc] using ih h
  | case4 rest hc ih => simpa [skipSpaceAndComments, hc] using ih h
  | case5 c rest _ _ => cases h

theorem skipSpaceAndComments_comment {t : List Char} (h : '\n' ∉ t) :
    skipSpaceAndComments true t = [] := by
  induction t with
  | nil => rfl
  | cons c t ih =>
    obtain ⟨hc, ht⟩ := not_or.mp (mt List.mem_cons.mpr h)
    simpa [skipSpaceAndComments, Ne.symm hc] using ih ht

theorem skip_append (h : skip v s = c :: rest) (t : List Char) :
    skip v (s ++ t) = c :: (rest ++ t) := by
  cases v with
  | false => simp_all [skip]
  | true => exact skipSpaceAndComments_append h t

@[simp]
theorem skip_nil : skip v [] = [] := by cases v <;> rfl

@[simp]
theorem skip_closing {more : List Char} : skip v (')' :: more) = ')' :: more := by
  cases v with
  | false => rfl
  | true =>
    have hspace : Text.isWhiteSpace ')' = false := by decide
    simp [skip, skipSpaceAndComments, hspace]

theorem skip_suffix (v : Bool) (s : List Char) : skip v s <:+ s := by
  have hskip (comment : Bool) : skipSpaceAndComments comment s <:+ s := by
    fun_induction skipSpaceAndComments comment s with
    | case1 => exact List.suffix_refl _
    | case2 c rest ih | case3 c rest _ ih | case4 rest _ ih =>
      exact ih.trans (List.suffix_cons _ _)
    | case5 => exact List.suffix_refl _
  cases v with
  | false => exact List.suffix_refl _
  | true => exact hskip false

theorem skip_extends (v : Bool) (s : List Char) :
    Extends (fun _ u => some (skip v u)) id s (skip v s) := by
  cases hskip : skip v s with
  | cons c rest => exact .through fun _ t => congrArg some (skip_append hskip t)
  | nil =>
    cases v with
    | false => exact .closed fun _ more => by simp_all [skip]
    | true =>
      obtain ⟨comment, hend⟩ := skipSpaceAndComments_of_eq_nil hskip
      cases comment with
      | false =>
        exact .closed fun _ more => congrArg some ((hend _).trans (skip_closing (v := true)))
      | true =>
        exact .inComment fun _ t ht =>
          congrArg some ((hend t).trans (skipSpaceAndComments_comment ht))

/-! ## Escapes -/

theorem fixedHex_extends {count value n : Nat} (h : fixedHex v count value s = some (n, rest)) :
    Extends (fun _ => fixedHex v count value) (fun r => (n, r)) s rest := by
  induction count generalizing value s with
  | zero =>
    obtain ⟨rfl, rfl⟩ : value = n ∧ s = rest := by simpa [fixedHex] using h
    exact .through fun _ t => rfl
  | succ count ih =>
    cases s with
    | nil => simp [fixedHex] at h
    | cons c after =>
      obtain ⟨digit, hdigit, hafter⟩ : ∃ digit, hexValue? c = some digit ∧
          fixedHex v count (value * 16 + digit) (skip v after) = some (n, rest) := by
        simpa [fixedHex, Option.bind_eq_some_iff] using h
      have hnext : Extends (fun _ u => fixedHex v count (value * 16 + digit) (skip v u))
          (fun r => (n, r)) after rest := by
        refine (skip_extends v after).comp (fun _ => ih hafter) fun hnil => ?_
        rw [hnil] at hafter
        cases count with
        | zero =>
          obtain ⟨hn, rfl⟩ : value * 16 + digit = n ∧ [] = rest := by simpa [fixedHex] using hafter
          exact ⟨rfl, by simp [fixedHex, hn], fun _ more => by simp [fixedHex, hn]⟩
        | succ count => simp [fixedHex] at hafter
      exact hnext.imp fun fuel t => ⟨fuel, fun x hx => by simpa [fixedHex, hdigit] using hx⟩

theorem bracedHex_extends {fuel n : Nat} {value : Option Nat}
    (h : bracedHex v fuel value s = some (n, rest)) :
    Extends (fun more => bracedHex v (fuel + more) value) (fun r => (n, r)) s rest := by
  induction fuel generalizing value s with
  | zero => simp [bracedHex] at h
  | succ fuel ih =>
    cases hskip : skip v s with
    | nil => simp [bracedHex, hskip] at h
    | cons c after =>
      by_cases hc : c = '\x7d'
      · obtain ⟨n, rfl, rfl, rfl⟩ : ∃ a, value = some a ∧ a = n ∧ skip v after = rest := by
          simpa [bracedHex, hskip, hc] using h
        refine ((skip_extends v after).filterMap (f := fun r => some (n, r)) fun _ => rfl).imp
          fun more t => ⟨more, fun x hx => ?_⟩
        simpa [Nat.succ_add, bracedHex, skip_append hskip t, hc] using hx
      · obtain ⟨digit, hdigit, hafter⟩ : ∃ digit, hexValue? c = some digit ∧
            bracedHex v fuel (some (value.getD 0 * 16 + digit)) after = some (n, rest) := by
          simpa [bracedHex, hskip, hc, Option.bind_eq_some_iff] using h
        refine (ih hafter).imp fun more t => ⟨more, fun x hx => ?_⟩
        simpa [Nat.succ_add, bracedHex, skip_append hskip t, hc, hdigit] using hx

/-- The end of the reading of a code point. -/
def literal? (isByte : Bool) (r : Nat × List Char) : Option (Literal × List Char) :=
  (scalar? r.1).map fun code => (⟨code, isByte⟩, r.2)

theorem hex?_of_skip {digits : Nat} {after : List Char} (hskip : skip v s = c :: after) :
    hex? v digits s =
      if c = '\x7b' then (bracedHex v (after.length + 1) none after).bind (literal? false)
      else (fixedHex v digits 0 (c :: after)).bind (literal? (digits = 2)) := by
  simp only [hex?, hskip]
  split <;> congr 1 <;> funext r <;> cases hr : scalar? r.1 <;> simp [literal?, hr]

theorem hex?_extends {digits : Nat} {l : Literal} (h : hex? v digits s = some (l, rest)) :
    Extends (fun _ => hex? v digits) (fun r => (l, r)) s rest := by
  cases hskip : skip v s with
  | nil => simp [hex?, hskip] at h
  | cons c after =>
    rw [hex?_of_skip hskip] at h
    have hliteral {isByte : Bool} {n : Nat} {r : List Char}
        (hl : literal? isByte (n, r) = some (l, rest)) :
        r = rest ∧ ∀ u, literal? isByte (n, u) = some (l, u) := by
      simp only [literal?, Option.map_eq_some_iff] at hl ⊢
      grind
    split at h
    · obtain ⟨⟨n, r⟩, hread, hend⟩ := Option.bind_eq_some_iff.mp h
      obtain ⟨rfl, hl⟩ := hliteral hend
      refine ((bracedHex_extends hread).filterMap hl).imp fun _ t => ⟨t.length, fun x hx => ?_⟩
      simpa [hex?_of_skip (skip_append hskip t), *, Nat.add_right_comm] using hx
    · obtain ⟨⟨n, r⟩, hread, hend⟩ := Option.bind_eq_some_iff.mp h
      obtain ⟨rfl, hl⟩ := hliteral hend
      refine ((fixedHex_extends hread).filterMap hl).imp fun fuel t => ⟨fuel, fun x hx => ?_⟩
      simpa [hex?_of_skip (skip_append hskip t), *] using hx

theorem braced_append {fuel : Nat} {inside : List Char}
    (h : braced v fuel s = some (inside, rest)) (more : Nat) (t : List Char) :
    braced v (fuel + more) (s ++ t) = some (inside, rest ++ t) := by
  induction fuel generalizing s inside with
  | zero => simp [braced] at h
  | succ fuel ih =>
    cases hskip : skip v s with
    | nil => simp [braced, hskip] at h
    | cons c after =>
      by_cases hc : c = '\x7d'
      · obtain ⟨rfl, rfl⟩ : [] = inside ∧ after = rest := by simpa [braced, hskip, hc] using h
        simp [Nat.succ_add, braced, skip_append hskip t, hc]
      · obtain ⟨inside', hread, rfl⟩ : ∃ inside', braced v fuel after = some (inside', rest) ∧
            c :: inside' = inside := by
          simpa [braced, hskip, hc] using h
        simp [Nat.succ_add, braced, skip_append hskip t, hc, ih hread]

theorem property?_extends {negated : Bool} {q : Bool × PropertyQuery}
    (h : property? v negated s = some (q, rest)) :
    Extends (fun _ => property? v negated) (fun r => (q, r)) s rest := by
  cases hskip : skip v s with
  | nil => simp [property?, hskip] at h
  | cons c after =>
    by_cases hbrace : c = '\x7b'
    · obtain ⟨inside, hread, rfl⟩ : ∃ inside,
          braced v (after.length + 1) after = some (inside, rest) ∧
            (negated != (query inside).2, (query inside).1) = q := by
        simp only [property?, hskip, if_pos hbrace, Option.map_eq_some_iff] at h
        grind
      refine .through fun _ t => ?_
      have hread' := braced_append hread t.length t
      rw [Nat.add_right_comm] at hread'
      simp [property?, skip_append hskip t, hbrace, hread']
    · by_cases hslash : c = '\\'
      · simp [property?, hskip, hslash] at h
      · obtain ⟨rfl, rfl⟩ : (negated, .named (String.ofList [c])) = q ∧ skip v after = rest := by
          simpa [property?, hskip, hbrace, hslash] using h
        refine ((skip_extends v after).filterMap
          (f := fun r => some ((negated, PropertyQuery.named (String.ofList [c])), r)) fun _ => rfl).imp
          fun fuel t => ⟨fuel, fun x hx => ?_⟩
        simpa [property?, skip_append hskip t, hbrace, hslash] using hx

/-! ## Runs of characters

Names of boundaries, numbers, hyphens at the beginning of a class and white space around numbers
are all read in the same way.
-/

/-- Reads characters with a property, skipping space after each of them. -/
def spacedRun (p : Char → Bool) (verbose : Bool) : (fuel : Nat) → List Char → List Char × List Char
  | 0, s => ([], s)
  | _ + 1, [] => ([], [])
  | fuel + 1, c :: rest =>
    if p c then
      let r := spacedRun p verbose fuel (skip verbose rest)
      (c :: r.1, r.2)
    else ([], c :: rest)

theorem boundaryName_eq (v : Bool) (fuel : Nat) (s : List Char) :
    boundaryName v fuel s = spacedRun isBoundaryChar v fuel s := by
  induction fuel generalizing s with
  | zero => rfl
  | succ fuel ih => cases s <;> simp [boundaryName, spacedRun, ih]

theorem decimalDigits_eq (v : Bool) (fuel : Nat) (s : List Char) :
    decimalDigits v fuel s = spacedRun Char.isDigit v fuel s := by
  induction fuel generalizing s with
  | zero => rfl
  | succ fuel ih => cases s <;> simp [decimalDigits, spacedRun, ih]

theorem leadingHyphens_eq (v : Bool) (fuel : Nat) (s : List Char) :
    leadingHyphens v fuel s =
      ((spacedRun (· = '-') v fuel s).1.length, (spacedRun (· = '-') v fuel s).2) := by
  induction fuel generalizing s with
  | zero => rfl
  | succ fuel ih =>
    cases s with
    | nil => rfl
    | cons c rest => by_cases hc : c = '-' <;> simp [leadingHyphens, spacedRun, hc, ih]

theorem skipAround_eq (v : Bool) (fuel : Nat) (s : List Char) :
    skipAround v fuel s = (spacedRun Text.isWhiteSpace v fuel s).2 := by
  induction fuel generalizing s with
  | zero => rfl
  | succ fuel ih =>
    cases s with
    | nil => rfl
    | cons c rest => by_cases hc : Text.isWhiteSpace c <;> simp [skipAround, spacedRun, hc, ih]

@[simp]
theorem spacedRun_nil {p : Char → Bool} (fuel : Nat) : spacedRun p v fuel [] = ([], []) := by
  cases fuel <;> rfl

theorem spacedRun_suffix (p : Char → Bool) (v : Bool) (fuel : Nat) (s : List Char) :
    (spacedRun p v fuel s).2 <:+ s := by
  induction fuel generalizing s with
  | zero => exact List.suffix_refl _
  | succ fuel ih =>
    cases s with
    | nil => simp
    | cons c rest =>
      by_cases hc : p c
      · simpa [spacedRun, hc] using
          ((ih _).trans (skip_suffix v rest)).trans (List.suffix_cons c rest)
      · simp [spacedRun, hc]

/-- A run that ends before the end of the text ends there whatever follows. -/
theorem spacedRun_append {p : Char → Bool} {fuel fuel' : Nat} {run : List Char}
    (h : spacedRun p v fuel s = (run, rest)) (hrest : rest ≠ []) (hfuel : s.length ≤ fuel)
    (hle : fuel ≤ fuel') (t : List Char) :
    spacedRun p v fuel' (s ++ t) = (run, rest ++ t) := by
  induction fuel generalizing fuel' s run with
  | zero =>
    obtain rfl : s = [] := List.length_eq_zero_iff.mp (Nat.le_zero.mp hfuel)
    simp [hrest.symm] at h
  | succ fuel ih =>
    obtain ⟨fuel', rfl⟩ : ∃ k, fuel' = k + 1 := ⟨fuel' - 1, by omega⟩
    cases s with
    | nil => simp [hrest.symm] at h
    | cons c after =>
      by_cases hc : p c
      · obtain ⟨⟨tail, rest'⟩, hafter⟩ : ∃ r, spacedRun p v fuel (skip v after) = r := ⟨_, rfl⟩
        obtain ⟨rfl, rfl⟩ : c :: tail = run ∧ rest' = rest := by
          simpa [spacedRun, hc, hafter] using h
        cases hskip : skip v after with
        | nil => simp [hskip, hrest.symm] at hafter
        | cons d after' =>
          have hlength := (skip_suffix v after).length_le
          have hnext := ih hafter (by simp at hfuel; omega) (Nat.le_of_succ_le_succ hle)
          rw [hskip, List.cons_append] at hnext
          simp [spacedRun, hc, skip_append hskip t, hnext]
      · obtain ⟨rfl, rfl⟩ : [] = run ∧ c :: after = rest := by simpa [spacedRun, hc] using h
        simp [spacedRun, hc]

theorem boundary?_extends {kind : Assertion} (h : boundary? v s = some (kind, rest)) :
    Extends (fun _ => boundary? v) (fun r => (kind, r)) s rest := by
  cases s with
  | nil =>
    obtain ⟨rfl, rfl⟩ : .wordBoundary = kind ∧ [] = rest := by simpa [boundary?] using h
    exact .closed fun _ more => by simp [boundary?]
  | cons c inside =>
    refine .through fun _ t => ?_
    by_cases hbrace : c = '\x7b'
    · subst hbrace
      cases hskip : skip v inside with
      | nil => simp [boundary?, hskip] at h
      | cons d after =>
        by_cases hd : isBoundaryChar d
        · obtain ⟨⟨name, left⟩, hrun⟩ :
              ∃ run, spacedRun isBoundaryChar v (after.length + 1) (d :: after) = run := ⟨_, rfl⟩
          simp only [boundary?, hskip, hd, boundaryName_eq, hrun] at h
          cases left with
          | nil => simp at h
          | cons e r =>
            by_cases he : e = '\x7d'
            · subst he
              have hlonger := spacedRun_append hrun (by simp) (Nat.le_refl _)
                (show after.length + 1 ≤ (after ++ t).length + 1 by simp) t
              rw [List.cons_append] at hlonger
              simp only [boundary?, List.cons_append, skip_append hskip t, hd, boundaryName_eq,
                hlonger, Bool.not_true, Bool.false_eq_true, if_false] at h ⊢
              split at h <;> simp_all
            · simp [he] at h
        · obtain ⟨rfl, rfl⟩ : .wordBoundary = kind ∧ '\x7b' :: inside = rest := by
            simpa [boundary?, hskip, hd] using h
          simp [boundary?, skip_append hskip t, hd]
    · obtain ⟨rfl, rfl⟩ : .wordBoundary = kind ∧ c :: inside = rest := by
        simpa [boundary?, hbrace] using h
      simp [boundary?, hbrace]

/-- An escape whose letter hands over to another reader. -/
theorem Extends.afterLetter {read : List Char → Option (α × List Char)} {value : α}
    {f : α → Primitive} {after : List Char} (hread : ∀ u, escape? v (c :: u) =
      (read u).map fun r => (f r.1, r.2))
    (h : Extends (fun _ => read) (fun r => (value, r)) after rest) :
    Extends (fun _ => escape? v) (fun r => (f value, r)) (c :: after) rest :=
  (h.filterMap (f := fun r => some (f r.1, r.2)) fun _ => rfl).imp fun fuel t =>
    ⟨fuel, fun x hx => by simpa [hread, Option.map_eq_bind, Function.comp_def] using hx⟩

theorem escape?_extends {p : Primitive} (h : escape? v s = some (p, rest)) :
    Extends (fun _ => escape? v) (fun r => (p, r)) s rest := by
  cases s with
  | nil => simp [escape?] at h
  | cons c after =>
    simp only [escape?] at h
    split at h
    case h_1 | h_2 | h_3 =>
      obtain ⟨⟨l, r⟩, hread, hl⟩ := Option.map_eq_some_iff.mp h
      obtain ⟨rfl, rfl⟩ := Prod.mk.inj hl
      exact (hex?_extends hread).afterLetter (f := .literal) fun _ => rfl
    case h_4 | h_5 =>
      obtain ⟨⟨q, r⟩, hread, hq⟩ := Option.map_eq_some_iff.mp h
      obtain ⟨rfl, rfl⟩ := Prod.mk.inj hq
      exact (property?_extends hread).afterLetter
        (f := fun q : Bool × PropertyQuery => .property q.1 q.2) fun _ => rfl
    case h_20 =>
      obtain ⟨⟨kind, r⟩, hread, hkind⟩ := Option.map_eq_some_iff.mp h
      obtain ⟨rfl, rfl⟩ := Prod.mk.inj hkind
      exact (boundary?_extends hread).afterLetter (f := .assertion) fun _ => rfl
    case h_24 =>
      obtain ⟨hc, rfl, rfl⟩ : isEscapable c ∧ .ofChar c = p ∧ after = rest := by simpa using h
      exact .through fun _ t => by simp [escape?, hc]
    all_goals
      obtain ⟨rfl, rfl⟩ := Prod.mk.inj (Option.some.inj h)
      exact .through fun _ _ => rfl

/-! ## Repetitions -/

theorem dropLazy_extends (s : List Char) :
    Extends (fun _ u => some (dropLazy u)) id s (dropLazy s) := by
  cases s with
  | nil => exact .closed fun _ more => rfl
  | cons c after =>
    by_cases hc : c = '?'
    · exact .through fun _ t => by simp [dropLazy, hc]
    · exact .through fun _ t => by simp [dropLazy, hc]

theorem count?_append {n : Option Nat} (h : count? v s = some (n, rest)) (hrest : rest ≠ [])
    (t : List Char) : count? v (s ++ t) = some (n, rest ++ t) := by
  obtain ⟨start, hstart⟩ : ∃ start, s.dropWhile Text.isWhiteSpace = start := ⟨_, rfl⟩
  obtain ⟨⟨digits, middle⟩, hdigits⟩ :
      ∃ run, spacedRun Char.isDigit v (start.length + 1) start = run := ⟨_, rfl⟩
  obtain ⟨⟨spaces, last⟩, hspaces⟩ :
      ∃ run, spacedRun Text.isWhiteSpace v (middle.length + 1) middle = run := ⟨_, rfl⟩
  simp only [count?, decimalDigits_eq, skipAround_eq, hstart, hdigits, hspaces] at h
  have hlast : last = rest := by grind
  subst hlast
  have hmiddle : middle ≠ [] := by
    rintro rfl
    simp [hrest.symm] at hspaces
  have hne : start ≠ [] := by
    rintro rfl
    simp [hmiddle.symm] at hdigits
  have hstart' : (s ++ t).dropWhile Text.isWhiteSpace = start ++ t := by
    simp [List.dropWhile_append, hstart, hne]
  have hdigits' := spacedRun_append hdigits hmiddle (Nat.le_succ _)
    (show start.length + 1 ≤ (start ++ t).length + 1 by simp) t
  have hspaces' := spacedRun_append hspaces hrest (Nat.le_succ _)
    (show middle.length + 1 ≤ (middle ++ t).length + 1 by simp) t
  simp only [count?, decimalDigits_eq, skipAround_eq, hstart', hdigits', hspaces']
  grind

/-- What stands between the braces of a repetition whose bounds are `bounds`: `inside` is the text
    after the opening brace and the space behind it, `last` what stands after the closing one. -/
inductive BoundsIn (v : Bool) (inside last : List Char) : (bounds : Nat × Option Nat) → Prop where
  | exactly {n : Nat} (hcount : count? v inside = some (some n, '\x7d' :: last)) :
      BoundsIn v inside last (n, some n)
  | atLeast {n : Nat} {middle : List Char} (hcount : count? v inside = some (some n, ',' :: middle))
      (hskip : skip v middle = '\x7d' :: last) : BoundsIn v inside last (n, none)
  | between {n m : Nat} {middle tail : List Char} {c : Char}
      (hcount : count? v inside = some (some n, ',' :: middle)) (hskip : skip v middle = c :: tail)
      (hc : c ≠ '\x7d') (hmost : count? v (c :: tail) = some (some m, '\x7d' :: last)) :
      BoundsIn v inside last (n, some m)

/-- Behind the bounds of a repetition stands what closes them. -/
theorem exists_of_closing {b bounds : Nat × Option Nat} {u : List Char}
    (h : (match u with
      | '\x7d' :: rest => if b.2.all (b.1 ≤ ·) then some (b, dropLazy (skip v rest)) else none
      | _ => none) = some (bounds, rest)) :
    ∃ last, u = '\x7d' :: last ∧ b = bounds ∧ bounds.2.all (bounds.1 ≤ ·) ∧
      dropLazy (skip v last) = rest := by
  split at h <;> grind

theorem bounds?_eq_some_iff {bounds : Nat × Option Nat} :
    bounds? v s = some (bounds, rest) ↔
      ∃ c tail last, skip v s = c :: tail ∧ BoundsIn v (c :: tail) last bounds ∧
        bounds.2.all (bounds.1 ≤ ·) ∧ dropLazy (skip v last) = rest := by
  constructor
  · intro h
    cases hskip : skip v s with
    | nil => simp [bounds?, hskip] at h
    | cons c tail =>
      simp only [bounds?, hskip, List.isEmpty_cons, Bool.false_eq_true, if_false,
        Option.bind_eq_bind, Option.bind_eq_some_iff, Option.pure_def] at h
      obtain ⟨⟨least, after⟩, hcount, hafter⟩ := h
      dsimp only at hafter
      split at hafter
      · rename_i middle
        split at hafter
        · simp at hafter
        · rename_i inside hmiddle
          obtain ⟨n, rfl, hend⟩ := Option.bind_eq_some_iff.mp hafter
          obtain ⟨last, hlast, rfl, hall, hrest⟩ := exists_of_closing hend
          exact ⟨c, tail, last, rfl, .atLeast hcount hlast, hall, hrest⟩
        · rename_i hopen hbrace
          obtain ⟨n, rfl, hmiddle⟩ := Option.bind_eq_some_iff.mp hafter
          obtain ⟨⟨most, u⟩, hmost, hupper⟩ := Option.bind_eq_some_iff.mp hmiddle
          obtain ⟨m, rfl, hend⟩ := Option.bind_eq_some_iff.mp hupper
          obtain ⟨last, rfl, rfl, hall, hrest⟩ := exists_of_closing hend
          obtain ⟨d, tail', hd⟩ := List.exists_cons_of_ne_nil hopen
          refine ⟨c, tail, last, rfl, .between hcount hd ?_ (hd ▸ hmost), hall, hrest⟩
          rintro rfl
          exact hbrace _ hd
      · obtain ⟨n, rfl, hend⟩ := Option.bind_eq_some_iff.mp hafter
        obtain ⟨last, rfl, rfl, hall, hrest⟩ := exists_of_closing hend
        exact ⟨c, tail, last, rfl, .exactly hcount, hall, hrest⟩
  · rintro ⟨c, tail, last, hskip, hin, hall, rfl⟩
    cases hin with
    | exactly hcount => simp [bounds?, hskip, hcount]
    | atLeast hcount hmiddle => simp [bounds?, hskip, hcount, hmiddle]
    | between hcount hmiddle hc hmost =>
      simpa [bounds?, hskip, hcount, hmiddle, hc, hmost] using hall

theorem BoundsIn.append {inside last : List Char} {bounds : Nat × Option Nat}
    (h : BoundsIn v inside last bounds) (t : List Char) :
    BoundsIn v (inside ++ t) (last ++ t) bounds := by
  cases h with
  | exactly hcount => exact .exactly (count?_append hcount (by simp) t)
  | atLeast hcount hskip => exact .atLeast (count?_append hcount (by simp) t) (skip_append hskip t)
  | between hcount hskip hc hmost =>
    exact .between (count?_append hcount (by simp) t) (skip_append hskip t) hc
      (count?_append hmost (by simp) t)

theorem bounds?_extends {bounds : Nat × Option Nat} (h : bounds? v s = some (bounds, rest)) :
    Extends (fun _ => bounds? v) (fun r => (bounds, r)) s rest := by
  obtain ⟨c, tail, last, hskip, hin, hall, rfl⟩ := bounds?_eq_some_iff.mp h
  have hend : Extends (fun _ u => some (dropLazy (skip v u))) id last (dropLazy (skip v last)) :=
    (skip_extends v last).comp (fun _ => dropLazy_extends _) fun hnil => by
      rw [hnil]
      exact ⟨rfl, fun _ => rfl, fun _ _ => rfl⟩
  refine (hend.filterMap (f := fun r => some (bounds, r)) fun _ => rfl).imp
    fun fuel t => ⟨fuel, fun x hx => ?_⟩
  obtain rfl := Option.some.inj hx
  exact bounds?_eq_some_iff.mpr ⟨c, _, _, skip_append hskip t, hin.append t, hall, rfl⟩

end NestedSearch.Regex.Parser
