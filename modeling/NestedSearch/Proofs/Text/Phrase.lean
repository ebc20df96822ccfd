import NestedSearch.Text

/-!
# Finding a phrase by its nearest places

A phrase is looked for from each place of its first term, and each other term is taken at the nearest
place after the one before it. No choice of later places could do better: if the terms stand anywhere
among the first `n` items of a list, then the nearest places are among these as well
(`reach?_le_of_standAt`). What the search leaves between the terms is therefore the least that any
choice of places leaves, and the search is exact (`containsPhrase_exact`).

Computed with indexes into the list, the search stays inside the list and never takes a larger number
from a smaller one (`containsPhrase?_eq`).
-/

namespace NestedSearch.Text

variable {α : Type}

/-! ## Places -/

/-- The terms stand in the list at these places, each after the one before. -/
structure StandAt (terms list : List α) (place : Nat → Nat) : Prop where
  increasing : ∀ i j, i < j → j < terms.length → place i < place j
  found : ∀ i, i < terms.length → list[place i]? = terms[i]?

namespace StandAt

variable {t : α} {terms list : List α} {place : Nat → Nat} {k : Nat}

theorem nil (list : List α) (place : Nat → Nat) : StandAt [] list place :=
  ⟨fun _ _ _ h => absurd h (Nat.not_lt_zero _), fun _ h => absurd h (Nat.not_lt_zero _)⟩

theorem first (h : StandAt (t :: terms) list place) : list[place 0]? = some t :=
  h.found 0 (Nat.succ_pos _)

theorem others (h : StandAt (t :: terms) list place) :
    StandAt terms list fun i => place (i + 1) where
  increasing i j hij hj := h.increasing (i + 1) (j + 1) (Nat.succ_lt_succ hij) (Nat.succ_lt_succ hj)
  found i hi := h.found (i + 1) (Nat.succ_lt_succ hi)

theorem first_lt (h : StandAt (t :: terms) list place) {i : Nat} (hi : i < terms.length) :
    place 0 < place (i + 1) := h.increasing 0 (i + 1) (Nat.succ_pos i) (Nat.succ_lt_succ hi)

/-- One more term in front, at a place before all others. -/
theorem cons {p : Nat} (hfirst : list[p]? = some t) (h : StandAt terms list place)
    (hlt : ∀ i, i < terms.length → p < place i) :
    StandAt (t :: terms) list fun | 0 => p | i + 1 => place i where
  increasing i j hij hj := by
    obtain ⟨j, rfl⟩ := Nat.exists_eq_succ_of_ne_zero (Nat.ne_of_gt (Nat.zero_lt_of_lt hij))
    have hj' : j < terms.length := Nat.lt_of_succ_lt_succ hj
    cases i with
    | zero => exact hlt j hj'
    | succ i => exact h.increasing i j (Nat.lt_of_succ_lt_succ hij) hj'
  found i hi := by
    cases i with
    | zero => exact hfirst
    | succ i => exact h.found i (Nat.lt_of_succ_lt_succ hi)

/-- Places in the rest of a list, seen from its beginning. -/
theorem ofDrop (h : StandAt terms (list.drop k) place) :
    StandAt terms list fun i => k + place i where
  increasing i j hij hj := Nat.add_lt_add_left (h.increasing i j hij hj) k
  found i hi := by
    rw [← h.found i hi, List.getElem?_drop]

/-- Places that are all in the rest of a list, seen from where it begins. -/
theorem drop (h : StandAt terms list place) (hle : ∀ i, i < terms.length → k ≤ place i) :
    StandAt terms (list.drop k) fun i => place i - k where
  increasing i j hij hj := by
    have hlt := h.increasing i j hij hj
    have hi := hle i (Nat.lt_trans hij hj)
    omega
  found i hi := by
    rw [List.getElem?_drop, Nat.add_sub_of_le (hle i hi), h.found i hi]

end StandAt

variable [DecidableEq α]

/-! ## The nearest places -/

theorem reach?_cons_cons (t x : α) (ts xs : List α) :
    reach? (t :: ts) (x :: xs) =
      (if t = x then reach? ts xs else reach? (t :: ts) xs).map fun n => n + 1 := by
  rw [reach?]

/-- The nearest places are places, and as many items are reached as there are up to the last. -/
theorem exists_standAt_of_reach? {terms list : List α} {n : Nat} (h : reach? terms list = some n) :
    n ≤ list.length ∧ terms.length ≤ n ∧
      ∃ place, StandAt terms list place ∧ ∀ i, i < terms.length → place i < n := by
  induction list generalizing terms n with
  | nil =>
    cases terms with
    | nil =>
      cases h
      exact ⟨Nat.le_refl _, Nat.zero_le _, id, .nil _ _, fun _ hi => by cases hi⟩
    | cons t ts => cases h
  | cons x xs ih =>
    cases terms with
    | nil =>
      rw [reach?] at h
      cases h
      exact ⟨Nat.zero_le _, Nat.le_refl _, id, .nil _ _, fun _ hi => by cases hi⟩
    | cons t ts =>
      rw [reach?_cons_cons] at h
      obtain ⟨m, hm, rfl⟩ := Option.map_eq_some_iff.mp h
      by_cases hx : t = x
      · subst hx
        rw [if_pos rfl] at hm
        obtain ⟨hle, hlen, place, hplace, hbound⟩ := ih hm
        have hlater : StandAt ts (t :: xs) fun i => 1 + place i := StandAt.ofDrop (k := 1) hplace
        refine ⟨Nat.succ_le_succ hle, Nat.succ_le_succ hlen, _,
          hlater.cons (p := 0) rfl fun i _ => by omega, fun i hi => ?_⟩
        cases i with
        | zero => exact Nat.succ_pos m
        | succ i =>
          have hi' := hbound i (Nat.lt_of_succ_lt_succ hi)
          simp only
          omega
      · rw [if_neg hx] at hm
        obtain ⟨hle, hlen, place, hplace, hbound⟩ := ih hm
        refine ⟨Nat.succ_le_succ hle, Nat.le_succ_of_le hlen, _, StandAt.ofDrop (k := 1) hplace,
          fun i hi => ?_⟩
        have hi' := hbound i hi
        omega

/-- **No other places are nearer:** terms that stand among the first `n` items are reached there. -/
theorem reach?_le_of_standAt {terms list : List α} {place : Nat → Nat} {n : Nat}
    (h : StandAt terms list place) (hbound : ∀ i, i < terms.length → place i < n) :
    ∃ m ≤ n, reach? terms list = some m := by
  induction list generalizing terms place n with
  | nil =>
    cases terms with
    | nil => exact ⟨0, Nat.zero_le _, rfl⟩
    | cons t ts => cases h.first
  | cons x xs ih =>
    cases terms with
    | nil => exact ⟨0, Nat.zero_le _, by rw [reach?]⟩
    | cons t ts =>
      have hfirst := h.first
      have hn := hbound 0 (Nat.succ_pos _)
      rw [reach?_cons_cons]
      by_cases hx : t = x
      · -- Wherever the first term stands, the others stand behind the head of the list.
        have hlater : ∀ i, i < ts.length → 1 ≤ place (i + 1) := fun i hi =>
          Nat.zero_lt_of_lt (h.first_lt hi)
        obtain ⟨m, hm, hreach⟩ := ih (n := n - 1) (h.others.drop hlater) fun i hi => by
          have hi' := hbound (i + 1) (Nat.succ_lt_succ hi)
          have := hlater i hi
          omega
        exact ⟨m + 1, by omega, by rw [if_pos hx, hreach]; rfl⟩
      · have hpos : 0 < place 0 := by
          refine Nat.pos_of_ne_zero fun hzero => hx ?_
          rw [hzero] at hfirst
          exact (Option.some.inj hfirst).symm
        have hlater : ∀ i, i < (t :: ts).length → 1 ≤ place i := by
          intro i hi
          cases i with
          | zero => exact hpos
          | succ i => exact Nat.zero_lt_of_lt (h.first_lt (Nat.lt_of_succ_lt_succ hi))
        obtain ⟨m, hm, hreach⟩ := ih (n := n - 1) (h.drop hlater) fun i hi => by
          have hi' := hbound i hi
          have := hlater i hi
          omega
        exact ⟨m + 1, by omega, by rw [if_neg hx, hreach]; rfl⟩

theorem occurs_iff {slop : Nat} {first : α} {others list : List α} :
    occurs slop first others list = true ↔
      ∃ start, list[start]? = some first ∧
        ∃ n, reach? others (list.drop (start + 1)) = some n ∧ n - others.length ≤ slop := by
  induction list with
  | nil => simp [occurs]
  | cons x xs ih =>
    rw [occurs, Bool.or_eq_true, Bool.and_eq_true, decide_eq_true_eq, ih]
    simp only [Option.any_eq_true, decide_eq_true_eq]
    constructor
    · rintro (⟨rfl, n, hn, hslop⟩ | ⟨start, hstart, hn⟩)
      · exact ⟨0, rfl, n, hn, hslop⟩
      · exact ⟨start + 1, hstart, hn⟩
    · rintro ⟨start, hstart, n, hn, hslop⟩
      cases start with
      | zero => exact .inl ⟨(Option.some.inj hstart).symm, n, hn, hslop⟩
      | succ start => exact .inr ⟨start, hstart, n, hn, hslop⟩

/-- **A phrase occurs exactly if its terms can be placed with not too much in between.** -/
theorem occurs_iff_standAt {slop : Nat} {first : α} {others list : List α} :
    occurs slop first others list = true ↔ ∃ place, StandAt (first :: others) list place ∧
      place others.length - place 0 - others.length ≤ slop := by
  rw [occurs_iff]
  constructor
  · rintro ⟨start, hstart, n, hn, hslop⟩
    obtain ⟨-, -, place, hplace, hbound⟩ := exists_standAt_of_reach? hn
    refine ⟨_, hplace.ofDrop.cons hstart fun i _ => by omega, ?_⟩
    cases hlen : others.length with
    | zero => simp
    | succ k =>
      have hlast := hbound k (by omega)
      simp only
      omega
  · rintro ⟨place, hplace, hslop⟩
    have hlater : ∀ i, i < others.length → place 0 + 1 ≤ place (i + 1) := fun i hi =>
      hplace.first_lt hi
    -- The last term is the furthest, so all others are within its reach.
    have hbound : ∀ i, i < others.length →
        place (i + 1) - (place 0 + 1) < place others.length - place 0 := by
      intro i hi
      have hle : place (i + 1) ≤ place others.length := by
        rcases Nat.lt_or_eq_of_le (Nat.succ_le_of_lt hi) with hlt | heq
        · exact Nat.le_of_lt (hplace.increasing _ _ hlt (Nat.lt_succ_self _))
        · exact Nat.le_of_eq (congrArg place heq)
      have := hlater i hi
      omega
    obtain ⟨m, hm, hreach⟩ := reach?_le_of_standAt (hplace.others.drop hlater) hbound
    exact ⟨place 0, hplace.first, m, hreach, by omega⟩

/-! ## By index -/

/-- The rest of a list from a place on, which must not lie behind the end. -/
def sliceFrom? (list : List α) (start : Nat) : Option (List α) :=
  if start ≤ list.length then some (list.drop start) else none

/-- The difference of two numbers, which must not be negative. -/
def difference? (m n : Nat) : Option Nat := if n ≤ m then some (m - n) else none

/-- The place of the last term, each taken at the nearest place after the one before; `none` inside if
    one of them is missing, and outside if a bound is not kept. -/
def lastPlace? (list : List α) : (place : Nat) → List α → Option (Option Nat)
  | place, [] => some (some place)
  | place, t :: ts => do
    let later ← sliceFrom? list (place + 1)
    match later.findIdx? (· = t) with
    | some offset => lastPlace? list (place + (offset + 1)) ts
    | none => some none

/-- Whether the phrase occurs with its first term at this place. -/
def occursAt? (slop : Nat) (others list : List α) (start : Nat) : Option Bool := do
  match ← lastPlace? list start others with
  | some place =>
    let span ← difference? place start
    let between ← difference? span others.length
    return between ≤ slop
  | none => return false

/-- Whether a phrase occurs in the list, found out with places in the list; `none` if a bound is not
    kept. -/
def containsPhrase? (slop : Nat) (phrase list : List α) : Option Bool :=
  match phrase with
  | [] => some false
  | first :: others =>
    ((List.range list.length).filter fun start => list[start]? = some first).anyM
      (occursAt? slop others list)

theorem reach?_cons (t : α) (ts list : List α) :
    reach? (t :: ts) list = (list.findIdx? (· = t)).bind fun offset =>
      (reach? ts (list.drop (offset + 1))).map fun n => offset + 1 + n := by
  induction list with
  | nil => rfl
  | cons x xs ih =>
    rw [reach?_cons_cons, List.findIdx?_cons]
    by_cases hx : t = x
    · subst hx
      simp [Nat.add_comm]
    · have hne : ¬x = t := fun h => hx h.symm
      simp only [if_neg hx, ih, hne, decide_false, Bool.false_eq_true, if_false]
      cases xs.findIdx? (· = t) with
      | none => rfl
      | some offset =>
        simp only [Option.map_some, Option.bind_some, Option.map_map, List.drop_succ_cons]
        congr 1
        funext n
        simp only [Function.comp]
        omega

/-- From a place in the list all slices begin in it. -/
theorem lastPlace?_eq {list : List α} {place : Nat} (h : place < list.length) (terms : List α) :
    lastPlace? list place terms =
      some ((reach? terms (list.drop (place + 1))).map fun n => place + n) := by
  induction terms generalizing place with
  | nil => rw [lastPlace?, reach?]; rfl
  | cons t ts ih =>
    have hslice : sliceFrom? list (place + 1) = some (list.drop (place + 1)) :=
      if_pos (Nat.succ_le_of_lt h)
    rw [lastPlace?, hslice, Option.bind_eq_bind, Option.bind_some, reach?_cons]
    cases hfound : (list.drop (place + 1)).findIdx? (· = t) with
    | none => rfl
    | some offset =>
      obtain ⟨hoffset, -⟩ := List.findIdx?_eq_some_iff_findIdx_eq.mp hfound
      rw [List.length_drop] at hoffset
      have hnext : place + (offset + 1) < list.length := by omega
      have hplace : place + (offset + 1) + 1 = place + 1 + (offset + 1) := by omega
      simp only [ih hnext, Option.bind_some, List.drop_drop, Option.map_map, hplace]
      congr 2
      funext n
      simp only [Function.comp]
      omega

/-- No term lies before the one that it follows, and no two at one place, so both differences are
    numbers. -/
theorem occursAt?_eq {slop : Nat} {others list : List α} {start : Nat} (h : start < list.length) :
    occursAt? slop others list start = some
      ((reach? others (list.drop (start + 1))).any fun n => n - others.length ≤ slop) := by
  rw [occursAt?, lastPlace?_eq h]
  cases hreach : reach? others (list.drop (start + 1)) with
  | none => rfl
  | some n =>
    obtain ⟨-, hlen, -⟩ := exists_standAt_of_reach? hreach
    have hspan : difference? (start + n) start = some n := by
      rw [difference?, if_pos (Nat.le_add_right _ _), Nat.add_sub_cancel_left]
    have hbetween : difference? n others.length = some (n - others.length) := if_pos hlen
    simp only [Option.map_some, Option.any_some, Option.bind_eq_bind, Option.bind_some, hspan,
      hbetween]
    rfl

theorem anyM_eq_some_any {test : Nat → Option Bool} {accepts : Nat → Bool} {places : List Nat}
    (h : ∀ p ∈ places, test p = some (accepts p)) :
    places.anyM test = some (places.any accepts) := by
  induction places with
  | nil => rfl
  | cons p rest ih =>
    have hrest := ih fun q hq => h q (List.mem_cons_of_mem p hq)
    rw [List.anyM, h p List.mem_cons_self, hrest, List.any_cons]
    cases accepts p <;> rfl

/-- **With places in the list nothing is ever out of bounds.** -/
theorem containsPhrase?_eq (slop : Nat) (phrase list : List α) :
    containsPhrase? slop phrase list = some (containsPhrase slop phrase list) := by
  cases phrase with
  | nil => rfl
  | cons first others =>
    have hin : ∀ start, list[start]? = some first → start < list.length := by
      intro start hstart
      exact (List.getElem?_eq_some_iff.mp hstart).1
    rw [containsPhrase?, containsPhrase, anyM_eq_some_any fun start hstart =>
      occursAt?_eq (hin start (of_decide_eq_true (List.mem_filter.mp hstart).2)), Option.some.injEq,
      Bool.eq_iff_iff, occurs_iff, List.any_eq_true]
    refine exists_congr fun start => ?_
    simp only [List.mem_filter, List.mem_range, decide_eq_true_eq, Option.any_eq_true]
    exact and_congr_left fun _ => and_iff_right_of_imp (hin start)

/-- **The search for a phrase is exact.** A phrase is found exactly if it has terms and these stand at
    places one after the other with at most `slop` items more from the first to the last than there
    are terms to go. Nothing is read outside of the list, and no difference is negative. -/
theorem containsPhrase_exact (slop : Nat) (phrase list : List α) :
    containsPhrase? slop phrase list = some (containsPhrase slop phrase list) ∧
      (containsPhrase slop phrase list = true ↔
        ∃ first others place, phrase = first :: others ∧ StandAt phrase list place ∧
          place others.length - place 0 - others.length ≤ slop) := by
  refine ⟨containsPhrase?_eq slop phrase list, ?_⟩
  cases phrase with
  | nil => simp [containsPhrase]
  | cons first others =>
    rw [containsPhrase, occurs_iff_standAt]
    constructor
    · rintro ⟨place, h⟩
      exact ⟨first, others, place, rfl, h⟩
    · rintro ⟨_, _, place, heq, h⟩
      cases heq
      exact ⟨place, h⟩

end NestedSearch.Text
