import Mathlib.Logic.Function.Iterate
import Mathlib.Tactic.Tauto
import NestedSearch.Regex.Basic

/-!
# What an expression means, and what the matcher computes

An expression relates the places where a match can begin to those where it can end
(`Regex.Spans`). The matcher works on sets of places and stops early in two ways: a round of a
repetition that leads to nothing new is the last one, and no repetition is tried more often than
the text has places. Neither makes a difference: it computes the places that the expression
relates to those it is given (`mem_advance_iff`).

The second is not an argument about the number of places. Matches go forward, so in a chain of
them every link either goes on or can be left out, and what is left is no longer than the way
from the one end to the other.
-/

namespace NestedSearch.Regex

/-! ## Chains -/

/-- A chain of so many links leads from one place to another. -/
def Chained (link : Nat → Nat → Prop) : (links : Nat) → Nat → Nat → Prop
  | 0, i, j => i = j
  | links + 1, i, j => ∃ k, link i k ∧ Chained link links k j

variable {link : Nat → Nat → Prop} {i j k m n : Nat}

theorem chained_add : Chained link (m + n) i j ↔ ∃ k, Chained link m i k ∧ Chained link n k j := by
  induction m generalizing i with
  | zero => simp [Chained]
  | succ m ih =>
    rw [Nat.succ_add]
    simp only [Chained, ih]
    constructor
    · rintro ⟨a, hlink, b, hfirst, hsecond⟩
      exact ⟨b, ⟨a, hlink, hfirst⟩, hsecond⟩
    · rintro ⟨b, ⟨a, hlink, hfirst⟩, hsecond⟩
      exact ⟨a, hlink, b, hfirst, hsecond⟩

theorem Chained.le (hforward : ∀ i j, link i j → i ≤ j) (h : Chained link n i j) : i ≤ j := by
  induction n generalizing i with
  | zero => exact Nat.le_of_eq h
  | succ n ih =>
    obtain ⟨k, hlink, hrest⟩ := h
    exact Nat.le_trans (hforward i k hlink) (ih hrest)

/-- Where links go forward, those that stay where they are can be left out. -/
theorem Chained.shorten (hforward : ∀ i j, link i j → i ≤ j) (h : Chained link n i j) :
    ∃ m, m ≤ n ∧ m ≤ j - i ∧ Chained link m i j := by
  induction n generalizing i with
  | zero => exact ⟨0, Nat.le_refl 0, Nat.zero_le _, h⟩
  | succ n ih =>
    obtain ⟨k, hlink, hrest⟩ := h
    obtain ⟨m, hm, hway, hrest'⟩ := ih hrest
    rcases Nat.eq_or_lt_of_le (hforward i k hlink) with rfl | hlt
    · exact ⟨m, by omega, hway, hrest'⟩
    · have hkj := hrest.le hforward
      exact ⟨m + 1, by omega, by omega, k, hlink, hrest'⟩

/-! ## Meaning -/

/-- A match of the expression can begin at the first place and end at the second one. -/
def Spans (text : Array Char) : Regex → Nat → Nat → Prop
  | .empty, i, j => i = j
  | .char set, i, j => ∃ c, text[i]? = some c ∧ set.contains c.toNat ∧ j = i + 1
  | .look condition, i, j => condition.holds text i ∧ j = i
  | .concat first second, i, j => ∃ k, first.Spans text i k ∧ second.Spans text k j
  | .alternate left right, i, j => left.Spans text i j ∨ right.Spans text i j
  | .repeated inner least most, i, j =>
    ∃ more, (∀ most' ∈ most, more ≤ most' - least) ∧ Chained (inner.Spans text) (least + more) i j

variable {text : Array Char}

/-- A match goes forward, and within the text. -/
theorem Spans.forward {r : Regex} (h : r.Spans text i j) : i ≤ j ∧ (j ≤ text.size ∨ j = i) := by
  induction r generalizing i j with
  | empty => exact ⟨Nat.le_of_eq h, .inr h.symm⟩
  | char set =>
    obtain ⟨c, hc, -, rfl⟩ := h
    have hlt : i < text.size := (Array.getElem?_eq_some_iff.mp hc).1
    omega
  | look condition =>
    obtain ⟨-, rfl⟩ := h
    exact ⟨Nat.le_refl _, .inr rfl⟩
  | concat first second ihf ihs =>
    obtain ⟨k, hfirst, hsecond⟩ := h
    have := ihf hfirst
    have := ihs hsecond
    omega
  | alternate left right ihl ihr => exact h.elim ihl ihr
  | repeated inner least most ih =>
    obtain ⟨more, -, hchain⟩ := h
    generalize least + more = n at hchain
    induction n generalizing i with
    | zero => exact ⟨Nat.le_of_eq hchain, .inr hchain.symm⟩
    | succ n ihn =>
      obtain ⟨k, hlink, hrest⟩ := hchain
      have := ih hlink
      have := ihn hrest
      omega

/-! ## Sets of places -/

variable {step : List Nat → List Nat} {places reached new : List Nat}

@[simp]
theorem mem_beyond : j ∈ beyond reached places ↔ j ∈ places ∧ j ∉ reached := by
  simp [beyond]

@[simp]
theorem mem_union {others : List Nat} : j ∈ union places others ↔ j ∈ places ∨ j ∈ others := by
  simp only [union, List.mem_append, mem_beyond]
  tauto

theorem iterate_eq_iterate (step : List Nat → List Nat) (times : Nat) (places : List Nat) :
    iterate step times places = step^[times] places := by
  induction times generalizing places with
  | zero => rfl
  | succ times ih =>
    simp only [iterate]
    split
    · rename_i hfixed
      exact (Function.iterate_fixed hfixed (times + 1)).symm
    · rw [ih, Function.iterate_succ_apply]

section

variable (hstep : ∀ places j, j ∈ step places ↔ ∃ i ∈ places, link i j)

include hstep

theorem mem_iterate_iff {times : Nat} :
    j ∈ iterate step times places ↔ ∃ i ∈ places, Chained link times i j := by
  rw [iterate_eq_iterate]
  induction times generalizing places with
  | zero => simp [Chained]
  | succ times ih =>
    simp only [Function.iterate_succ_apply, ih, hstep, Chained]
    constructor
    · rintro ⟨k, ⟨i, hi, hlink⟩, hrest⟩
      exact ⟨i, hi, k, hlink, hrest⟩
    · rintro ⟨i, hi, k, hlink, hrest⟩
      exact ⟨k, ⟨i, hi, hlink⟩, hrest⟩

/-- Only links from the new places can lead beyond what is reached, and this remains so from one
    round to the next. -/
theorem mem_reach_iff {times : Nat}
    (hold : ∀ i ∈ reached, i ∉ new → ∀ j, link i j → j ∈ reached) (hnew : ∀ i ∈ new, i ∈ reached) :
    j ∈ reach step times reached new ↔ ∃ n ≤ times, ∃ i ∈ reached, Chained link n i j := by
  induction times generalizing reached new with
  | zero => simp [reach, Chained]
  | succ times ih =>
    have hnext (i : Nat) (hi : i ∈ reached) (j : Nat) (hlink : link i j) :
        j ∈ reached ∨ j ∈ beyond reached (step new) := by
      by_cases hin : i ∈ new
      · have hj : j ∈ step new := (hstep new j).mpr ⟨i, hin, hlink⟩
        rw [mem_beyond]
        tauto
      · exact .inl (hold i hi hin j hlink)
    simp only [reach]
    split
    · -- Nothing leads beyond what is reached.
      rename_i hempty
      have hclosed (n : Nat) {i : Nat} (hi : i ∈ reached) (hchain : Chained link n i j) :
          j ∈ reached := by
        induction n generalizing i with
        | zero => exact hchain ▸ hi
        | succ n ihn =>
          obtain ⟨k, hlink, hrest⟩ := hchain
          refine ihn ?_ hrest
          simpa [List.isEmpty_iff.mp hempty] using hnext i hi k hlink
      constructor
      · exact fun hj => ⟨0, Nat.zero_le _, j, hj, rfl⟩
      · rintro ⟨n, -, i, hi, hchain⟩
        exact hclosed n hi hchain
    · rw [ih]
      · constructor
        · rintro ⟨n, hn, i, hi, hchain⟩
          rcases List.mem_append.mp hi with hi | hi
          · exact ⟨n, Nat.le_succ_of_le hn, i, hi, hchain⟩
          · obtain ⟨k, hk, hlink⟩ := (hstep new i).mp (mem_beyond.mp hi).1
            exact ⟨n + 1, Nat.succ_le_succ hn, k, hnew k hk, i, hlink, hchain⟩
        · rintro ⟨n, hn, i, hi, hchain⟩
          cases n with
          | zero => exact ⟨0, Nat.zero_le _, i, List.mem_append_left _ hi, hchain⟩
          | succ n =>
            obtain ⟨k, hlink, hrest⟩ := hchain
            exact ⟨n, Nat.le_of_succ_le_succ hn, k, List.mem_append.mpr (hnext i hi k hlink), hrest⟩
      · intro i hi hfresh j hlink
        have hi' := (List.mem_append.mp hi).resolve_right hfresh
        exact List.mem_append.mpr (hnext i hi' j hlink)
      · exact fun i hi => List.mem_append_right _ hi

end

/-! ## The matcher -/

theorem CharClass.step?_eq_some_iff {set : CharClass} :
    set.step? text i = some j ↔ (Regex.char set).Spans text i j := by
  simp only [step?, Spans]
  cases text[i]? with
  | none => simp
  | some c => simp [@eq_comm _ j]

/-- The further repetitions that the matcher leaves out lead nowhere new. -/
theorem exists_further_iff {inner : Regex} {least : Nat} {most : Option Nat} :
    (∃ n ≤ furtherTimes text least most, Chained (inner.Spans text) n i j) ↔
      ∃ n, (∀ most' ∈ most, n ≤ most' - least) ∧ Chained (inner.Spans text) n i j := by
  constructor
  · rintro ⟨n, hn, hchain⟩
    refine ⟨n, fun most' hmost => ?_, hchain⟩
    rw [hmost, furtherTimes] at hn
    exact (Nat.le_min.mp hn).1
  · rintro ⟨n, hn, hchain⟩
    obtain ⟨m, hmn, hway, hchain'⟩ := hchain.shorten fun _ _ h => h.forward.1
    have hinside : j - i ≤ text.size := by
      have hspans : (Regex.repeated inner n none).Spans text i j := ⟨0, by simp, hchain⟩
      have := hspans.forward
      omega
    refine ⟨m, ?_, hchain'⟩
    cases most with
    | none => exact Nat.le_succ_of_le (Nat.le_trans hway hinside)
    | some most =>
      have := hn most rfl
      exact Nat.le_min.mpr ⟨by omega, by omega⟩

/-- **The matcher computes the meaning of an expression.** -/
theorem mem_advance_iff {r : Regex} :
    j ∈ r.advance text places ↔ ∃ i ∈ places, r.Spans text i j := by
  induction r generalizing places j with
  | empty => simp [advance, Spans]
  | char set => simp only [advance, List.mem_filterMap, CharClass.step?_eq_some_iff]
  | look condition =>
    simp only [advance, Spans, List.mem_filter]
    constructor
    · rintro ⟨hj, hholds⟩
      exact ⟨j, hj, hholds, rfl⟩
    · rintro ⟨i, hi, hholds, rfl⟩
      exact ⟨hi, hholds⟩
  | concat first second ihf ihs =>
    simp only [advance, Spans, ihf, ihs]
    constructor
    · rintro ⟨k, ⟨i, hi, hfirst⟩, hsecond⟩
      exact ⟨i, hi, k, hfirst, hsecond⟩
    · rintro ⟨i, hi, k, hfirst, hsecond⟩
      exact ⟨k, ⟨i, hi, hfirst⟩, hsecond⟩
  | alternate left right ihl ihr =>
    simp only [advance, Spans, mem_union, ihl, ihr]
    grind
  | repeated inner least most ih =>
    have hstep (places : List Nat) (j : Nat) :
        j ∈ inner.advance text places ↔ ∃ i ∈ places, inner.Spans text i j := ih
    simp only [advance, Spans, chained_add]
    rw [mem_reach_iff hstep (fun i hi hnew => absurd hi hnew) fun i hi => hi]
    simp only [mem_iterate_iff hstep]
    constructor
    · rintro ⟨n, hn, k, ⟨i, hi, hleast⟩, hfurther⟩
      obtain ⟨n', hn', hfurther'⟩ := exists_further_iff.mp ⟨n, hn, hfurther⟩
      exact ⟨i, hi, n', hn', k, hleast, hfurther'⟩
    · rintro ⟨i, hi, n, hn, k, hleast, hfurther⟩
      obtain ⟨n', hn', hfurther'⟩ := exists_further_iff.mpr ⟨n, hn, hfurther⟩
      exact ⟨n', hn', k, ⟨i, hi, hleast⟩, hfurther'⟩

/-- A match of the expression begins and ends somewhere in the text. -/
def OccursIn (r : Regex) (text : Array Char) : Prop :=
  ∃ i j, i ≤ text.size ∧ r.Spans text i j

theorem matchesWhole_iff {r : Regex} : r.matchesWhole text ↔ r.Spans text 0 text.size := by
  simp [matchesWhole, mem_advance_iff]

end NestedSearch.Regex
