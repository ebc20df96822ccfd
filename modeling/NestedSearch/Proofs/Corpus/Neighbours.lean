import Mathlib.Data.Prod.Lex
import Mathlib.Data.String.Basic
import NestedSearch.Corpus.Neighbours
import NestedSearch.Proofs.Scope

/-!
# Neighbours and the order of the indexes

The nearest documents of a scope are chosen among all of its indexes together. The order in which
candidates are ranked decides between any two of them (`precedes_antisymm`), so it does not matter
in which order they were found.
-/

namespace NestedSearch

namespace Candidate

/-- What candidates are ordered by. -/
def key (c : Candidate) : Int ×ₗ String ×ₗ String :=
  toLex (c.rank, toLex (c.hit.index, c.hit.id))

theorem key_injective : Function.Injective key := by
  rintro ⟨rank, index, id⟩ ⟨rank', index', id'⟩ h
  obtain ⟨rfl, h⟩ := Prod.mk.inj (toLex.injective h)
  obtain ⟨rfl, rfl⟩ := Prod.mk.inj (toLex.injective h)
  rfl

theorem precedes_iff {a b : Candidate} : a.precedes b = true ↔ a.key ≤ b.key := by
  unfold key precedes
  rw [Prod.Lex.toLex_le_toLex, Prod.Lex.toLex_le_toLex]
  by_cases hrank : a.rank = b.rank
  · by_cases hindex : a.hit.index = b.hit.index <;> simp [hrank, hindex]
  · simp [hrank]

theorem precedes_trans (a b c : Candidate) (hab : a.precedes b = true)
    (hbc : b.precedes c = true) : a.precedes c = true :=
  precedes_iff.mpr ((precedes_iff.mp hab).trans (precedes_iff.mp hbc))

theorem precedes_total (a b : Candidate) : (a.precedes b || b.precedes a) = true := by
  rw [Bool.or_eq_true, precedes_iff, precedes_iff]
  exact le_total a.key b.key

/-- No two candidates tie. -/
theorem precedes_antisymm (a b : Candidate) (hab : a.precedes b = true)
    (hba : b.precedes a = true) : a = b :=
  key_injective ((precedes_iff.mp hab).antisymm (precedes_iff.mp hba))

end Candidate

namespace Corpus

variable {s₁ s₂ : SearchScope}

/-- **Neighbours do not depend on the order of the indexes.** -/
theorem neighbours_eq_of_perm (c : Corpus) (h : s₁.indexes.Perm s₂.indexes) (l : Leaf) :
    c.neighbours s₁ l = c.neighbours s₂ l := by
  have hnearest (field : FieldPath) (query : List Float32) (k : Nat) :
      c.nearest s₁ field query k = c.nearest s₂ field query k := by
    have hperm : (c.candidates s₁ field query).Perm (c.candidates s₂ field query) :=
      h.flatMap_right _
    unfold nearest
    rw [mergeSort_eq_of_perm Candidate.precedes_trans Candidate.precedes_total
      Candidate.precedes_antisymm hperm]
  unfold neighbours
  split
  · exact hnearest _ _ _
  · rfl

/-- Only a leaf that asks for neighbours selects any. -/
theorem neighbours_eq_nil (c : Corpus) (s : SearchScope) {l : Leaf}
    (h : ∀ vector k, l.kind ≠ .knn vector k) : c.neighbours s l = [] := by
  unfold neighbours
  split
  · rename_i hkind _
    exact absurd hkind (h _ _)
  · rfl

end Corpus
end NestedSearch
