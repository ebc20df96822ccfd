import Mathlib.Data.List.Basic
import NestedSearch.Corpus.Document

/-!
# Values below values

A nested scope is evaluated on the instances of its object, each with the rest of the path. That
nothing is lost or gained by stopping on the way is `values_append`: the values at the end of a
path are those at the end of its second half, taken from each value at the end of its first half.
What is not an object has nothing below it, so scopes may as well stop at objects only.
-/

namespace NestedSearch
namespace Document

/-! ## Instances -/

mutual

/-- An instance is no list, so it is its own only instance. -/
theorem instances_of_mem : ∀ (d : Document) {v : Document}, v ∈ d.instances → v.instances = [v]
  | .null, v, h | .bool _, v, h | .number _, v, h | .text _, v, h | .object _, v, h => by
    cases List.mem_singleton.mp h
    rfl
  | .list items, v, h => instances_of_mem_instancesOf items h

theorem instances_of_mem_instancesOf :
    ∀ (ds : List Document) {v : Document}, v ∈ instancesOf ds → v.instances = [v]
  | [], v, h => by cases h
  | d :: ds, v, h => by
    rcases List.mem_append.mp h with h | h
    · exact instances_of_mem d h
    · exact instances_of_mem_instancesOf ds h

end

theorem instances_of_mem_values {d v : Document} {path : List Segment} (h : v ∈ d.values path) :
    v.instances = [v] := by
  obtain ⟨u, -, hv⟩ := List.mem_flatMap.mp h
  exact instances_of_mem u hv

/-! ## Paths in two halves -/

theorem atEnd_append (d : Document) (a b : List Segment) :
    d.atEnd (a ++ b) = (d.atEnd a).flatMap fun v => v.atEnd b := by
  induction a generalizing d with
  | nil => simp [atEnd]
  | cons s rest ih =>
    rw [List.cons_append, atEnd, atEnd, List.flatMap_assoc]
    refine List.flatMap_congr ?_
    intro v _
    cases v.get? s.name with
    | none => rfl
    | some child => exact ih child

/-- A list stands for its instances. -/
theorem flatMap_values_instances (d : Document) (path : List Segment) :
    (d.instances.flatMap fun v => v.values path) = d.values path := by
  cases path with
  | nil =>
    have hself : ∀ v ∈ d.instances, v.values [] = [v] := by
      intro v hv
      simp [values, atEnd, instances_of_mem d hv]
    rw [List.flatMap_congr hself]
    simp [values, atEnd]
  | cons s rest =>
    unfold values
    rw [atEnd, List.flatMap_assoc]
    refine List.flatMap_congr ?_
    intro v hv
    rw [atEnd, instances_of_mem d hv, List.flatMap_singleton]

/-- **The values at the end of a path are those below each value on the way.** -/
theorem values_append (d : Document) (a b : List Segment) :
    d.values (a ++ b) = (d.values a).flatMap fun v => v.values b := by
  have hbelow : ∀ v ∈ d.atEnd a, (v.atEnd b).flatMap instances =
      v.instances.flatMap fun u => u.values b := by
    intro v _
    rw [flatMap_values_instances]
    rfl
  calc d.values (a ++ b)
      = (d.atEnd a).flatMap fun v => (v.atEnd b).flatMap instances := by
        unfold values
        rw [atEnd_append, List.flatMap_assoc]
    _ = (d.atEnd a).flatMap fun v => v.instances.flatMap fun u => u.values b :=
        List.flatMap_congr hbelow
    _ = (d.values a).flatMap fun v => v.values b := List.flatMap_assoc.symm

/-- The values at the end of a path are those in the first member on it. -/
theorem mem_values_cons_iff {d w : Document} {s : Segment} {rest : List Segment} :
    w ∈ d.values (s :: rest) ↔
      ∃ u ∈ d.instances, ∃ v, u.get? s.name = some v ∧ w ∈ v.values rest := by
  unfold values
  rw [atEnd, List.flatMap_assoc, List.mem_flatMap]
  refine exists_congr fun u => and_congr_right fun _ => ?_
  cases u.get? s.name with
  | none => simp
  | some v => simp

theorem values_of_not_object {d : Document} (hself : d.instances = [d])
    (h : d.isObject = false) (s : Segment) (rest : List Segment) : d.values (s :: rest) = [] := by
  have hnone : d.get? s.name = none := by
    cases d <;> first | rfl | cases h
  simp [values, atEnd, hself, hnone]

/-- On the way to something further down only objects matter. -/
theorem values_append_objects (d : Document) (a : List Segment) (s : Segment)
    (rest : List Segment) :
    d.values (a ++ s :: rest) =
      ((d.values a).filter isObject).flatMap fun v => v.values (s :: rest) := by
  have hall : ∀ l : List Document, (∀ v ∈ l, v.instances = [v]) →
      (l.flatMap fun v => v.values (s :: rest)) =
        (l.filter isObject).flatMap fun v => v.values (s :: rest) := by
    intro l hl
    induction l with
    | nil => rfl
    | cons v l ih =>
      have hrest := ih fun u hu => hl u (List.mem_cons_of_mem v hu)
      -- Lists have been looked through, so what is no object is a plain value.
      cases hobject : v.isObject with
      | false =>
        have hnil := values_of_not_object (hl v List.mem_cons_self) hobject s rest
        rw [List.flatMap_cons, hnil, List.nil_append, hrest,
          List.filter_cons_of_neg (by simp [hobject])]
      | true =>
        rw [List.filter_cons_of_pos hobject, List.flatMap_cons, List.flatMap_cons, hrest]
  rw [values_append]
  exact hall _ fun v hv => instances_of_mem_values hv

end Document
end NestedSearch
