import NestedSearch.Proofs.Placement.Failure

/-!
# Conflicts that end a placement

A query that cannot be placed fails with the error of the node that went wrong. Placement never
finds a conflict between indexes itself: it is told of one where a path is resolved or where a name
is looked up, or a provider answers with one (`blames_of_place`).
-/

namespace NestedSearch
namespace Placement

/-- Where a conflict that ends a placement may come from. -/
inductive Blames (scope : SearchScope) (report : ConflictReport) : Prop
  /-- The indexes differ in what a path leads to. -/
  | path {p : FieldPath} {usage : Usage}
      (hresolve : scope.resolve none p usage = .error (.conflict report))
  /-- The indexes differ in what a name stands for. -/
  | name {node : Option FieldPath} {name : String} {full : FieldPath}
      (hlookup : lookup scope node name full = .error (.conflict report))
  /-- A provider gives a conflict for an answer. -/
  | provider {i : TargetIndex} {r : Registration} {invocation : Invocation}
      (hi : i ∈ scope.indexes) (hr : r ∈ i.named.registrations)
      (hprovide : r.provider.provide invocation = .error (.conflict report))

variable {scope : SearchScope} {config : CompilerConfig} {report : ConflictReport}

/-- That a field cannot be used, or needs other scopes than another one, is no conflict. -/
theorem PathError.blames (h : PathError scope (.conflict report)) : Blames scope report := by
  cases h with
  | resolve h => exact .path h

theorem blames_of_fails {s : Site} (h : s.Fails scope config (.conflict report)) :
    Blames scope report := by
  cases h with
  | leaf h =>
    obtain ⟨fault, -, hfault⟩ | h := settle_error h
    · cases hfault
    · exact h.blames
  | nested h => exact (enter_error h).blames
  | named h =>
    obtain ⟨cause, hcause⟩ | h | ⟨node, name, full, h⟩ | ⟨i, hi, r, hr, invocation, h⟩ :=
      invoke_error h
    · cases hcause
    · exact h.blames
    · exact .name h
    · exact .provider hi hr h

end Placement

open Placement

/-- **A conflict that ends a placement was there before it**: it is over a path or over a name, or
    it is the answer of a provider. -/
theorem blames_of_place {scope : SearchScope} {config : CompilerConfig} {p : Predicate}
    {report : ConflictReport} (h : place scope config p = .error (.conflict report)) :
    Blames scope report := by
  obtain ⟨s, -, hfails⟩ := exists_failure h 0
  exact blames_of_fails hfails

end NestedSearch
