import NestedSearch.Compile
import NestedSearch.Predicate.Builder
import NestedSearch.Proofs.Placement.Failure
import NestedSearch.Proofs.Placement.WellFormed
import NestedSearch.Proofs.Reports

/-!
# Predicates that were built

A builder refuses what breaks the rules for leaves and boosts, or takes steps that leave none to
break. So a predicate that was built never fails for these rules when it is compiled, in a scope
whose providers build theirs as well (`compile_built`).

`Predicate.Built` follows the calls of the builder. All that compiling needs to know of it is that
such a predicate is well-formed (`Built.isWellFormed`); its parts and what the names in it stand
for then are as well (`Leads.isWellFormed`), and where placement fails on a well-formed part, it is
not for a rule (`ne_invalidPredicate_of_fails`).
-/

namespace NestedSearch

open Relation (ReflTransGen)

/-! ## Calls of the builder -/

/-- The step comes from another one by giving it fields and options. -/
inductive FieldStep.Extends (start : FieldStep) : FieldStep → Prop
  | start : Extends start start
  | field {s s' : FieldStep} {path : String} (h : Extends start s) (hfield : s.field path = .ok s') :
      Extends start s'
  | analyzer {s : FieldStep} (h : Extends start s) (name : String) :
      Extends start (s.analyzer name)
  | skipAnalysis {s : FieldStep} (h : Extends start s) : Extends start s.skipAnalysis

/-- The step comes from another one by binding parameters. -/
inductive NamedStep.Extends (start : NamedStep) : NamedStep → Prop
  | start : Extends start start
  | param {s s' : NamedStep} {name : String} {value : ParamValue} (h : Extends start s)
      (hparam : s.param name value = .ok s') : Extends start s'

namespace Predicate

/-- The predicate comes from calls of builders that all succeed, with builders of any roots. A step
    for values, for a phrase or for a range is started with a field, a step for a query string with
    none. -/
inductive Built : Predicate → Prop
  | matchAll : Built Builder.matchAll
  | matchNone : Built Builder.matchNone
  | ids (documents : List String) : Built (Builder.ids documents)
  /-- A leaf of any kind; `hasValue`, `wildcard`, `regexp`, `withinCircle`, `withinPolygon`,
      `withinBoundingBox` and `knn` make such leaves. -/
  | leaf {b : Builder} {fields : List String} {kind : PredicateKind} {p : Predicate}
      (h : b.leaf fields kind = .ok p) : Built p
  | matching {b : Builder} {first : String} {start s : FieldStep} {fuzziness : Nat}
      {value : ParamValue} {p : Predicate} (hstart : (FieldStep.start b).field first = .ok start)
      (hs : start.Extends s) (h : s.matching fuzziness value = .ok p) : Built p
  | phrase {b : Builder} {first : String} {start s : FieldStep} {slop : Nat} {text : String}
      {p : Predicate} (hstart : (FieldStep.start b).field first = .ok start)
      (hs : start.Extends s) (h : s.phrase slop text = .ok p) : Built p
  | simpleQueryString {b : Builder} {s : FieldStep} {operator : BoolOperator} {query : String}
      {p : Predicate} (hs : (FieldStep.start b).Extends s)
      (h : s.simpleQueryString operator query = .ok p) : Built p
  | range {b : Builder} {first : String} {start s : FieldStep} {lower upper : Option RangeBound}
      {p : Predicate} (hstart : (FieldStep.start b).field first = .ok start)
      (hs : start.Extends s) (h : s.range lower upper = .ok p) : Built p
  | named {b : Builder} {name : String} {s : NamedStep} (hs : (NamedStep.start b name).Extends s) :
      Built s.build
  | nested {b : Builder} {path : String} {inner p : Predicate} (hinner : Built inner)
      (h : b.nested path inner = .ok p) : Built p
  | and {clauses : List Predicate} (h : ∀ p ∈ clauses, Built p) : Built (Builder.and clauses)
  | or {clauses : List Predicate} (h : ∀ p ∈ clauses, Built p) : Built (Builder.or clauses)
  | not {inner : Predicate} (hinner : Built inner) : Built (Builder.not inner)
  | constantScore {inner : Predicate} (hinner : Built inner) : Built (Builder.constantScore inner)
  | boost {inner p : Predicate} {boost : Float32} (hinner : Built inner)
      (h : Builder.boost inner boost = .ok p) : Built p

end Predicate

/-! ## What is built keeps the rules -/

theorem Predicate.isWellFormed_leaf_iff {l : Leaf} :
    (Predicate.leaf l).isWellFormed = true ↔ l.check = .ok () := by
  rw [isWellFormed]
  cases l.check <;> simp [Except.isOk, Except.toBool]

theorem Builder.isWellFormed_of_checked {l : Leaf} {p : Predicate} (h : checked l = .ok p) :
    p.isWellFormed = true := by
  unfold checked at h
  split at h
  · rename_i hcheck
    cases h
    exact Predicate.isWellFormed_leaf_iff.mpr hcheck
  · cases h

/-- Options take no field away. -/
theorem FieldStep.Extends.fields_ne_nil {start s : FieldStep} (h : start.Extends s)
    (hstart : start.fields ≠ []) : s.fields ≠ [] := by
  induction h with
  | start => exact hstart
  | field h hfield ih =>
    obtain ⟨p, -, rfl⟩ := map_eq_ok_iff.mp hfield
    simp
  | analyzer h name ih => exact ih
  | skipAnalysis h ih => exact ih

/-- A step that was started with a field has one, which is all that some kinds of leaf need. -/
theorem FieldStep.check_of_start {b : Builder} {first : String} {start s : FieldStep}
    (hstart : (FieldStep.start b).field first = .ok start) (hs : start.Extends s)
    {kind : PredicateKind} (hkind : kind.isMultiField = true)
    (hparameters : kind.checkParameters = .ok ()) : (Leaf.mk s.fields kind).check = .ok () := by
  have hfields : s.fields ≠ [] := by
    refine hs.fields_ne_nil ?_
    obtain ⟨p, -, rfl⟩ := map_eq_ok_iff.mp hstart
    simp
  obtain ⟨f, rest, hcons⟩ := List.exists_cons_of_ne_nil hfields
  rw [hcons, Placement.check_of_isMultiField hkind, hparameters]

theorem Predicate.areWellFormed_iff {ps : List Predicate} :
    areWellFormed ps = true ↔ ∀ p ∈ ps, p.isWellFormed = true := by
  induction ps with
  | nil => simp [areWellFormed]
  | cons p ps ih => simp [areWellFormed, ih]

/-- **What is built keeps the rules**, checked or not. -/
theorem Predicate.Built.isWellFormed {p : Predicate} (h : p.Built) : p.isWellFormed = true := by
  induction h with
  | matchAll | matchNone | ids | named => rfl
  | leaf h =>
    obtain ⟨paths, -, h⟩ := bind_eq_ok_iff.mp h
    exact Builder.isWellFormed_of_checked h
  | simpleQueryString hs h => exact Builder.isWellFormed_of_checked h
  | range hstart hs h => exact Builder.isWellFormed_of_checked h
  | matching hstart hs h =>
    cases h
    exact isWellFormed_leaf_iff.mpr (FieldStep.check_of_start hstart hs rfl rfl)
  | phrase hstart hs h =>
    cases h
    exact isWellFormed_leaf_iff.mpr (FieldStep.check_of_start hstart hs rfl rfl)
  | nested hinner h ih =>
    obtain ⟨q, -, rfl⟩ := map_eq_ok_iff.mp h
    exact ih
  | and h ih | or h ih => exact areWellFormed_iff.mpr ih
  | not hinner ih | constantScore hinner ih => exact ih
  | boost hinner h ih =>
    unfold Builder.boost at h
    split at h
    · rename_i hboost
      cases h
      exact Bool.and_eq_true_iff.mpr ⟨isBoost_of_checkBoost hboost, ih⟩
    · cases h

/-! ## Placing what was built -/

/-- What the provider makes was built, and its builder's calls succeed: it may refuse an invocation,
    but not because it broke a rule. -/
def Provider.Builds (provider : Provider) : Prop :=
  ∀ invocation, match provider.provide invocation with
    | .ok p => p.Built
    | .error e => ∀ fault, e ≠ .invalidPredicate fault

/-- All providers of the scope build what they make. -/
def SearchScope.Builds (s : SearchScope) : Prop :=
  ∀ i ∈ s.indexes, ∀ r ∈ i.named.registrations, r.provider.Builds

namespace Placement

variable {scope : SearchScope} {config : CompilerConfig} {fault : PredicateFault}

theorem isWellFormed_of_answers (hscope : scope.Builds) {p : Predicate}
    (h : Answers scope (.ok p)) : p.isWellFormed = true := by
  obtain ⟨i, hi, r, hr, invocation, h⟩ := h
  have hbuilds := hscope i hi r hr invocation
  rw [h] at hbuilds
  exact hbuilds.isWellFormed

theorem ne_invalidPredicate_of_answers (hscope : scope.Builds) {e : QueryError}
    (h : Answers scope (.error e)) : e ≠ .invalidPredicate fault := by
  obtain ⟨i, hi, r, hr, invocation, h⟩ := h
  have hbuilds := hscope i hi r hr invocation
  rw [h] at hbuilds
  exact hbuilds fault

/-- Placing a well-formed predicate asks for placing well-formed ones. -/
theorem Leads.isWellFormed (hscope : scope.Builds) {s s' : Site} (h : Leads scope s s')
    (hs : s.predicate.isWellFormed = true) : s'.predicate.isWellFormed = true := by
  cases h with
  | clause hp => exact Predicate.areWellFormed_iff.mp hs _ hp
  | not | nested | constantScore => exact hs
  | named hfull htarget hprovider hproduced =>
    exact isWellFormed_of_answers hscope (hproduced ▸ answers_of_lookup hprovider _)
  | boosted hboost => exact (Bool.and_eq_true_iff.mp hs).2

theorem isWellFormed_of_leads (hscope : scope.Builds) {s s' : Site}
    (h : ReflTransGen (Leads scope) s s') (hs : s.predicate.isWellFormed = true) :
    s'.predicate.isWellFormed = true := by
  induction h with
  | refl => exact hs
  | tail _ hstep ih => exact hstep.isWellFormed hscope ih

/-- What is wrong with a path is no fault of the predicate. -/
theorem PathError.ne_invalidPredicate {e : QueryError} (h : PathError scope e) :
    e ≠ .invalidPredicate fault := by
  rintro rfl
  cases h with
  | resolve h =>
    obtain ⟨-, cause, hcause, -⟩ | ⟨-, report, hreport, -⟩ := SearchScope.resolve_error h
    · cases hcause
    · cases hreport

/-- A well-formed predicate does not fail for a rule. -/
theorem ne_invalidPredicate_of_fails (hscope : scope.Builds) {s : Site} {e : QueryError}
    (h : s.Fails scope config e) (hs : s.predicate.isWellFormed = true) :
    e ≠ .invalidPredicate fault := by
  rintro rfl
  cases h with
  | leaf h =>
    obtain ⟨fault', hcheck, -⟩ | h := settle_error h
    · cases hcheck.symm.trans (Predicate.isWellFormed_leaf_iff.mp hs)
    · exact h.ne_invalidPredicate rfl
  | nested h => exact (enter_error h).ne_invalidPredicate rfl
  | named h =>
    obtain ⟨cause, hcause⟩ | h | ⟨node, name, full, h⟩ | h := invoke_error h
    · cases hcause
    · exact h.ne_invalidPredicate rfl
    · obtain ⟨-, index, hunknown⟩ | ⟨-, report, hconflict⟩ := lookup_error h
      · cases hunknown
      · cases hconflict
    · exact ne_invalidPredicate_of_answers hscope h rfl
  | boosted h =>
    unfold checkBoost at h
    rw [if_pos (Bool.and_eq_true_iff.mp hs).1] at h
    cases h

end Placement

theorem place_ne_invalidPredicate {scope : SearchScope} {config : CompilerConfig} {p : Predicate}
    {fault : PredicateFault} (hscope : scope.Builds) (hp : p.isWellFormed = true) :
    place scope config p ≠ .error (.invalidPredicate fault) := by
  intro h
  obtain ⟨s, hs, hfails⟩ := Placement.exists_failure h 0
  exact Placement.ne_invalidPredicate_of_fails hscope hfails
    (Placement.isWellFormed_of_leads hscope hs hp) rfl

/-- **A query that was built does not fail for a rule** of leaves and boosts, in any scope whose
    providers build theirs, and under any configuration. -/
theorem compile_built {scope : SearchScope} {p : Predicate} (hp : p.Built) (hscope : scope.Builds)
    (config : CompilerConfig) (fault : PredicateFault) :
    compile scope config p ≠ .error (.invalidPredicate fault) := by
  intro h
  cases hplace : place scope config p with
  | error e =>
    rw [compile_eq, hplace] at h
    cases h
    exact place_ne_invalidPredicate hscope hp.isWellFormed hplace
  | ok r =>
    -- Once it is placed, nothing but a conflict between indexes is left to fail for.
    obtain ⟨q, hq, -⟩ | ⟨report, hreport, -⟩ := compile_of_placed hplace fun _ _ _ _ => trivial
    · cases hq.symm.trans h
    · cases hreport.symm.trans h

namespace Sample

theorem labelled_builds : labelled.Builds := by
  intro invocation
  have hleaf : Builder.top.leaf ["tag.label"] .exists =
      .ok (.leaf ⟨[⟨tag, [label]⟩], .exists⟩) := rfl
  exact .leaf hleaf

theorem scope_builds : scope.Builds := by
  have honly : ∀ i ∈ scope.indexes, ∀ a ∈ i.named.registrations, a.provider = labelled := by
    simp [scope, TargetIndex.ofSchema, Registry.empty]
  intro i hi a ha
  rw [honly i hi a ha]
  exact labelled_builds

/-- A name, and beside it a value that is not checked when it is built. -/
def built : Predicate :=
  Builder.or [(NamedStep.start .top "orders.lines.note.labelled").build,
    .leaf ⟨[⟨orders, [lines, sku]⟩], .matching (.string "a") .skip 0⟩]

theorem built_built : built.Built := by
  have hstart : (FieldStep.start .top).field "orders.lines.sku" =
      .ok ⟨.top, [⟨orders, [lines, sku]⟩], .none⟩ := rfl
  refine .or fun p hp => ?_
  rcases List.mem_pair.mp hp with rfl | rfl
  · exact .named .start
  · exact .matching hstart (.skipAnalysis .start) rfl

end Sample

/-- `compile_built` for a query with a name, and what it says nothing of: the same leaf without
    fields, which no builder makes. -/
theorem compile_built_sample :
    (∀ fault, compile Sample.scope .default Sample.built ≠ .error (.invalidPredicate fault)) ∧
    compile Sample.scope .default (.leaf ⟨[], .matching (.string "a") .skip 0⟩) =
      .error (.invalidPredicate (.needsField "predicate:match")) :=
  ⟨compile_built Sample.built_built Sample.scope_builds .default, rfl⟩

end NestedSearch
