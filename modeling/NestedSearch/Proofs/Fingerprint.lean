import NestedSearch.Proofs.Compatibility
import NestedSearch.Proofs.Scope

/-!
# Comparing is comparing fingerprints

The comparison across indexes compares every index with the first one only, and stops at the first
difference. That this does not depend on which index comes first is because two resolutions pass
exactly if they have the same fingerprint (`compare_eq_ok_iff`): what the usage depends on, as it is
shown. So a field of a scope is in conflict exactly if two of its resolutions differ in it.
-/

namespace NestedSearch
namespace Compatibility

variable {request : CompatibilityRequest}

/-! ## Fingerprints -/

/-- An attribute of a value field as it is shown. -/
def shownAs (f : ValueField) : Attribute → String
  | .fieldType => f.type.describe
  | .analyzer => shown f.analyzer
  | .searchAnalyzer => shown f.searchAnalyzer
  | .normalizer => shown f.normalizer
  | .existsStrategy => f.effectiveExistsStrategy.describe
  | .sortable => shownFlag f.sortable
  | .projectable => shownFlag f.projectable
  | .aggregable => shownFlag f.aggregable
  | .multiValued => shownFlag f.multiValued
  | .nodeKind | .storage | .nestedPathHierarchy | .namedPredicate => ""

/-- The attributes that value fields are compared by. -/
def compared : List Attribute :=
  [.fieldType, .analyzer, .searchAnalyzer, .normalizer, .existsStrategy, .sortable, .projectable,
    .aggregable, .multiValued]

/-- The analyzer that a usage depends on, unless it depends on none. -/
def analyzerPrint (request : CompatibilityRequest) (f : ValueField) : Option (Option String) :=
  if !request.usage.isTextual || request.analysis.bypasses then none
  else some f.effectiveSearchAnalyzer

/-- What a usage depends on in a node. -/
inductive NodePrint where
  | value (analyzer : Option (Option String)) (attributes : List String)
  | object (storage : Storage)

/-- What a usage depends on where a path leads. -/
structure Fingerprint where
  chain : NestingChain
  node : NodePrint

def nodePrint (request : CompatibilityRequest) : Node → NodePrint
  | .value f => .value (analyzerPrint request f) ((relevant request).map (shownAs f))
  | .object storage _ _ => .object storage

def fingerprint (request : CompatibilityRequest) (r : Resolution) : Fingerprint :=
  ⟨r.chain, nodePrint request r.node⟩

/-! ## Two resolutions -/

theorem valueDifferences_eq (f g : ValueField) :
    valueDifferences f g =
      (compared.map fun a => ⟨a, shownAs f a, shownAs g a⟩).filter fun d => d.left ≠ d.right := rfl

/-- Every attribute that a usage of a value depends on is one that is compared. -/
theorem relevant_subset (request : CompatibilityRequest) : relevant request ⊆ compared := by
  unfold relevant
  cases request.usage <;> cases request.analysis.bypasses <;> simp [compared]

/-- No relevant attribute differs: all of them are shown alike. -/
theorem valueDifferences_irrelevant_iff {f g : ValueField} :
    (∀ d ∈ valueDifferences f g, (relevant request).contains d.attr = false) ↔
      (relevant request).map (shownAs f) = (relevant request).map (shownAs g) := by
  rw [List.map_inj_left, valueDifferences_eq]
  constructor
  · intro h a ha
    by_contra hne
    have hmem : (⟨a, shownAs f a, shownAs g a⟩ : Difference) ∈
        (compared.map fun a => (⟨a, shownAs f a, shownAs g a⟩ : Difference)).filter
          fun d => d.left ≠ d.right :=
      List.mem_filter.mpr ⟨List.mem_map.mpr ⟨a, relevant_subset request ha, rfl⟩, by simpa using hne⟩
    have hnot := h _ hmem
    simp [ha] at hnot
  · intro h d hd
    obtain ⟨hmap, hne⟩ := List.mem_filter.mp hd
    obtain ⟨a, -, rfl⟩ := List.mem_map.mp hmap
    by_contra hrelevant
    simp [h a (by simpa using hrelevant)] at hne

/-- Nothing that is compared is the chain itself. -/
theorem attr_ne_of_mem_valueDifferences {f g : ValueField} {d : Difference}
    (h : d ∈ valueDifferences f g) : d.attr ≠ .nestedPathHierarchy := by
  rw [valueDifferences_eq] at h
  obtain ⟨a, ha, rfl⟩ := List.mem_map.mp (List.mem_filter.mp h).1
  rintro rfl
  simp [compared] at ha

theorem analysisConflict?_eq_none_iff_print {f g : ValueField} :
    analysisConflict? request f g = none ↔ analyzerPrint request f = analyzerPrint request g := by
  unfold analysisConflict? analyzerPrint
  split
  · simp
  · split <;> simp_all

/-- A difference of the chains matters, so there is none. -/
theorem hierarchy_irrelevant_iff (matters : Attribute → Bool) {l r : Resolution}
    (hmatters : matters .nestedPathHierarchy = true) :
    (∀ d ∈ if l.chain = r.chain then []
        else [(⟨.nestedPathHierarchy, l.chain.describe, r.chain.describe⟩ : Difference)],
      matters d.attr = false) ↔ l.chain = r.chain := by
  split
  · simpa
  · simpa [hmatters]

/-- **Two resolutions pass exactly if the usage cannot tell them apart.** -/
theorem compare_eq_ok_iff {l r : Resolution} :
    (∃ ignored, compare request l r = .ok ignored) ↔
      fingerprint request l = fingerprint request r := by
  unfold fingerprint
  rw [Fingerprint.mk.injEq]
  unfold compare
  cases hl : l.node with
  | value lf =>
    cases hr : r.node with
    | object rs rm rcs => simp [nodePrint]
    | value rf =>
      simp only [nodePrint, NodePrint.value.injEq, ← analysisConflict?_eq_none_iff_print,
        ← valueDifferences_irrelevant_iff]
      cases hconflict : analysisConflict? request lf rf with
      | some d => simp
      | none =>
        simp only [settle_eq_ok_iff, List.forall_mem_append, true_and]
        refine and_congr (hierarchy_irrelevant_iff
          (fun a => a = .nestedPathHierarchy || (relevant request).contains a) (by simp))
          (forall₂_congr fun d hd => ?_)
        simp [attr_ne_of_mem_valueDifferences hd]
  | object ls lm lcs =>
    cases hr : r.node with
    | value rf => simp [nodePrint]
    | object rs rm rcs =>
      by_cases hstorage : ls = rs
      · simp only [hstorage, ne_eq, not_true_eq_false, if_false, settle_eq_ok_iff,
          List.forall_mem_append, nodePrint, and_true]
        rw [hierarchy_irrelevant_iff (fun a => a = .nestedPathHierarchy) (by simp)]
        refine and_iff_left ?_
        split <;> simp
      · simp [nodePrint, hstorage]

/-! ## All resolutions -/

/-- What takes part, where no index has a value on the way. -/
theorem presences_eq {path : FieldPath} {s : SearchScope}
    (h : ∀ i ∈ s.indexes, ∀ e, i.schema.resolve path = .error e → e.isUnknownField = true) :
    (presences path s.schemas).1 = (s.resolutions path).map .found := by
  unfold SearchScope.schemas SearchScope.resolutions
  generalize s.indexes = indexes at h
  induction indexes with
  | nil => rfl
  | cons i rest ih =>
    have ih := ih fun j hj => h j (List.mem_cons_of_mem i hj)
    rw [List.map_cons, presences]
    cases hr : i.schema.resolve path with
    | ok r => simp [hr, Except.toOption, ih]
    | error e => simp [hr, h i List.mem_cons_self e hr, Except.toOption, ih]

theorem compareAll_eq_ok_iff (path : FieldPath) {baseline : Resolution}
    {others : List Resolution} :
    (∃ ignored, compareAll path request (.found baseline) (others.map .found) = .ok ignored) ↔
      ∀ other ∈ others, fingerprint request baseline = fingerprint request other := by
  induction others with
  | nil => simp [compareAll]
  | cons other others ih =>
    rw [List.forall_mem_cons, ← ih, ← compare_eq_ok_iff, List.map_cons, compareAll,
      comparePresences]
    cases compare request baseline other with
    | error d => simp
    | ok ignored =>
      cases compareAll path request (.found baseline) (others.map .found) <;> simp [Except.map]

end Compatibility

/-- No two indexes of a scope that have the field differ in what a usage depends on. -/
def SearchScope.Uniform (s : SearchScope) (path : FieldPath) (request : CompatibilityRequest) :
    Prop :=
  ∀ l ∈ s.resolutions path, ∀ r ∈ s.resolutions path,
    Compatibility.fingerprint request l = Compatibility.fingerprint request r

open Compatibility in
/-- **Where a path resolves in a scope there is a verdict on it**, and it is a conflict unless the
    usage cannot tell the indexes apart. -/
theorem exists_verdict_of_resolve_scope {s : SearchScope} {path : FieldPath} {usage : Usage}
    {r : ScopedResolution} (h : s.resolve none path usage = .ok r)
    (request : CompatibilityRequest) :
    ∃ v, checkCompatibility path request s.schemas = .ok v ∧
      (v.isConflicting = false ↔ s.Uniform path request) := by
  obtain ⟨first, others, hres, hunblocked, -⟩ := SearchScope.resolve_eq_ok_iff.mp h
  have hpresent : (presences path s.schemas).1 = .found first :: others.map .found := by
    rw [presences_eq hunblocked, hres, List.map_cons]
  have huniform : s.Uniform path request ↔
      ∀ other ∈ others, fingerprint request first = fingerprint request other := by
    unfold SearchScope.Uniform
    rw [hres]
    constructor
    · intro hall other hother
      exact hall first List.mem_cons_self other (List.mem_cons_of_mem first hother)
    · intro hall
      have hfirst : ∀ r ∈ first :: others, fingerprint request first = fingerprint request r :=
        List.forall_mem_cons.mpr ⟨rfl, hall⟩
      exact fun l hl r hr => (hfirst l hl).symm.trans (hfirst r hr)
  rw [huniform, ← compareAll_eq_ok_iff path]
  exact exists_verdict_of_found hpresent

end NestedSearch
