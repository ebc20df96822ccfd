import NestedSearch.Proofs.Chain
import NestedSearch.Proofs.Placement.Conflict
import NestedSearch.Proofs.Reports

/-!
# What a report shows

A report names two indexes and shows what the field is in either of them. The two indexes are always
different ones of the scope. What is shown differs as well, with one exception (`reports_differ`):
analyzers are compared as they are declared, and the absence of an analyzer is shown as the name of
one could be.

Reports are made where a path is resolved, where a name is looked up and where fields are compared,
and for each of these there is a lemma. Whatever is shown of kinds, storages and providers differs
by its wording; chains need `describe_chainTo_inj`; and attributes of value fields are compared by
what is shown of them, all but the analyzers.
-/

namespace NestedSearch

theorem NodeKind.describe_ne {a b : NodeKind} (h : a ≠ b) : a.describe ≠ b.describe := by
  revert h
  cases a <;> cases b <;> decide

theorem Storage.name_ne {a b : Storage} (h : a ≠ b) : a.name ≠ b.name := by
  revert h
  cases a <;> cases b <;> decide

/-- Whether the attribute is an analyzer for texts. -/
def Attribute.isAnalyzer : Attribute → Bool
  | .analyzer | .searchAnalyzer => true
  | _ => false

namespace Compatibility

variable {request : CompatibilityRequest} {f g : ValueField} {d : Difference}

/-- Query text goes through an analyzer for one of the fields only, which is named as the absence of
    an analyzer is shown. -/
def Masked (f g : ValueField) : Prop :=
  (f.effectiveSearchAnalyzer = none ∧ g.effectiveSearchAnalyzer = some absent) ∨
    (f.effectiveSearchAnalyzer = some absent ∧ g.effectiveSearchAnalyzer = none)

/-- Analyzers that differ are shown differently, unless one of them is masked. -/
theorem left_ne_right_iff_of_analysisConflict? (h : analysisConflict? request f g = some d) :
    d.attr.isAnalyzer = true ∧ (d.left ≠ d.right ↔ ¬Masked f g) := by
  unfold analysisConflict? at h
  split at h
  · cases h
  · split at h
    · cases h
    · rename_i hdiffer
      cases h
      refine ⟨?_, not_congr ?_⟩
      · dsimp only
        split <;> rfl
      · rw [shown_eq_iff, or_iff_right hdiffer]
        rfl

theorem left_ne_right_of_valueDifferences (h : d ∈ valueDifferences f g) : d.left ≠ d.right := by
  rw [valueDifferences_eq] at h
  simpa using (List.mem_filter.mp h).2

/-- Analyzers are compared on their own. -/
theorem isAnalyzer_of_relevant {a : Attribute} (h : a ∈ relevant request) :
    a.isAnalyzer = false := by
  unfold relevant at h
  cases a <;> first | rfl | (cases husage : request.usage <;>
    cases hbypass : request.analysis.bypasses <;> simp [husage, hbypass] at h)

end Compatibility

open Compatibility

/-! ## Differences between resolutions -/

namespace SearchScope

variable {s : SearchScope} {p : FieldPath} {report : ConflictReport}

/-- **What a query cannot bridge is shown differently** in the two indexes. -/
theorem left_ne_right_of_difference? {l r : Resolution} (hl : l ∈ s.resolutions p)
    (hr : r ∈ s.resolutions p) {attr : Attribute} {left right : String}
    (h : difference? l r = some (attr, left, right)) :
    left ≠ right ∧ attr.isAnalyzer = false := by
  obtain ⟨i, -, ln, -, rfl⟩ := mem_resolutions_iff.mp hl
  obtain ⟨j, -, rn, -, rfl⟩ := mem_resolutions_iff.mp hr
  have hchains : difference?.chains ⟨i.schema.index, p, i.schema.chainTo p, ln⟩
      ⟨j.schema.index, p, j.schema.chainTo p, rn⟩ = some (attr, left, right) →
        left ≠ right ∧ attr.isAnalyzer = false := by
    intro h
    unfold difference?.chains at h
    split at h
    · cases h
    · rename_i hne
      cases h
      exact ⟨mt Definition.describe_chainTo_inj.mp hne, rfl⟩
  unfold difference? at h
  split at h
  · rename_i hkind
    cases h
    exact ⟨NodeKind.describe_ne hkind, rfl⟩
  · split at h
    · split at h
      · rename_i hstorage
        cases h
        exact ⟨Storage.name_ne hstorage, rfl⟩
      · exact hchains h
    · exact hchains h

/-! ## Reports -/

/-- The report is about analyzers of which one is masked. -/
def Masks (s : SearchScope) (report : ConflictReport) : Prop :=
  report.attr.isAnalyzer = true ∧
    ∃ i ∈ s.indexes, ∃ j ∈ s.indexes, i.name = report.leftIndex ∧ j.name = report.rightIndex ∧
      ∃ f g, i.schema.node? report.field = some (.value f) ∧
        j.schema.node? report.field = some (.value g) ∧ Masked f g

/-- The report names two indexes of the scope, and shows a difference between them unless it is
    masked. -/
structure Explains (s : SearchScope) (report : ConflictReport) : Prop where
  left_mem : report.leftIndex ∈ s.indexNames
  right_mem : report.rightIndex ∈ s.indexNames
  index_ne : report.leftIndex ≠ report.rightIndex
  value_ne_iff : report.left ≠ report.right ↔ ¬s.Masks report

/-- A provider of the scope answers with the report: it was made by whoever wrote the provider. -/
def Relays (s : SearchScope) (report : ConflictReport) : Prop :=
  ∃ i ∈ s.indexes, ∃ r ∈ i.named.registrations, ∃ invocation,
    r.provider.provide invocation = .error (.conflict report)

theorem index_mem_of_resolutions {r : Resolution} (h : r ∈ s.resolutions p) :
    r.index ∈ s.indexNames := by
  obtain ⟨i, hi, node, -, rfl⟩ := mem_resolutions_iff.mp h
  exact mem_indexNames_iff.mpr ⟨i, hi, rfl⟩

/-- What is not about analyzers only has to show a difference. -/
theorem Explains.of_ne (hleft : report.leftIndex ∈ s.indexNames)
    (hright : report.rightIndex ∈ s.indexNames) (hindex : report.leftIndex ≠ report.rightIndex)
    (hvalue : report.left ≠ report.right) (hattr : report.attr.isAnalyzer = false) :
    s.Explains report := by
  refine ⟨hleft, hright, hindex, iff_of_true hvalue ?_⟩
  rintro ⟨hanalyzer, -⟩
  rw [hattr] at hanalyzer
  cases hanalyzer

theorem Clash.explains {usage : Usage} (h : s.Clash p usage report) : s.Explains report := by
  cases h with
  | @blocked first j e hfirst hj he =>
    refine .of_ne (index_mem_of_resolutions hfirst) (mem_indexNames_iff.mpr ⟨j, hj, rfl⟩) ?_
      (NodeKind.describe_ne (a := .object) (b := .value) (by decide)) rfl
    -- One and the same index does not both have the field and fail to have it.
    intro hname
    obtain ⟨i, hi, node, hnode, rfl⟩ := mem_resolutions_iff.mp hfirst
    cases eq_of_name_eq hi hj hname
    cases (Definition.resolve_eq_ok_iff.mpr ⟨node, hnode, rfl⟩).symm.trans he
  | @differing first other others attr left right hfound hother hdifference =>
    obtain ⟨hfirst, hmem, hindex⟩ := pair_of_resolutions hfound hother
    obtain ⟨hvalue, hattr⟩ := left_ne_right_of_difference? hfirst hmem hdifference
    exact .of_ne (index_mem_of_resolutions hfirst) (index_mem_of_resolutions hmem) hindex hvalue
      hattr

theorem explains_of_resolve {usage : Usage}
    (h : s.resolve none p usage = .error (.conflict report)) : s.Explains report := by
  obtain ⟨-, cause, herror, -⟩ | ⟨-, report', herror, hclash⟩ := resolve_error h
  · cases herror
  · cases herror
    exact hclash.explains

theorem explains_of_lookup {node : Option FieldPath} {name : String} {full : FieldPath}
    (h : Placement.lookup s node name full = .error (.conflict report)) : s.Explains report := by
  obtain ⟨x, hx, y, hy, text, rfl, hindex, htext⟩ := Placement.lookup_conflict h
  obtain ⟨i, hi, -, rfl⟩ := Placement.mem_candidates_iff.mp hx
  obtain ⟨j, hj, -, rfl⟩ := Placement.mem_candidates_iff.mp hy
  exact .of_ne (mem_indexNames_iff.mpr ⟨i, hi, rfl⟩) (mem_indexNames_iff.mpr ⟨j, hj, rfl⟩) hindex
    htext.symm rfl

/-- In a comparison only analyzers may be shown alike. -/
theorem explains_of_comparison {usage : Usage} {r : ScopedResolution}
    (h : s.resolve none p usage = .ok r) {request : CompatibilityRequest}
    (hreport : checkCompatibility p request s.schemas = .ok (.conflicting report)) :
    s.Explains report := by
  obtain ⟨first, other, others, d, hfound, hother, -, hsame, herror, rfl⟩ :=
    pair_of_conflict h hreport
  obtain ⟨hfirst, hmem, hindex⟩ := pair_of_resolutions hfound hother
  have hleft := index_mem_of_resolutions hfirst
  have hright := index_mem_of_resolutions hmem
  obtain ⟨f, g, hf, hg, hconflict | ⟨hdiffers, hrelevant⟩⟩ := values_of_compare_error herror hsame
  · obtain ⟨hattr, hvalue⟩ := left_ne_right_iff_of_analysisConflict? hconflict
    refine ⟨hleft, hright, hindex, hvalue.trans (not_congr ?_)⟩
    obtain ⟨i, hi, ln, hln, rfl⟩ := mem_resolutions_iff.mp hfirst
    obtain ⟨j, hj, rn, hrn, rfl⟩ := mem_resolutions_iff.mp hmem
    cases hf
    cases hg
    constructor
    · intro hmasked
      exact ⟨hattr, i, hi, j, hj, rfl, rfl, f, g, hln, hrn, hmasked⟩
    · rintro ⟨-, i', hi', j', hj', hiname, hjname, f', g', hf', hg', hmasked⟩
      cases eq_of_name_eq hi' hi hiname
      cases eq_of_name_eq hj' hj hjname
      cases hf'.symm.trans hln
      cases hg'.symm.trans hrn
      exact hmasked
  · exact .of_ne hleft hright hindex (left_ne_right_of_valueDifferences hdiffers)
      (isAnalyzer_of_relevant hrelevant)

end SearchScope

/-- **A report shows a difference between two indexes of the scope**, whether it fails the query or
    is recorded beside it; only an analyzer that is named as the absence of one is shown may look as
    if there were none. Reports that providers give for an answer are not made here. -/
theorem reports_differ (scope : SearchScope) (config : CompilerConfig) (p : Predicate) :
    (∀ q, compile scope config p = .ok q → ∀ d ∈ q.diagnostics, scope.Explains d.report) ∧
      ∀ report, compile scope config p = .error (.conflict report) →
        scope.Explains report ∨ scope.Relays report := by
  cases hplace : place scope config p with
  | error e =>
    have hcompile : compile scope config p = .error e := by
      rw [compile_eq, hplace]
      rfl
    constructor
    · intro q hq
      cases hcompile.symm.trans hq
    · intro report hreport
      cases hcompile.symm.trans hreport
      cases blames_of_place hplace with
      | path hresolve => exact .inl (SearchScope.explains_of_resolve hresolve)
      | name hlookup => exact .inl (SearchScope.explains_of_lookup hlookup)
      | provider hi hr hprovide => exact .inr ⟨_, hi, _, hr, _, hprovide⟩
  | ok r =>
    have hconflicts : ∀ c ∈ r.checks, ∀ report, c.conflict? scope.schemas = some report →
        scope.Explains report := by
      intro c hc report hreport
      obtain ⟨resolution, hresolve⟩ := (derivation_of_place hplace).resolve_checks c hc
      exact SearchScope.explains_of_comparison hresolve (FieldCheck.conflict?_eq_some_iff.mp hreport)
    obtain ⟨q, hq, hexplains⟩ | ⟨report, hreport, hexplains⟩ := compile_of_placed hplace hconflicts
    · constructor
      · intro q' hq'
        cases hq.symm.trans hq'
        exact hexplains
      · intro report hreport
        cases hq.symm.trans hreport
    · constructor
      · intro q hq
        cases hreport.symm.trans hq
      · intro report' hreport'
        cases hreport.symm.trans hreport'
        exact .inl hexplains

namespace Sample

/-- An index whose colors are taken apart by an analyzer with an unlucky name. -/
def misnamed : Schema where
  index := "a"
  fields := [("color", .value (.text "<none>"))]
  valid := by decide +kernel

/-- The index with the misnamed analyzer, and one without an analyzer. -/
def masked : SearchScope where
  indexes := [.ofSchema misnamed, .ofSchema plain]
  nonempty := by simp
  distinct := by decide +kernel

def colorIsBlue : Predicate := .leaf ⟨[⟨color, []⟩], .matching (.string "blue") .none 0⟩

end Sample

/-- What `reports_differ` says can be met by a query that compiles and by one that does not, and so
    can its exception: two indexes are reported to differ, and the same text is shown for both. -/
theorem reports_differ_sample :
    (∃ q d, compile Sample.colors .default Sample.colored = .ok q ∧ d ∈ q.diagnostics ∧
      d.report.left ≠ d.report.right ∧ Sample.colors.Explains d.report) ∧
    ∃ report, compile Sample.masked .default Sample.colorIsBlue = .error (.conflict report) ∧
      report.left = "<none>" ∧ report.right = "<none>" ∧ Sample.masked.Explains report ∧
        Sample.masked.Masks report := by
  constructor
  · have hshown : (compile Sample.colors .default Sample.colored).toOption.map (fun q =>
        q.diagnostics.map fun d => (d.report.left, d.report.right)) =
          some [("String", "Integer")] := by decide +kernel
    obtain ⟨q, hq, hdiagnostics⟩ := Option.map_eq_some_iff.mp hshown
    obtain ⟨d, hd, hvalues⟩ := List.map_eq_singleton_iff.mp hdiagnostics
    obtain ⟨hleft, hright⟩ := Prod.mk.inj hvalues
    have hcompile := toOption_eq_some_iff.mp hq
    have hmem : d ∈ q.diagnostics := hd ▸ List.mem_singleton_self d
    refine ⟨q, d, hcompile, hmem, by rw [hleft, hright]; decide, ?_⟩
    exact (reports_differ Sample.colors .default Sample.colored).1 q hcompile d hmem
  · have hshown : (match compile Sample.masked .default Sample.colorIsBlue with
        | .error e => e.conflict?.map fun report => (report.left, report.right)
        | .ok _ => none) = some ("<none>", "<none>") := by decide +kernel
    cases hcompile : compile Sample.masked .default Sample.colorIsBlue with
    | ok q =>
      rw [hcompile] at hshown
      cases hshown
    | error e =>
      rw [hcompile] at hshown
      obtain ⟨report, hreport, hvalues⟩ := Option.map_eq_some_iff.mp hshown
      cases e with
      | conflict found =>
        cases hreport
        obtain ⟨hleft, hright⟩ := Prod.mk.inj hvalues
        obtain hexplains | ⟨i, hi, r, hr, -⟩ :=
          (reports_differ Sample.masked .default Sample.colorIsBlue).2 report hcompile
        · refine ⟨report, rfl, hleft, hright, hexplains, ?_⟩
          exact not_not.mp (mt hexplains.value_ne_iff.mpr (by rw [hleft, hright]; simp))
        · simp only [Sample.masked, List.mem_cons, List.not_mem_nil, or_false] at hi
          rcases hi with rfl | rfl <;> cases hr
      | _ => cases hreport

end NestedSearch
