import Mathlib.Data.Set.List
import NestedSearch.Proofs.Compile
import NestedSearch.Proofs.Placement.Reach
import NestedSearch.Proofs.Presence

/-!
# What is left to report

A path is looked at in all indexes of a scope twice: when it is resolved, and when its configuration
is compared. Both sort the indexes into those that have the field, those that lack it and those with
a value on the way, each in its own order and with its own errors. They come to the same. A path
resolves exactly if the indexes could share a nested scope there (`resolves_iff_compatible`), and
once it resolves the comparison always has a verdict, and a conflict can only be about something
that value fields declare (`conflict_of_resolve`).

So a query that has been placed is compared without an error, and what is reported about it are
differences between value fields (`reports_of_placed`).
-/

namespace NestedSearch
namespace Compatibility

variable {request : CompatibilityRequest} {path : FieldPath}

/-! ## Resolutions that take part -/

/-- All that take part have the field exactly if no index has a value on the way, and then they are
    the indexes in which the path resolves. -/
theorem presences_eq_found_iff {s : SearchScope} {found : List Resolution} :
    (presences path s.schemas).1 = found.map .found ↔
      s.resolutions path = found ∧
        ∀ i ∈ s.indexes, ∀ e, i.schema.resolve path = .error e → e.isUnknownField = true := by
  constructor
  · intro h
    have hunblocked : ∀ i ∈ s.indexes, ∀ e,
        i.schema.resolve path = .error e → e.isUnknownField = true := by
      intro i hi e he
      by_contra hknown
      have hblocked : Presence.blocked i.schema.index e ∈ (presences path s.schemas).1 := by
        rw [presences_fst, List.mem_filterMap]
        exact ⟨_, List.mem_map_of_mem hi, by simp [presence?, he, hknown]⟩
      rw [h] at hblocked
      obtain ⟨r, -, hr⟩ := List.mem_map.mp hblocked
      cases hr
    rw [presences_eq hunblocked] at h
    exact ⟨List.map_injective_iff.mpr (fun _ _ => Presence.found.inj) h, hunblocked⟩
  · rintro ⟨rfl, hunblocked⟩
    exact presences_eq hunblocked

/-! ## Verdicts without a conflict -/

/-- **When indexes are compatible**: those that take part have the field, there is one, and the
    usage cannot tell any of them from the first. -/
theorem compatible_iff {schemas : List Definition} :
    (∃ v, checkCompatibility path request schemas = .ok v ∧ v.isConflicting = false) ↔
      ∃ (first : Resolution) (others : List Resolution),
        (presences path schemas).1 = .found first :: others.map .found ∧
          ∀ other ∈ others, fingerprint request first = fingerprint request other := by
  constructor
  · rintro ⟨v, hv, hcompatible⟩
    rcases checkCompatibility_cases path request schemas with ⟨-, e, he⟩ |
      ⟨⟨d, hd, hfield⟩, hprints, -⟩ | ⟨_, _, _, _, _, -, -, -, hok⟩
    · cases hv.symm.trans he
    · obtain ⟨r, hr⟩ := has_iff_presence?.mp hfield
      have hmem : Presence.found r ∈ (presences path schemas).1 := mem_presences_iff.mpr ⟨d, hd, hr⟩
      -- Whoever agrees with an index that has the field has it as well.
      have hall : (presences path schemas).1 ∈ Set.range (List.map Presence.found) := by
        rw [Set.range_list_map]
        intro p hp
        have hprint := hprints _ hmem p hp
        cases p with
        | found r' => exact ⟨r', rfl⟩
        | blocked index e => cases hprint
      obtain ⟨found, hfound⟩ := hall
      cases found with
      | nil =>
        rw [← hfound] at hmem
        cases hmem
      | cons first others =>
        refine ⟨first, others, hfound.symm, ?_⟩
        intro other hother
        rw [← hfound] at hprints
        exact Option.some.inj (hprints _ List.mem_cons_self _
          (List.mem_cons_of_mem _ (List.mem_map_of_mem hother)))
    · cases hv.symm.trans hok
      cases hcompatible
  · rintro ⟨first, others, hpresent, hsame⟩
    obtain ⟨v, hv, hverdict⟩ : ∃ v, checkCompatibility path request schemas = .ok v ∧ _ :=
      exists_verdict_of_found hpresent
    exact ⟨v, hv, hverdict.mpr ((compareAll_eq_ok_iff path).mpr hsame)⟩

/-! ## Resolutions that a query can bridge -/

/-- A nested scope depends on what a placed query depends on. -/
theorem fingerprint_nested_eq_iff {analysis : AnalysisOverride} {l r : Resolution} :
    fingerprint ⟨.nested, analysis⟩ l = fingerprint ⟨.nested, analysis⟩ r ↔
      SearchScope.difference? l r = none := by
  rw [SearchScope.difference?_eq_none_iff]
  unfold fingerprint Resolution.kind
  rw [Fingerprint.mk.injEq]
  cases l.node with
  | value lf =>
    cases r.node with
    | value rf => simp [nodePrint, analyzerPrint, relevant, Usage.isTextual, Node.kind,
        Node.isNested]
    | object rs rm rcs => simp [nodePrint, Node.kind]
  | object ls lm lcs =>
    cases r.node with
    | value rf => simp [nodePrint, Node.kind]
    | object rs rm rcs => cases ls <;> cases rs <;> simp [nodePrint, Node.kind, Node.isNested]

theorem mem_of_settle_error {matters : Attribute → Bool} {differences : List Difference}
    {d : Difference} (h : settle matters differences = .error d) :
    d ∈ differences ∧ matters d.attr = true := by
  unfold settle at h
  split at h
  · rename_i d' hfind
    cases h
    have hmatters := List.find?_some hfind
    exact ⟨List.mem_of_find?_eq_some hfind, hmatters⟩
  · cases h

theorem attr_of_analysisConflict? {f g : ValueField} {d : Difference}
    (h : analysisConflict? request f g = some d) : d.attr ∈ compared := by
  unfold analysisConflict? at h
  split at h
  · cases h
  · split at h
    · cases h
    · cases h
      dsimp only
      split <;> simp [compared]

/-- **What is in conflict where a query can bridge the difference** are two value fields: their
    analyzers, or something else that the usage depends on and that they show differently. -/
theorem values_of_compare_error {l r : Resolution} {d : Difference}
    (h : compare request l r = .error d) (hsame : SearchScope.difference? l r = none) :
    ∃ f g, l.node = .value f ∧ r.node = .value g ∧
      (analysisConflict? request f g = some d ∨
        d ∈ valueDifferences f g ∧ d.attr ∈ relevant request) := by
  obtain ⟨hkind, hnested, hchain⟩ := SearchScope.difference?_eq_none_iff.mp hsame
  unfold compare at h
  unfold Resolution.kind at hkind
  cases hl : l.node with
  | value lf =>
    cases hr : r.node with
    | object rs rm rcs => simp [hl, hr, Node.kind] at hkind
    | value rf =>
      refine ⟨lf, rf, rfl, rfl, ?_⟩
      simp only [hl, hr, hchain, if_true, List.nil_append] at h
      cases hconflict : analysisConflict? request lf rf with
      | some d' =>
        simp only [hconflict] at h
        cases h
        exact .inl rfl
      | none =>
        simp only [hconflict] at h
        obtain ⟨hmem, hmatters⟩ := mem_of_settle_error h
        refine .inr ⟨hmem, ?_⟩
        simpa [attr_ne_of_mem_valueDifferences hmem] using hmatters
  | object ls lm lcs =>
    cases hr : r.node with
    | value rf => simp [hl, hr, Node.kind] at hkind
    | object rs rm rcs =>
      -- The instances of objects may differ in number, which matters to no usage.
      exfalso
      have hstorage : ls = rs := by
        cases ls <;> cases rs <;> simp [hl, hr, Node.isNested] at hnested ⊢
      simp only [hl, hr, hchain, hstorage, ne_eq, not_true_eq_false, if_true, if_false,
        List.nil_append] at h
      obtain ⟨hmem, hmatters⟩ := mem_of_settle_error h
      split at hmem
      · cases hmem
      · cases List.mem_singleton.mp hmem
        cases hmatters

/-- Only what value fields declare is in conflict there. -/
theorem attr_of_compare_error {l r : Resolution} {d : Difference}
    (h : compare request l r = .error d) (hsame : SearchScope.difference? l r = none) :
    d.attr ∈ compared ∧ l.kind = .value := by
  obtain ⟨f, g, hl, -, hdiffer⟩ := values_of_compare_error h hsame
  have hkind : l.kind = .value := by
    unfold Resolution.kind
    rw [hl]
    rfl
  rcases hdiffer with hconflict | ⟨-, hrelevant⟩
  · exact ⟨attr_of_analysisConflict? hconflict, hkind⟩
  · exact ⟨relevant_subset request hrelevant, hkind⟩

end Compatibility

open Compatibility

/-! ## Resolving and comparing -/

/-- **A path resolves in a scope exactly if its indexes could share a nested scope there.** -/
theorem SearchScope.resolves_iff_compatible {s : SearchScope} {path : FieldPath} {usage : Usage}
    {analysis : AnalysisOverride} :
    (∃ r, s.resolve none path usage = .ok r) ↔
      ∃ v, checkCompatibility path ⟨.nested, analysis⟩ s.schemas = .ok v ∧
        v.isConflicting = false := by
  rw [compatible_iff]
  simp only [fingerprint_nested_eq_iff]
  constructor
  · rintro ⟨r, h⟩
    obtain ⟨first, others, hres, hunblocked, hsame, -⟩ := resolve_eq_ok_iff.mp h
    exact ⟨first, others, presences_eq_found_iff.mpr ⟨hres, hunblocked⟩, hsame⟩
  · rintro ⟨first, others, hpresent, hsame⟩
    have hfound : (presences path s.schemas).1 = (first :: others).map .found := hpresent
    obtain ⟨hres, hunblocked⟩ := presences_eq_found_iff.mp hfound
    exact ⟨_, resolve_eq_ok_iff.mpr ⟨first, others, hres, hunblocked, hsame, rfl⟩⟩

/-- Where a path resolves, a conflict is one between two of its resolutions that a query can
    bridge. -/
theorem SearchScope.pair_of_conflict {s : SearchScope} {path : FieldPath} {usage : Usage}
    {r : ScopedResolution} (h : s.resolve none path usage = .ok r) {request : CompatibilityRequest}
    {report : ConflictReport}
    (hreport : checkCompatibility path request s.schemas = .ok (.conflicting report)) :
    ∃ (first other : Resolution) (others : List Resolution) (d : Difference),
      s.resolutions path = first :: others ∧ other ∈ others ∧ r.kind = first.kind ∧
        difference? first other = none ∧ compare request first other = .error d ∧
        report = ⟨path, request.usage, d.attr, d.left, d.right, first.index, other.index⟩ := by
  obtain ⟨first, others, hres, hunblocked, hsame, rfl⟩ := resolve_eq_ok_iff.mp h
  have hpresent : (presences path s.schemas).1 = .found first :: others.map .found :=
    presences_eq_found_iff.mpr ⟨hres, hunblocked⟩
  rcases checkCompatibility_cases path request s.schemas with ⟨-, e, he⟩ |
    ⟨-, -, differing, hok, -⟩ | ⟨baseline, before, other, after, d, hpresent', -, herror, hok⟩
  · cases hreport.symm.trans he
  · exact absurd (Except.ok.inj (hok.symm.trans hreport))
      (Verdict.ofIgnored_ne_conflicting differing report)
  · obtain ⟨rfl, hothers⟩ := List.cons.inj (hpresent.symm.trans hpresent')
    have hmem : other ∈ others.map Presence.found := by simp [hothers]
    obtain ⟨found, hfound, rfl⟩ := List.mem_map.mp hmem
    cases hreport.symm.trans hok
    exact ⟨first, found, others, d, hres, hfound, rfl, hsame found hfound, herror, rfl⟩

/-- **Where a path resolves, the comparison has a verdict for every usage**, and a conflict is over
    something that value fields declare. -/
theorem SearchScope.conflict_of_resolve {s : SearchScope} {path : FieldPath} {usage : Usage}
    {r : ScopedResolution} (h : s.resolve none path usage = .ok r)
    (request : CompatibilityRequest) :
    ∃ v, checkCompatibility path request s.schemas = .ok v ∧
      ∀ report, v = .conflicting report →
        report.field = path ∧ report.usage = request.usage ∧ report.attr ∈ compared ∧
          r.kind = .value := by
  obtain ⟨v, hv, -⟩ := exists_verdict_of_resolve_scope h request
  refine ⟨v, hv, ?_⟩
  rintro report rfl
  obtain ⟨first, other, others, d, -, -, hkind, hsame, herror, rfl⟩ :=
    SearchScope.pair_of_conflict h hv
  obtain ⟨hattr, hvalue⟩ := attr_of_compare_error herror hsame
  exact ⟨rfl, rfl, hattr, hkind.trans hvalue⟩

/-! ## Placed queries -/

/-- What may be reported about a placed query: an attribute of a field that one of its leaves
    targets and that holds values in every index that has it. No scope that was written out is such
    a field. -/
structure Placed.MayReport (r : Placed) (s : SearchScope) (report : ConflictReport) : Prop where
  targeted : ∃ l ∈ r.leaves, report.field ∈ l.fields ∧ report.usage = l.usage
  kind_eq : ∀ i ∈ s.indexes, ∀ node, i.schema.node? report.field = some node → node.kind = .value
  attr_mem : report.attr ∈ compared
  not_scope : ∀ scope ∈ r.scopes, scope.1 ≠ report.field

/-- A field that is compared for a placed query gets a verdict, and only leaves are in conflict. -/
theorem Placement.Derivation.mayReport {s : SearchScope} {config : CompilerConfig} {frame : Frame}
    {p : Predicate} {r : Placed} (h : Derivation s config frame p r) {c : FieldCheck}
    (hc : c ∈ r.checks) :
    ∃ v, checkCompatibility c.field c.request s.schemas = .ok v ∧
      ∀ report, v = .conflicting report → r.MayReport s report := by
  obtain ⟨resolution, hresolve⟩ := h.resolve_checks c hc
  have hagree := SearchScope.agreement hresolve
  obtain ⟨v, hv, hreport⟩ := SearchScope.conflict_of_resolve hresolve c.request
  refine ⟨v, hv, fun report hconflict => ?_⟩
  obtain ⟨hfield, husage, hattr, hkind⟩ := hreport report hconflict
  have hvalue : ∀ i ∈ s.indexes, ∀ node,
      i.schema.node? report.field = some node → node.kind = .value := by
    intro i hi node hnode
    rw [hfield] at hnode
    exact (hagree.kind_eq i hi node hnode).trans hkind
  have hscopes : ∀ scope ∈ r.scopes, scope.1 ≠ report.field := by
    intro scope hscope heq
    obtain ⟨⟨i, hi, node, hnode⟩, hnested⟩ := h.scopes_nested scope hscope
    have hobject := hnested i hi node hnode
    rw [heq] at hnode
    have hnotObject := hvalue i hi node hnode
    cases node with
    | value f => cases hobject
    | object storage multiValued children => cases hnotObject
  refine ⟨?_, hvalue, hattr, hscopes⟩
  obtain ⟨l, hl, f, hf, rfl⟩ | ⟨scope, hscope, rfl⟩ := mem_checks_iff.mp hc
  · exact ⟨l, hl, hfield ▸ hf, husage⟩
  · exact absurd hfield.symm (hscopes scope hscope)

/-- What is found in conflict in a placed query may be reported. -/
theorem Placement.Derivation.mayReport_of_conflict {s : SearchScope} {config : CompilerConfig}
    {frame : Frame} {p : Predicate} {r : Placed} (h : Derivation s config frame p r)
    {c : FieldCheck} (hc : c ∈ r.checks) {report : ConflictReport}
    (hconflict : c.conflict? s.schemas = some report) : r.MayReport s report := by
  obtain ⟨v, hv, hreport⟩ := h.mayReport hc
  rw [FieldCheck.conflict?_eq hv] at hconflict
  cases v with
  | compatible | compatibleIgnoring ignored => cases hconflict
  | conflicting found => exact hreport report (congrArg _ (Option.some.inj hconflict))

/-- The comparisons that a leaf asks for. -/
def ResolvedLeaf.checks (l : ResolvedLeaf) : List FieldCheck :=
  l.fields.map fun f => ⟨f, ⟨l.usage, l.analysis⟩, l.optional⟩

/-- Scopes that were written out resolve, and so there is nothing to report about them. -/
theorem comparison_eq_of_leaves {s : SearchScope} {config config' : CompilerConfig} {p : Predicate}
    {r : Placed} (h : place s config' p = .ok r) :
    comparison s config r = if s.isMultiIndex then
      judge s.schemas config.optionalConflicts [] (r.leaves.flatMap ResolvedLeaf.checks)
      else .ok [] := by
  rw [comparison_eq h]
  refine if_congr Iff.rfl (judge_append ?_) rfl
  intro c hc
  obtain ⟨written, hwritten, rfl⟩ := List.mem_map.mp hc
  have hresolves := (derivation_of_place h).resolve_checks _
    (Placement.mem_checks_iff.mpr (.inr ⟨written, hwritten, rfl⟩))
  obtain ⟨v, hv, hno⟩ := SearchScope.resolves_iff_compatible.mp hresolves
  rw [FieldCheck.conflict?_eq hv]
  simpa [Verdict.isConflicting] using hno

/-- A placed query is compiled, unless a conflict over one of its fields forbids it; and what holds of
    all conflicts over its fields holds of what is reported. -/
theorem compile_of_placed {s : SearchScope} {config : CompilerConfig} {p : Predicate} {r : Placed}
    (h : place s config p = .ok r) {holds : ConflictReport → Prop}
    (hconflicts : ∀ c ∈ r.checks, ∀ report, c.conflict? s.schemas = some report → holds report) :
    (∃ q, compile s config p = .ok q ∧ ∀ d ∈ q.diagnostics, holds d.report) ∨
      ∃ report, compile s config p = .error (.conflict report) ∧ holds report := by
  rw [compile_eq, h]
  show (∃ q, (comparison s config r >>= _) = .ok q ∧ _) ∨
    ∃ report, (comparison s config r >>= _) = .error _ ∧ _
  rw [comparison_eq h]
  split
  · obtain ⟨c, hc, report, hfailure, hjudge⟩ | ⟨-, hjudge⟩ :=
      judge_cases s.schemas config.optionalConflicts [] r.checks
    · rw [hjudge]
      exact .inr ⟨report, rfl, hconflicts c hc report (FieldCheck.conflict?_of_failure? hfailure)⟩
    · rw [hjudge]
      refine .inl ⟨_, rfl, ?_⟩
      intro d hd
      obtain ⟨report, hreport, rfl⟩ := List.mem_map.mp (List.mem_eraseDups.mp hd)
      obtain ⟨c, hc, hconflict⟩ := List.mem_filterMap.mp hreport
      exact hconflicts c hc report hconflict
  · exact .inl ⟨_, rfl, by simp⟩

/-- What is reported about a placed query may be reported. -/
theorem reports_of_placed {s : SearchScope} {config : CompilerConfig} {p : Predicate} {r : Placed}
    (h : place s config p = .ok r) :
    (∃ q, compile s config p = .ok q ∧ ∀ d ∈ q.diagnostics, r.MayReport s d.report) ∨
      ∃ report, compile s config p = .error (.conflict report) ∧ r.MayReport s report :=
  compile_of_placed h fun _ hc _ hconflict =>
    (derivation_of_place h).mayReport_of_conflict hc hconflict

/-- **Resolving settles all that is about the shape of a field.** A path resolves, for whatever
    usage, exactly if the indexes are compatible for a nested scope there; then every usage gets a
    verdict, and no conflict is over kind, storage or the objects on the path. So a placed query is
    compared without an error of a schema, its scopes and object fields are never reported, and what
    is reported are attributes of value fields. -/
theorem comparison_settled (s : SearchScope) :
    (∀ path usage analysis, (∃ r, s.resolve none path usage = .ok r) ↔
      ∃ v, checkCompatibility path ⟨.nested, analysis⟩ s.schemas = .ok v ∧
        v.isConflicting = false) ∧
    (∀ path usage r, s.resolve none path usage = .ok r → ∀ request,
      ∃ v, checkCompatibility path request s.schemas = .ok v ∧
        ∀ report, v = .conflicting report →
          report.attr ∉ [Attribute.nodeKind, .storage, .nestedPathHierarchy]) ∧
    ∀ config p r, place s config p = .ok r →
      (∃ q, compile s config p = .ok q ∧ ∀ d ∈ q.diagnostics, r.MayReport s d.report) ∨
        ∃ report, compile s config p = .error (.conflict report) ∧ r.MayReport s report := by
  refine ⟨fun path usage analysis => SearchScope.resolves_iff_compatible, ?_,
    fun config p r h => reports_of_placed h⟩
  intro path usage r h request
  obtain ⟨v, hv, hreport⟩ := SearchScope.conflict_of_resolve h request
  refine ⟨v, hv, fun report hconflict => ?_⟩
  have hattr := (hreport report hconflict).2.2.1
  cases hname : report.attr <;> simp [hname, compared] at hattr ⊢

namespace Sample

/-- An index that counts colors. -/
def counted : Schema where
  index := "c"
  fields := [("color", .value (.ofType .integer))]
  valid := by decide +kernel

/-- Two indexes that do not agree on what a color is. -/
def colors : SearchScope where
  indexes := [.ofSchema plain, .ofSchema counted]
  nonempty := by simp
  distinct := by decide +kernel

def colored : Predicate :=
  .bool .or [.leaf ⟨[⟨color, []⟩], .matching (.string "blue") .none 0⟩]

end Sample

/-- What `comparison_settled` says of a path that resolves and of a query that is placed, where
    there is something to report: the types of the two fields. -/
theorem comparison_settled_sample :
    ∃ resolution r q d, Sample.colors.resolve none ⟨Sample.color, []⟩ .matching = .ok resolution ∧
      (∃ v, checkCompatibility ⟨Sample.color, []⟩ ⟨.nested, .none⟩ Sample.colors.schemas = .ok v ∧
        v.isConflicting = false) ∧
      (∃ v, checkCompatibility ⟨Sample.color, []⟩ ⟨.matching, .none⟩ Sample.colors.schemas = .ok v ∧
        ∀ report, v = .conflicting report →
          report.attr ∉ [Attribute.nodeKind, .storage, .nestedPathHierarchy]) ∧
      place Sample.colors .default Sample.colored = .ok r ∧
      compile Sample.colors .default Sample.colored = .ok q ∧ d ∈ q.diagnostics ∧
      d.report.attr = .fieldType ∧ r.MayReport Sample.colors d.report := by
  obtain ⟨hresolves, hverdict, hplaced⟩ := comparison_settled Sample.colors
  have hreports : (compile Sample.colors .default Sample.colored).toOption.map (fun q =>
      q.diagnostics.map fun d => d.report.attr) = some [.fieldType] := by decide +kernel
  have hpath :
      (Sample.colors.resolve none ⟨Sample.color, []⟩ .matching).toOption.isSome = true := by
    decide +kernel
  cases hresolve : Sample.colors.resolve none ⟨Sample.color, []⟩ .matching with
  | error e =>
    rw [hresolve] at hpath
    cases hpath
  | ok resolution =>
    cases hplace : place Sample.colors .default Sample.colored with
    | error e =>
      unfold compile at hreports
      rw [hplace] at hreports
      cases hreports
    | ok r =>
      obtain ⟨q, hcompile, hall⟩ | ⟨report, hcompile, -⟩ := hplaced _ _ r hplace
      · rw [hcompile] at hreports
        obtain ⟨d, hd, hattr⟩ := List.map_eq_singleton_iff.mp (Option.some.inj hreports)
        have hmem : d ∈ q.diagnostics := hd ▸ List.mem_singleton_self d
        exact ⟨resolution, r, q, d, rfl, (hresolves _ .matching .none).mp ⟨resolution, hresolve⟩,
          hverdict _ _ _ hresolve ⟨.matching, .none⟩, rfl, hcompile, hmem, hattr, hall d hmem⟩
      · rw [hcompile] at hreports
        cases hreports

end NestedSearch
