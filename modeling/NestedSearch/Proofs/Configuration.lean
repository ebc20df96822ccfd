import NestedSearch.Proofs.Placement.Limits
import NestedSearch.Proofs.Placement.Scoping
import NestedSearch.Proofs.Reports

/-!
# What the configuration decides

A configuration says which queries are refused. What a query is compiled to, if it is not refused,
does not depend on it: usages and limits are side conditions of placement (`place_of_limits`), and
of the comparison that follows only the conflicts over optional leaves may pass or not. So a looser
configuration compiles the same queries to the same results, and some more
(`compile_configuration`).
-/

namespace NestedSearch

open Placement

variable {scope : SearchScope} {config config' : CompilerConfig} {p : Predicate} {r : Placed}
  {q : CompiledQuery}

/-! ## Placing -/

/-- What is placed is placed alike under larger limits, and if usages are not validated. -/
theorem place_of_limits (hclauses : config.maxClauseCount ≤ config'.maxClauseCount)
    (hdepth : config.maxExpansionDepth ≤ config'.maxExpansionDepth)
    (husages : config'.validateUsages = true → config.validateUsages = true)
    (h : place scope config p = .ok r) : place scope config' p = .ok r := by
  obtain ⟨hderivation, hfits, hstays⟩ := place_eq_ok_iff.mp h
  exact place_eq_ok_iff.mpr
    ⟨hderivation.of_config husages, hfits.trans hclauses, hstays.mono hdepth⟩

theorem place_policy (policy : OptionalConflictPolicy) :
    place scope { config with optionalConflicts := policy } p = .ok r ↔
      place scope config p = .ok r := by
  constructor
  · intro h
    refine place_of_limits ?_ ?_ ?_ h <;> simp
  · intro h
    refine place_of_limits ?_ ?_ ?_ h <;> simp

/-! ## Comparing leaves -/

namespace ResolvedLeaf

/-- The conflicts over the fields of a leaf, in their order. -/
def conflicts (schemas : List Definition) (l : ResolvedLeaf) : List ConflictReport :=
  l.fields.filterMap fun f =>
    (checkCompatibility f ⟨l.usage, l.analysis⟩ schemas).toOption.bind Verdict.conflict?

/-- The indexes do not differ in what the leaf depends on. -/
def Agreed (schemas : List Definition) (l : ResolvedLeaf) : Prop :=
  ∀ f ∈ l.fields, ∃ v, checkCompatibility f ⟨l.usage, l.analysis⟩ schemas = .ok v ∧
    v.isConflicting = false

theorem filterMap_checks (schemas : List Definition) (l : ResolvedLeaf) :
    l.checks.filterMap (·.conflict? schemas) = l.conflicts schemas := by
  rw [checks, List.filterMap_map]
  rfl

theorem conflicts_eq_nil_iff {schemas : List Definition} {l : ResolvedLeaf}
    (hverdict : ∀ f ∈ l.fields, ∃ v, checkCompatibility f ⟨l.usage, l.analysis⟩ schemas = .ok v) :
    l.conflicts schemas = [] ↔ l.Agreed schemas := by
  rw [conflicts, List.filterMap_eq_nil_iff]
  refine forall₂_congr fun f hf => ?_
  obtain ⟨v, hv⟩ := hverdict f hf
  simp [hv, Except.toOption, Verdict.isConflicting]

/-- Where conflicts over optional clauses pass, those over the other leaves fail the query. -/
theorem failure?_checks {schemas : List Definition} {l : ResolvedLeaf} :
    (∀ c ∈ l.checks, c.failure? schemas .warn = none) ↔
      (l.optional = false → l.conflicts schemas = []) := by
  rw [← filterMap_checks, List.filterMap_eq_nil_iff]
  unfold checks
  cases l.optional <;> simp [FieldCheck.failure?]

end ResolvedLeaf

/-! ## Policies -/

section Policies

variable {schemas : List Definition} {checks : List FieldCheck} {diagnostics : List Diagnostic}

/-- If no conflict may pass, none is found. -/
theorem judge_fail_eq_ok_iff : judge schemas .fail [] checks = .ok diagnostics ↔
    judge schemas .warn [] checks = .ok diagnostics ∧ diagnostics = [] := by
  by_cases hnone : ∀ c ∈ checks, c.conflict? schemas = none
  · have hpasses : ∀ policy, judge schemas policy [] checks = .ok [] := by
      intro policy
      show judge schemas policy [] ([] ++ checks) = judge schemas policy [] []
      exact judge_append hnone
    simp [hpasses, eq_comm]
  · have hfails : judge schemas .fail [] checks ≠ .ok diagnostics := by
      obtain ⟨c, hc, report, -, hjudge⟩ | ⟨hpasses, -⟩ := judge_cases schemas .fail [] checks
      · simp [hjudge]
      · refine absurd (fun c hc => ?_) hnone
        simpa [FieldCheck.failure?] using hpasses c hc
    refine iff_of_false hfails ?_
    rintro ⟨hwarn, rfl⟩
    obtain ⟨c, hc, report, -, hjudge⟩ | ⟨-, hjudge⟩ := judge_cases schemas .warn [] checks
    · cases hjudge.symm.trans hwarn
    · have hnil := Except.ok.inj (hjudge.symm.trans hwarn)
      rw [eraseDups_eq_nil_iff, List.nil_append, List.map_eq_nil_iff,
        List.filterMap_eq_nil_iff] at hnil
      exact hnone hnil

theorem judge_of_policy {policy policy' : OptionalConflictPolicy}
    (hpolicy : policy' = .warn ∨ policy' = policy)
    (h : judge schemas policy [] checks = .ok diagnostics) :
    judge schemas policy' [] checks = .ok diagnostics := by
  rcases hpolicy with rfl | rfl
  · cases policy with
    | warn => exact h
    | fail => exact (judge_fail_eq_ok_iff.mp h).1
  · exact h

end Policies

theorem comparison_fail_eq_ok_iff (h : place scope config' p = .ok r)
    {diagnostics : List Diagnostic} :
    comparison scope { config with optionalConflicts := .fail } r = .ok diagnostics ↔
      comparison scope { config with optionalConflicts := .warn } r = .ok diagnostics ∧
        diagnostics = [] := by
  rw [comparison_eq h, comparison_eq h]
  split
  · exact judge_fail_eq_ok_iff
  · simp [eq_comm]

/-- Where no conflict may pass, exactly the queries compile about which there is nothing to
    report otherwise. -/
theorem compile_fail_eq_ok_iff :
    compile scope { config with optionalConflicts := .fail } p = .ok q ↔
      compile scope { config with optionalConflicts := .warn } p = .ok q ∧ q.diagnostics = [] := by
  rw [compile_eq_ok_iff, compile_eq_ok_iff]
  simp only [place_policy]
  constructor
  · rintro ⟨r, hr, diagnostics, hcomparison, rfl⟩
    obtain ⟨hwarn, hnil⟩ := (comparison_fail_eq_ok_iff hr).mp hcomparison
    exact ⟨⟨r, hr, diagnostics, hwarn, rfl⟩, hnil⟩
  · rintro ⟨⟨r, hr, diagnostics, hcomparison, rfl⟩, hnil⟩
    exact ⟨r, hr, diagnostics, (comparison_fail_eq_ok_iff hr).mpr ⟨hcomparison, hnil⟩, rfl⟩

/-! ## Looser configurations -/

/-- The second configuration refuses nothing that the first one does not refuse. -/
structure CompilerConfig.Loosens (config config' : CompilerConfig) : Prop where
  clauses_le : config.maxClauseCount ≤ config'.maxClauseCount
  depth_le : config.maxExpansionDepth ≤ config'.maxExpansionDepth
  usages : config'.validateUsages = false ∨ config'.validateUsages = config.validateUsages
  conflicts : config'.optionalConflicts = .warn ∨
    config'.optionalConflicts = config.optionalConflicts

theorem compile_of_loosens (hloosens : config.Loosens config')
    (h : compile scope config p = .ok q) : compile scope config' p = .ok q := by
  obtain ⟨r, hr, diagnostics, hcomparison, rfl⟩ := compile_eq_ok_iff.mp h
  have hr' : place scope config' p = .ok r := by
    refine place_of_limits hloosens.clauses_le hloosens.depth_le ?_ hr
    rcases hloosens.usages with hoff | hsame
    · simp [hoff]
    · simp [hsame]
  refine compile_eq_ok_iff.mpr ⟨r, hr', diagnostics, ?_, rfl⟩
  rw [comparison_eq hr] at hcomparison ⊢
  cases hmulti : scope.isMultiIndex with
  | true =>
    rw [hmulti] at hcomparison
    exact judge_of_policy hloosens.conflicts hcomparison
  | false => rwa [hmulti] at hcomparison

/-! ## Conflicts that pass -/

theorem flatMap_conflicts {schemas : List Definition} {leaves : List ResolvedLeaf}
    (h : ∀ l ∈ leaves, l.optional = false → l.conflicts schemas = []) :
    leaves.flatMap (·.conflicts schemas) =
      (leaves.filter (·.optional)).flatMap (·.conflicts schemas) := by
  induction leaves with
  | nil => rfl
  | cons l rest ih =>
    obtain ⟨hl, hrest⟩ := List.forall_mem_cons.mp h
    rw [List.flatMap_cons, ih hrest, List.filter_cons]
    cases hoptional : l.optional with
    | true => simp
    | false => simp [hl hoptional]

/-- What comes of comparing leaves where conflicts over optional clauses pass. -/
theorem judge_warn_eq_ok_iff {schemas : List Definition} {leaves : List ResolvedLeaf}
    {diagnostics : List Diagnostic} :
    judge schemas .warn [] (leaves.flatMap ResolvedLeaf.checks) = .ok diagnostics ↔
      (∀ l ∈ leaves, l.optional = false → l.conflicts schemas = []) ∧
        diagnostics = (((leaves.filter (·.optional)).flatMap (·.conflicts schemas)).map
          Diagnostic.mk).eraseDups := by
  have hpasses : (∀ c ∈ leaves.flatMap ResolvedLeaf.checks, c.failure? schemas .warn = none) ↔
      ∀ l ∈ leaves, l.optional = false → l.conflicts schemas = [] := by
    simp only [List.forall_mem_flatMap, ResolvedLeaf.failure?_checks]
  rw [← hpasses]
  obtain ⟨c, hc, report, hfailure, hjudge⟩ | ⟨hnone, hjudge⟩ :=
    judge_cases schemas .warn [] (leaves.flatMap ResolvedLeaf.checks)
  · rw [hjudge]
    refine iff_of_false (by simp) ?_
    rintro ⟨hnone, -⟩
    cases (hnone c hc).symm.trans hfailure
  · rw [hjudge, List.nil_append, List.filterMap_flatMap]
    simp only [ResolvedLeaf.filterMap_checks]
    rw [flatMap_conflicts (hpasses.mp hnone), Except.ok.injEq, and_iff_right hnone, eq_comm]

theorem conflicts_iff_of_place (h : place scope config' p = .ok r) :
    (∀ l ∈ r.leaves, l.optional = false → l.conflicts scope.schemas = []) ↔
      ∀ l ∈ r.leaves, l.optional = false → l.Agreed scope.schemas := by
  refine forall₂_congr fun l hl => imp_congr_right fun _ => ?_
  refine ResolvedLeaf.conflicts_eq_nil_iff fun f hf => ?_
  obtain ⟨resolution, hresolution⟩ := (derivation_of_place h).resolve_checks
    ⟨f, ⟨l.usage, l.analysis⟩, l.optional⟩ (mem_checks_iff.mpr (.inl ⟨l, hl, f, hf, rfl⟩))
  obtain ⟨v, hv, -⟩ := exists_verdict_of_resolve_scope hresolution ⟨l.usage, l.analysis⟩
  exact ⟨v, hv⟩

/-- **When a query compiles for several indexes**, if conflicts over optional clauses pass, and to
    what. -/
theorem compile_warn_eq_ok_iff (hmulti : scope.isMultiIndex = true)
    (hwarn : config.optionalConflicts = .warn) :
    compile scope config p = .ok q ↔ ∃ r, place scope config p = .ok r ∧
      (∀ l ∈ r.leaves, l.optional = false → l.Agreed scope.schemas) ∧
      q = ⟨r.predicate, r.leaves, scope.indexNames,
        (((r.leaves.filter (·.optional)).flatMap (·.conflicts scope.schemas)).map
          Diagnostic.mk).eraseDups⟩ := by
  rw [compile_eq_ok_iff]
  refine exists_congr fun r => and_congr_right fun hr => ?_
  rw [← conflicts_iff_of_place hr, comparison_eq_of_leaves hr, hmulti, hwarn]
  simp only [if_true, judge_warn_eq_ok_iff]
  constructor
  · rintro ⟨diagnostics, ⟨hnone, rfl⟩, rfl⟩
    exact ⟨hnone, rfl⟩
  · rintro ⟨hnone, rfl⟩
    exact ⟨_, ⟨hnone, rfl⟩, rfl⟩

/-- **What the configuration decides.** A query that compiles under a configuration compiles to the
    same under a looser one. It compiles where conflicts over optional clauses fail it exactly if it
    compiles, with nothing to report, where they pass. And where they pass, a query for several
    indexes compiles exactly if it can be placed and the indexes agree on the fields of all leaves
    that are not optional; what is reported then are the conflicts over the optional leaves, each
    one once, in the order in which the leaves occur in the placed predicate. -/
theorem compile_configuration (scope : SearchScope) (config : CompilerConfig) (p : Predicate) :
    (∀ config' q, config.Loosens config' → compile scope config p = .ok q →
      compile scope config' p = .ok q) ∧
    (∀ q, compile scope { config with optionalConflicts := .fail } p = .ok q ↔
      compile scope { config with optionalConflicts := .warn } p = .ok q ∧ q.diagnostics = []) ∧
    (scope.isMultiIndex = true → config.optionalConflicts = .warn →
      ((∃ q, compile scope config p = .ok q) ↔ ∃ r, place scope config p = .ok r ∧
        ∀ l ∈ r.leaves, l.optional = false → l.Agreed scope.schemas) ∧
      ∀ q, compile scope config p = .ok q →
        ListsLeaves [] q.leaves q.predicate.fieldOccurrences ∧
        q.diagnostics = (((q.leaves.filter (·.optional)).flatMap
          (·.conflicts scope.schemas)).map Diagnostic.mk).eraseDups) := by
  refine ⟨fun config' q => compile_of_loosens, fun q => compile_fail_eq_ok_iff, ?_⟩
  intro hmulti hwarn
  refine ⟨?_, ?_⟩
  · constructor
    · rintro ⟨q, hq⟩
      obtain ⟨r, hr, hagreed, -⟩ := (compile_warn_eq_ok_iff hmulti hwarn).mp hq
      exact ⟨r, hr, hagreed⟩
    · rintro ⟨r, hr, hagreed⟩
      exact ⟨_, (compile_warn_eq_ok_iff hmulti hwarn).mpr ⟨r, hr, hagreed, rfl⟩⟩
  · intro q hq
    obtain ⟨r, hr, -, rfl⟩ := (compile_warn_eq_ok_iff hmulti hwarn).mp hq
    exact ⟨expanding_faithful scope config config.maxExpansionDepth _ _ 0 p r
      (Frame.StandsIn.top scope) hr, rfl⟩

namespace Sample

/-- What has a color, preferably blue. -/
def preferablyBlue : Predicate := .bool .and [.leaf ⟨[⟨color, []⟩], .exists⟩, colored]

end Sample

/-- What `compile_configuration` says of a leaf on whose field two indexes agree, and an optional
    leaf on whose field they do not: the query compiles with one report, also under a larger limit,
    and does not compile if conflicts fail it. -/
theorem compile_configuration_sample :
    let strict : CompilerConfig := { CompilerConfig.default with maxClauseCount := 2 }
    Sample.colors.isMultiIndex = true ∧ strict.Loosens .default ∧
      ∃ q, compile Sample.colors strict Sample.preferablyBlue = .ok q ∧
        compile Sample.colors .default Sample.preferablyBlue = .ok q ∧ q.diagnostics.length = 1 ∧
        (∀ q', compile Sample.colors { strict with optionalConflicts := .fail }
          Sample.preferablyBlue ≠ .ok q') ∧
        (∃ r, place Sample.colors strict Sample.preferablyBlue = .ok r ∧
          ∀ l ∈ r.leaves, l.optional = false → l.Agreed Sample.colors.schemas) ∧
        q.diagnostics = (((q.leaves.filter (·.optional)).flatMap
          (·.conflicts Sample.colors.schemas)).map Diagnostic.mk).eraseDups := by
  intro strict
  have hloosens : strict.Loosens .default :=
    ⟨by decide, by decide, .inr rfl, .inl rfl⟩
  have hcount : (compile Sample.colors strict Sample.preferablyBlue).toOption.map
      (fun q => q.diagnostics.length) = some 1 := by decide +kernel
  obtain ⟨hlooser, hfail, hwarn⟩ := compile_configuration Sample.colors strict Sample.preferablyBlue
  obtain ⟨hiff, hreported⟩ := hwarn rfl rfl
  refine ⟨rfl, hloosens, ?_⟩
  cases hcompile : compile Sample.colors strict Sample.preferablyBlue with
  | error e =>
    rw [hcompile] at hcount
    cases hcount
  | ok q =>
    rw [hcompile] at hcount
    have hone : q.diagnostics.length = 1 := Option.some.inj hcount
    refine ⟨q, rfl, hlooser _ q hloosens hcompile, hone, ?_, hiff.mp ⟨q, hcompile⟩,
      (hreported q hcompile).2⟩
    intro q' hq'
    obtain ⟨hsame, hnil⟩ := (hfail q').mp hq'
    cases hcompile.symm.trans hsame
    rw [hnil] at hone
    cases hone

end NestedSearch
