import NestedSearch.Compile
import NestedSearch.Proofs.Fingerprint
import NestedSearch.Proofs.Placement.Derivation

/-!
# What compiling gives

A compiled query is a placed predicate that passed the comparison of its fields; the comparison
adds reports and changes nothing. What it compares are fields that placement resolved before
(`Derivation.resolve_checks`).
-/

namespace NestedSearch

/-! ## Comparing fields -/

namespace FieldCheck

/-- The conflict over a field, if there is one. -/
def conflict? (schemas : List Definition) (c : FieldCheck) : Option ConflictReport :=
  (checkCompatibility c.field c.request schemas).toOption.bind Verdict.conflict?

/-- The conflict over a field, if it fails the query. -/
def failure? (schemas : List Definition) (policy : OptionalConflictPolicy) (c : FieldCheck) :
    Option ConflictReport :=
  if !c.optional || policy = .fail then c.conflict? schemas else none

theorem conflict?_eq {schemas : List Definition} {c : FieldCheck} {v : Verdict}
    (h : checkCompatibility c.field c.request schemas = .ok v) :
    c.conflict? schemas = v.conflict? := by
  rw [conflict?, h]
  rfl

theorem conflict?_eq_some_iff {schemas : List Definition} {c : FieldCheck}
    {report : ConflictReport} : c.conflict? schemas = some report ↔
      checkCompatibility c.field c.request schemas = .ok (.conflicting report) := by
  unfold conflict?
  cases checkCompatibility c.field c.request schemas with
  | error e => simp [Except.toOption]
  | ok v => cases v <;> simp [Except.toOption, Verdict.conflict?]

theorem conflict?_of_failure? {schemas : List Definition} {policy : OptionalConflictPolicy}
    {c : FieldCheck} {report : ConflictReport} (h : c.failure? schemas policy = some report) :
    c.conflict? schemas = some report := by
  unfold failure? at h
  split at h
  · exact h
  · cases h

end FieldCheck

/-- What comes of comparing fields that all get a verdict, when these reports were found before: the
    first conflict that fails the query or, if there is none, each conflict once, in the order in
    which they are found. -/
def judge (schemas : List Definition) (policy : OptionalConflictPolicy) (found : List Diagnostic)
    (checks : List FieldCheck) : Except QueryError (List Diagnostic) :=
  match checks.findSome? (·.failure? schemas policy) with
  | some report => .error (.conflict report)
  | none => .ok (found ++ (checks.filterMap (·.conflict? schemas)).map Diagnostic.mk).eraseDups

theorem eraseDups_concat (found : List Diagnostic) (d : Diagnostic) :
    (found ++ [d]).eraseDups =
      if found.eraseDups.contains d then found.eraseDups else found.eraseDups ++ [d] := by
  have hone : [d].eraseDups = [d] := by
    rw [List.eraseDups_cons, List.filter_nil, List.eraseDups_nil]
  rw [List.eraseDups_append]
  by_cases hd : d ∈ found
  · simp [hd, List.removeAll]
  · simp [hd, List.removeAll, hone]

theorem checkFieldsAcross_eq {schemas : List Definition} (policy : OptionalConflictPolicy)
    {checks : List FieldCheck}
    (hverdict : ∀ c ∈ checks, ∃ v, checkCompatibility c.field c.request schemas = .ok v)
    (found : List Diagnostic) :
    checkFieldsAcross schemas policy found.eraseDups checks =
      judge schemas policy found checks := by
  induction checks generalizing found with
  | nil => simp [checkFieldsAcross, judge]
  | cons c rest ih =>
    obtain ⟨⟨v, hv⟩, hrest⟩ := List.forall_mem_cons.mp hverdict
    have hconflict := FieldCheck.conflict?_eq hv
    rw [checkFieldsAcross, hv, judge, List.findSome?_cons, List.filterMap_cons, hconflict,
      FieldCheck.failure?, hconflict]
    cases v with
    | compatible | compatibleIgnoring ignored =>
      simp only [Verdict.conflict?, ite_self]
      exact ih hrest found
    | conflicting report =>
      simp only [Verdict.conflict?]
      split
      · rfl
      · have hnext := ih hrest (found ++ [⟨report⟩])
        rw [eraseDups_concat, apply_ite (checkFieldsAcross schemas policy · rest), judge,
          List.append_assoc] at hnext
        exact hnext

theorem judge_cases (schemas : List Definition) (policy : OptionalConflictPolicy)
    (found : List Diagnostic) (checks : List FieldCheck) :
    (∃ c ∈ checks, ∃ report, c.failure? schemas policy = some report ∧
        judge schemas policy found checks = .error (.conflict report)) ∨
      (∀ c ∈ checks, c.failure? schemas policy = none) ∧ judge schemas policy found checks =
        .ok (found ++ (checks.filterMap (·.conflict? schemas)).map Diagnostic.mk).eraseDups := by
  unfold judge
  split
  · rename_i report hfails
    obtain ⟨c, hc, hfailure⟩ := List.exists_of_findSome?_eq_some hfails
    exact .inl ⟨c, hc, report, hfailure, rfl⟩
  · rename_i hpasses
    exact .inr ⟨List.findSome?_eq_none_iff.mp hpasses, rfl⟩

/-- Fields that are not in conflict pass unnoticed. -/
theorem judge_append {schemas : List Definition} {policy : OptionalConflictPolicy}
    {found : List Diagnostic} {checks more : List FieldCheck}
    (hnone : ∀ c ∈ more, c.conflict? schemas = none) :
    judge schemas policy found (checks ++ more) = judge schemas policy found checks := by
  have hpasses : more.findSome? (·.failure? schemas policy) = none := by
    refine List.findSome?_eq_none_iff.mpr fun c hc => ?_
    simp [FieldCheck.failure?, hnone c hc]
  unfold judge
  rw [List.findSome?_append, hpasses, Option.or_none, List.filterMap_append,
    List.filterMap_eq_nil_iff.mpr hnone, List.append_nil]

theorem eraseDups_eq_nil_iff {found : List Diagnostic} : found.eraseDups = [] ↔ found = [] := by
  cases found <;> simp [List.eraseDups_cons]

/-- The comparison of the fields of a placed predicate. -/
def comparison (s : SearchScope) (config : CompilerConfig) (r : Placed) :
    Except QueryError (List Diagnostic) :=
  if s.isMultiIndex then checkFieldsAcross s.schemas config.optionalConflicts [] r.checks
  else .ok []

/-- Compiling is placing and comparing. -/
theorem compile_eq (s : SearchScope) (config : CompilerConfig) (p : Predicate) :
    compile s config p = (do
      let r ← place s config p
      let diagnostics ← comparison s config r
      .ok ⟨r.predicate, r.leaves, s.indexNames, diagnostics⟩) := by
  unfold compile comparison
  refine congrArg (place s config p >>= ·) (funext fun r => ?_)
  simp only
  split <;> rfl

variable {scope : SearchScope} {config : CompilerConfig} {q : CompiledQuery}

theorem compile_eq_ok_iff {p : Predicate} : compile scope config p = .ok q ↔
    ∃ r, place scope config p = .ok r ∧ ∃ diagnostics, comparison scope config r = .ok diagnostics ∧
      q = ⟨r.predicate, r.leaves, scope.indexNames, diagnostics⟩ := by
  rw [compile_eq]
  simp only [bind_eq_ok_iff, Except.ok.injEq, eq_comm (a := q)]

theorem compile_ok {p : Predicate} (h : compile scope config p = .ok q) :
    ∃ r, place scope config p = .ok r ∧ q.predicate = r.predicate ∧ q.leaves = r.leaves ∧
      q.indexes = scope.indexNames := by
  obtain ⟨r, hr, diagnostics, -, rfl⟩ := compile_eq_ok_iff.mp h
  exact ⟨r, hr, rfl, rfl, rfl⟩

namespace Placement

/-! ## The fields to be compared -/

/-- The checks of a leaf are the checks of its fields. -/
theorem mem_checks_iff {r : Placed} {c : FieldCheck} :
    c ∈ r.checks ↔
      (∃ l ∈ r.leaves, ∃ f ∈ l.fields, c = ⟨f, ⟨l.usage, l.analysis⟩, l.optional⟩) ∨
        ∃ s ∈ r.scopes, c = ⟨s.1, ⟨.nested, .none⟩, s.2⟩ := by
  unfold Placed.checks
  simp only [List.mem_append, List.mem_flatMap, List.mem_map, eq_comm]

theorem Derivation.scopes_resolve {frame : Frame} {p : Predicate} {r : Placed}
    (h : Derivation scope config frame p r) :
    ∀ s ∈ r.scopes, ∃ resolution, scope.resolve none s.1 .nested = .ok resolution := by
  induction h with
  | bare hcheck husage | leaf hcheck husage hfields | noClause => simp
  | clause hfirst hrest ihfirst ihrest => exact List.forall_mem_append.mpr ⟨ihfirst, ihrest⟩
  | nested houter hrequire hinner ih =>
    refine List.forall_mem_cons.mpr ⟨?_, ih⟩
    rw [SearchScope.resolve_joinUnder] at houter
    rw [(SearchScope.agreement houter).path_eq]
    exact ⟨_, houter⟩
  | named hfull htarget hprovider hproduced hinner ih => exact ih
  | not hinner ih | boosted hboost hinner ih | constantScore hinner ih => exact ih

/-- **Every field that is compared across the indexes resolves in the scope**, for the usage that
    it is compared for. -/
theorem Derivation.resolve_checks {frame : Frame} {p : Predicate} {r : Placed}
    (h : Derivation scope config frame p r) :
    ∀ c ∈ r.checks, ∃ resolution, scope.resolve none c.field c.request.usage = .ok resolution := by
  intro c hc
  obtain ⟨l, hl, f, hf, rfl⟩ | ⟨s, hs, rfl⟩ := mem_checks_iff.mp hc
  · obtain ⟨resolution, hresolution, -⟩ := h.leaves_resolve l hl f hf
    exact ⟨resolution, hresolution⟩
  · exact h.scopes_resolve s hs

end Placement

/-- Every field of a placed predicate gets a verdict. -/
theorem comparison_eq {config' : CompilerConfig} {p : Predicate} {r : Placed}
    (h : place scope config' p = .ok r) : comparison scope config r =
      if scope.isMultiIndex then judge scope.schemas config.optionalConflicts [] r.checks
      else .ok [] := by
  have hverdict : ∀ c ∈ r.checks,
      ∃ v, checkCompatibility c.field c.request scope.schemas = .ok v := by
    intro c hc
    obtain ⟨resolution, hresolution⟩ := (derivation_of_place h).resolve_checks c hc
    obtain ⟨v, hv, -⟩ := exists_verdict_of_resolve_scope hresolution c.request
    exact ⟨v, hv⟩
  rw [comparison, ← checkFieldsAcross_eq _ hverdict, List.eraseDups_nil]

/-! ## Queries -/

/-- A query can be run in the scope it was compiled for. -/
theorem ensureScope_of_compile {p : Predicate} (h : compile scope config p = .ok q) :
    q.ensureScope scope = .ok () := by
  obtain ⟨r, -, -, -, hindexes⟩ := compile_ok h
  unfold CompiledQuery.ensureScope
  rw [if_pos hindexes.symm]

/-- A leaf on its own is wrapped in its whole chain, which all of its fields have. -/
theorem compile_leaf_resolves {l : Leaf} {usage : Usage} (husage : l.kind.usage? = some usage)
    (h : compile scope config (.leaf l) = .ok q) :
    ∃ chain, q.predicate = (Predicate.leaf l).within chain.scopes ∧
      q.leaves = [⟨l.fields, usage, l.kind.analysis, chain, false⟩] ∧
      l.check = .ok () ∧ l.fields ≠ [] ∧
      ∀ f ∈ l.fields, Placement.FieldResolves scope config usage chain f := by
  obtain ⟨r, hr, hpredicate, hleaves, -⟩ := compile_ok h
  rw [place_leaf] at hr
  obtain ⟨hcheck, ⟨hnone, -⟩ | ⟨usage', fields, chain, hsome, hfields, rfl⟩⟩ :=
    Placement.leaf_ok hr
  · cases hnone.symm.trans husage
  · cases hsome.symm.trans husage
    obtain ⟨hpaths, hresolves, -⟩ := Placement.resolveFields_ok hfields
    have hsame : fields = l.fields := hpaths.trans (List.map_id _)
    rw [hsame] at hpredicate hleaves hresolves
    exact ⟨chain, hpredicate, hleaves, hcheck, Placement.fields_ne_nil_of_check hcheck husage,
      hresolves⟩

/-- The scopes of a leaf on its own lie inside one another. -/
theorem compile_leaf_ok {l : Leaf} (husage : l.kind.usage?.isSome = true)
    (h : compile scope config (.leaf l) = .ok q) :
    ∃ usage chain, q.predicate = (Predicate.leaf l).within chain.scopes ∧
      q.leaves = [⟨l.fields, usage, l.kind.analysis, chain, false⟩] ∧
      chain.paths.Pairwise fun a b => a.isAncestorOf b = true := by
  obtain ⟨usage, husage⟩ := Option.isSome_iff_exists.mp husage
  obtain ⟨chain, hpredicate, hleaves, -, hne, hresolves⟩ := compile_leaf_resolves husage h
  obtain ⟨f, hf⟩ := List.exists_mem_of_ne_nil _ hne
  obtain ⟨resolution, hresolution, rfl, -⟩ := hresolves f hf
  obtain ⟨i, -, node, -, hchain⟩ := (SearchScope.agreement hresolution).exists_chain
  refine ⟨usage, resolution.chain, hpredicate, hleaves, ?_⟩
  rw [← hchain]
  exact Definition.paths_chainTo_pairwise _ f

/-- In a single index a leaf compiles if its fields resolve and share a chain. -/
theorem compile_leaf_single {i : TargetIndex} {l : Leaf} {usage : Usage} {chain : NestingChain}
    (hcount : 0 < config.maxClauseCount) (hcheck : l.check = .ok ())
    (husage : l.kind.usage? = some usage) (hne : l.fields ≠ [])
    (h : ∀ f ∈ l.fields, Placement.FieldResolves (.single i) config usage chain f) :
    ∃ q, compile (.single i) config (.leaf l) = .ok q ∧
      q.predicate = (Predicate.leaf l).within chain.scopes := by
  have hleaf : place (.single i) config (.leaf l) = .ok
      ⟨(Predicate.leaf l).within chain.scopes,
        [⟨l.fields, usage, l.kind.analysis, chain, false⟩], []⟩ := by
    have hroom : ¬config.maxClauseCount < 0 + 1 := by omega
    rw [place_leaf, Placement.leaf, if_neg hroom, hcheck]
    simp only [husage]
    rw [show Frame.top.root = none from rfl,
      Placement.resolveFields_of_resolves (by simp) (fun _ => hne) h]
    rfl
  unfold compile
  rw [hleaf]
  exact ⟨_, rfl, rfl⟩

end NestedSearch
