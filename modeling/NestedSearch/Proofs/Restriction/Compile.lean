import NestedSearch.Proofs.Compile
import NestedSearch.Proofs.Fingerprint
import NestedSearch.Proofs.Restriction.Placement

/-!
# Compiling for a part of the indexes

After placement the fields are compared across the indexes. Two indexes that differ in what a usage
depends on still do so when there are others, so a comparison that lets a field pass in a scope
lets it pass in any part of it (`SearchScope.Uniform.of_part`).
-/

namespace NestedSearch

variable {s s' : SearchScope} {config : CompilerConfig}

/-! ## Comparing fields -/

theorem SearchScope.Uniform.of_part {path : FieldPath} {request : CompatibilityRequest}
    (h : s'.Uniform path request) (hpart : s.indexes ⊆ s'.indexes) : s.Uniform path request :=
  fun l hl r hr => h l (resolutions_subset hpart hl) r (resolutions_subset hpart hr)

/-- In a single index there is nothing to differ from. -/
theorem SearchScope.uniform_of_single (h : s.isMultiIndex = false) (path : FieldPath)
    (request : CompatibilityRequest) : s.Uniform path request := by
  obtain ⟨i, rest, hindexes⟩ := List.exists_cons_of_ne_nil s.nonempty
  have honly : s.indexes = [i] := by
    simpa [isMultiIndex, hindexes, List.length_eq_zero_iff] using h
  intro l hl r hr
  rw [resolutions, honly] at hl hr
  cases hi : i.schema.resolve path with
  | error e => simp [hi, Except.toOption] at hl
  | ok resolution =>
    simp [hi, Except.toOption] at hl hr
    rw [hl, hr]

/-- A conflict over a field does not fail the query. -/
def FieldCheck.PassesIn (c : FieldCheck) (s : SearchScope) (policy : OptionalConflictPolicy) :
    Prop :=
  s.Uniform c.field c.request ∨ (c.optional = true ∧ policy ≠ .fail)

theorem FieldCheck.PassesIn.of_part {c : FieldCheck} {policy : OptionalConflictPolicy}
    (h : c.PassesIn s' policy) (hpart : s.indexes ⊆ s'.indexes) : c.PassesIn s policy :=
  h.imp (·.of_part hpart) id

theorem FieldCheck.conflict?_eq_none_iff {c : FieldCheck}
    (hresolve : ∃ r, s.resolve none c.field c.request.usage = .ok r) :
    c.conflict? s.schemas = none ↔ s.Uniform c.field c.request := by
  obtain ⟨r, hr⟩ := hresolve
  obtain ⟨v, hv, huniform⟩ := exists_verdict_of_resolve_scope hr c.request
  rw [FieldCheck.conflict?_eq hv, ← huniform]
  cases v <;> simp [Verdict.isConflicting, Verdict.conflict?]

theorem FieldCheck.failure?_eq_none_iff {policy : OptionalConflictPolicy} {c : FieldCheck}
    (hresolve : ∃ r, s.resolve none c.field c.request.usage = .ok r) :
    c.failure? s.schemas policy = none ↔ c.PassesIn s policy := by
  rw [FieldCheck.failure?, FieldCheck.PassesIn, ← FieldCheck.conflict?_eq_none_iff hresolve]
  cases c.optional <;> cases policy <;> simp

/-! ## Queries -/

/-- A single index takes part in the comparison as others do. -/
theorem comparison_outcome {p : Predicate} {r : Placed} (h : place s config p = .ok r) :
    (∃ diagnostics, comparison s config r = .ok diagnostics ∧
        (∀ c ∈ r.checks, c.PassesIn s config.optionalConflicts) ∧
        (diagnostics = [] ↔ ∀ c ∈ r.checks, s.Uniform c.field c.request)) ∨
      (∃ report, comparison s config r = .error (.conflict report) ∧
        ∃ c ∈ r.checks, ¬ c.PassesIn s config.optionalConflicts) := by
  have hresolve := (derivation_of_place h).resolve_checks
  rw [comparison_eq h]
  cases hmulti : s.isMultiIndex with
  | true =>
    obtain ⟨c, hc, report, hfailure, hjudge⟩ | ⟨hpasses, hjudge⟩ :=
      judge_cases s.schemas config.optionalConflicts [] r.checks
    · refine .inr ⟨report, hjudge, c, hc, fun hpasses => ?_⟩
      cases hfailure.symm.trans ((FieldCheck.failure?_eq_none_iff (hresolve c hc)).mpr hpasses)
    · refine .inl ⟨_, hjudge, ?_, ?_⟩
      · intro c hc
        exact (FieldCheck.failure?_eq_none_iff (hresolve c hc)).mp (hpasses c hc)
      · rw [eraseDups_eq_nil_iff, List.nil_append, List.map_eq_nil_iff, List.filterMap_eq_nil_iff]
        exact forall₂_congr fun c hc => FieldCheck.conflict?_eq_none_iff (hresolve c hc)
  | false =>
    have huniform := fun c : FieldCheck => s.uniform_of_single hmulti c.field c.request
    exact .inl ⟨[], rfl, fun c _ => .inl (huniform c), by simp [huniform]⟩

theorem comparison_restricted (hpart : s.indexes ⊆ s'.indexes) {p : Predicate} {r : Placed}
    (h' : place s' config p = .ok r) (h : place s config p = .ok r) :
    Restricted (s'.indexes ⊆ s.indexes)
      (fun ds' ds => s'.indexes ⊆ s.indexes → (ds' = [] ↔ ds = []))
      (comparison s' config r) (comparison s config r) := by
  obtain ⟨ds', hok', hpass', hnil'⟩ | ⟨report', herror', c, hc, hfails⟩ := comparison_outcome h'
  · obtain ⟨ds, hok, -, hnil⟩ | ⟨-, -, c, hc, hfails⟩ := comparison_outcome h
    · rw [hok', hok]
      refine .both fun hwhole => ?_
      rw [hnil', hnil]
      exact forall₂_congr fun c _ => ⟨(·.of_part hpart), (·.of_part hwhole)⟩
    · exact absurd ((hpass' c hc).of_part hpart) hfails
  · rw [herror']
    obtain ⟨ds, hok, hpass, -⟩ | ⟨report, herror, -⟩ := comparison_outcome h
    · rw [hok]
      exact .onlyPart fun hwhole => hfails ((hpass c hc).of_part hwhole)
    · rw [herror]
      exact .neither fun _ => rfl

/-- What two compiled queries have in common, the more if they are for the same indexes. -/
structure CompiledAlike (whole : Prop) (q' q : CompiledQuery) : Prop where
  predicate_eq : q'.predicate = q.predicate
  leaves_eq : q'.leaves = q.leaves
  indexes_eq : whole → q'.indexes = q.indexes
  diagnostics_iff : whole → (q'.diagnostics = [] ↔ q.diagnostics = [])

/-- **Compiling for a scope and for a part of it** gives the same query, if it succeeds in both. -/
theorem compile_restricted (hpart : s.indexes ⊆ s'.indexes) (hkeys : s'.KeysIdentify)
    (config : CompilerConfig) (p : Predicate) :
    Restricted (s'.indexes ⊆ s.indexes) (CompiledAlike (s'.indexes ⊆ s.indexes))
      (compile s' config p) (compile s config p) := by
  rw [compile_eq, compile_eq]
  refine (place_restricted hpart hkeys config p).withOutcomes.bind fun r' r ⟨heq, h', h⟩ => ?_
  subst heq
  refine (comparison_restricted hpart h' h).bind fun ds' ds hnil => .both ?_
  exact {
    predicate_eq := rfl
    leaves_eq := rfl
    indexes_eq := fun hwhole => SearchScope.indexNames_eq_of_mem_iff fun name => by
      rw [SearchScope.mem_indexNames_iff, SearchScope.mem_indexNames_iff]
      exact ⟨fun ⟨i, hi, hname⟩ => ⟨i, hwhole hi, hname⟩, fun ⟨i, hi, hname⟩ => ⟨i, hpart hi, hname⟩⟩
    diagnostics_iff := hnil }

end NestedSearch
