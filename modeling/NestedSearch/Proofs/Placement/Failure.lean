import NestedSearch.Proofs.Placement.Limits
import NestedSearch.Proofs.Restriction.Placement

/-!
# Where a placement fails

A failure has no derivation, but it has a place: the placement of a query fails where the step of
one node does, or at a limit (`Site.Fails`), and nowhere else (`exists_failure`). The errors of
these steps are few. Something is wrong with a path (`PathError`), a leaf or a boost breaks a rule,
or a name stands for nothing.
-/

namespace NestedSearch
namespace Placement

open Relation (ReflTransGen)

/-! ## Sites -/

/-- What stands at a site fails there, and not in one of its parts. -/
inductive Site.Fails (scope : SearchScope) (config : CompilerConfig) : Site → QueryError → Prop
  /-- There is no room for a leaf. -/
  | full {frame : Frame} {l : Leaf} {depth : Nat} :
      Fails scope config ⟨frame, .leaf l, depth⟩ (.tooManyClauses config.maxClauseCount)
  | leaf {frame : Frame} {l : Leaf} {depth : Nat} {e : QueryError}
      (h : settle scope config frame l = .error e) : Fails scope config ⟨frame, .leaf l, depth⟩ e
  | nested {frame : Frame} {path : FieldPath} {inner : Predicate} {depth : Nat} {e : QueryError}
      (h : enter scope frame path = .error e) :
      Fails scope config ⟨frame, .nested path inner, depth⟩ e
  /-- Too many names stand inside one another. -/
  | deep {frame : Frame} {name : String} {params : ParamBag} {depth : Nat} :
      Fails scope config ⟨frame, .named name params, depth⟩
        (.namedPredicateRecursion name config.maxExpansionDepth)
  | named {frame : Frame} {name : String} {params : ParamBag} {depth : Nat} {e : QueryError}
      (h : invoke scope frame name params = .error e) :
      Fails scope config ⟨frame, .named name params, depth⟩ e
  | boosted {frame : Frame} {inner : Predicate} {boost : Float32} {depth : Nat}
      {fault : PredicateFault} (h : checkBoost boost = .error fault) :
      Fails scope config ⟨frame, .boosted inner boost, depth⟩ (.invalidPredicate fault)

variable {scope : SearchScope} {config : CompilerConfig} {e : QueryError}

/-! ## Steps -/

/-- Something is wrong with a path, or with what it is used for. -/
inductive PathError (scope : SearchScope) : QueryError → Prop
  | resolve {p : FieldPath} {usage : Usage} {e : QueryError}
      (h : scope.resolve none p usage = .error e) : PathError scope e
  | unsupported (field : FieldPath) (usage : Usage) (index : String) :
      PathError scope (.unsupportedUsage field usage index)
  /-- Two fields of one leaf need different scopes. -/
  | chains (field : FieldPath) (chain : NestingChain) (otherField : FieldPath)
      (otherChain : NestingChain) :
      PathError scope (.crossNestedPath field chain otherField otherChain)

theorem PathError.of_resolve {root : Option FieldPath} {p : FieldPath} {usage : Usage}
    (h : scope.resolve root p usage = .error e) : PathError scope e := by
  rw [SearchScope.resolve_joinUnder] at h
  exact .resolve h

theorem PathError.of_require {r : ScopedResolution} {usage : Usage}
    (h : r.require usage = .error e) : PathError scope e := by
  obtain ⟨field, index, rfl⟩ := SearchScope.require_error h
  exact .unsupported field usage index

theorem resolveFields_error {root : Option FieldPath} {usage : Usage}
    {first : Option (FieldPath × NestingChain)} {fields : List FieldPath}
    (h : resolveFields scope config root usage first fields = .error e) : PathError scope e := by
  induction fields generalizing first with
  | nil => cases h
  | cons field rest ih =>
    rw [resolveFields] at h
    rcases bind_eq_error_iff.mp h with h | ⟨r, -, h⟩
    · exact .of_resolve h
    rcases error_of_demand h with h | h
    · exact .of_require h
    cases first with
    | none =>
      rcases bind_eq_error_iff.mp h with h | ⟨_, -, h⟩
      · exact ih h
      · cases h
    | some x =>
      rcases error_of_demand h with h | h
      · cases h
        exact .chains ..
      rcases bind_eq_error_iff.mp h with h | ⟨_, -, h⟩
      · exact ih h
      · cases h

/-- Why a leaf is not placed, if there is room for it: it breaks a rule, or a path is wrong. -/
theorem settle_error {frame : Frame} {l : Leaf} (h : settle scope config frame l = .error e) :
    (∃ fault, l.check = .error fault ∧ e = .invalidPredicate fault) ∨ PathError scope e := by
  unfold settle at h
  cases hcheck : l.check with
  | error fault =>
    rw [hcheck] at h
    cases h
    exact .inl ⟨fault, rfl, rfl⟩
  | ok _ =>
    rw [hcheck] at h
    cases husage : l.kind.usage? with
    | none =>
      rw [husage] at h
      cases h
    | some usage =>
      rw [husage] at h
      rcases bind_eq_error_iff.mp h with h | ⟨_, -, h⟩
      · exact .inr (resolveFields_error h)
      · cases h

theorem enter_error {frame : Frame} {path : FieldPath} (h : enter scope frame path = .error e) :
    PathError scope e := by
  rcases bind_eq_error_iff.mp h with h | ⟨outer, -, h⟩
  · exact .of_resolve h
  rcases bind_eq_error_iff.mp h with h | ⟨_, -, h⟩
  · exact .of_require h
  · cases h

theorem target_error {frame : Frame} {full : FieldPath} (h : target scope frame full = .error e) :
    PathError scope e := by
  unfold target at h
  cases hparent : full.parent? with
  | none =>
    rw [hparent] at h
    cases h
  | some place =>
    rw [hparent] at h
    rcases bind_eq_error_iff.mp h with h | ⟨r, -, h⟩
    · exact .of_resolve h
    rcases error_of_demand h with h | h
    · exact .of_require h
    · cases h

/-- A registered provider answers an invocation like this. -/
def Answers (scope : SearchScope) (answer : Except QueryError Predicate) : Prop :=
  ∃ i ∈ scope.indexes, ∃ r ∈ i.named.registrations, ∃ invocation,
    r.provider.provide invocation = answer

theorem answers_of_lookup {node : Option FieldPath} {name : String} {full : FieldPath}
    {provider : Provider} (h : lookup scope node name full = .ok provider)
    (invocation : Invocation) : Answers scope (provider.provide invocation) := by
  obtain ⟨i, hi, r, hr, -, rfl⟩ := exists_registration_of_lookup h
  exact ⟨i, hi, r, hr, invocation, rfl⟩

/-- Why a name stands for nothing: it is no path, its path is wrong, no provider is found, or the
    provider refuses. -/
theorem invoke_error {frame : Frame} {name : String} {params : ParamBag}
    (h : invoke scope frame name params = .error e) :
    (∃ cause, e = .schema cause) ∨ PathError scope e ∨
      (∃ node short full, lookup scope node short full = .error e) ∨ Answers scope (.error e) := by
  unfold invoke at h
  cases hfull : FieldPath.parse name with
  | error cause =>
    rw [hfull] at h
    cases h
    exact .inl ⟨_, rfl⟩
  | ok full =>
    rw [hfull] at h
    rcases bind_eq_error_iff.mp h with h | ⟨⟨node, residual⟩, -, h⟩
    · exact .inr (.inl (target_error h))
    rcases bind_eq_error_iff.mp h with h | ⟨provider, hprovider, h⟩
    · exact .inr (.inr (.inl ⟨node, _, full, h⟩))
    rcases bind_eq_error_iff.mp h with h | ⟨produced, -, h⟩
    · exact .inr (.inr (.inr (h ▸ answers_of_lookup hprovider ⟨name, params⟩)))
    · cases h

/-! ## Queries -/

/-- Some site that the query unfolds to fails with this error. -/
def Site.Meets (scope : SearchScope) (config : CompilerConfig) (s : Site) (e : QueryError) : Prop :=
  ∃ s', ReflTransGen (Leads scope) s s' ∧ s'.Fails scope config e

theorem Site.Fails.meets {s : Site} (h : s.Fails scope config e) : s.Meets scope config e :=
  ⟨s, .refl, h⟩

theorem Leads.meets {s s' : Site} (hlead : Leads scope s s') (h : s'.Meets scope config e) :
    s.Meets scope config e := by
  obtain ⟨s'', hs, hfails⟩ := h
  exact ⟨s'', .head hlead hs, hfails⟩

/-- **A placement fails at one site**, with the error that this site fails with. -/
theorem exists_failure {depth : Nat} {frame : Frame} {p : Predicate} {used : Nat}
    (h : expanding scope config depth frame used p = .error e) (reached : Nat) :
    Site.Meets scope config ⟨frame, p, reached⟩ e := by
  induction depth, frame, p using expanding_induction generalizing used reached with
  | leaf depth frame l =>
    rw [expanding_settle] at h
    split at h
    · cases h
      exact Site.Fails.full.meets
    · exact (Site.Fails.leaf h).meets
  | noClause depth frame operator =>
    rw [expanding_noClause] at h
    cases h
  | clause depth frame operator p ps ihp ihps =>
    rw [expanding_clause] at h
    rcases bind_eq_error_iff.mp h with h | ⟨r, -, h⟩
    · exact (Leads.clause List.mem_cons_self).meets (ihp h reached)
    · -- The other clauses are clauses of the longer combination as well.
      obtain ⟨s, hs, hfails⟩ := ihps (map_eq_error_iff.mp h) reached
      rcases hs.cases_head with rfl | ⟨next, hfirst, hrest⟩
      · cases hfails
      · cases hfirst with
        | clause hq =>
          exact (Leads.clause (List.mem_cons_of_mem p hq)).meets ⟨s, hrest, hfails⟩
  | not depth frame inner ih =>
    rw [expanding_not] at h
    exact Leads.not.meets (ih (map_eq_error_iff.mp h) reached)
  | nested depth frame path inner ih =>
    rw [expanding_enter] at h
    rcases bind_eq_error_iff.mp h with h | ⟨outer, houter, h⟩
    · exact (Site.Fails.nested h).meets
    · obtain ⟨houter, hrequire⟩ := enter_eq_ok_iff.mp houter
      exact (Leads.nested houter hrequire).meets (ih _ (map_eq_error_iff.mp h) reached)
  | boosted depth frame inner boost ih =>
    rw [expanding_boost] at h
    cases hboost : checkBoost boost with
    | error fault =>
      rw [hboost] at h
      cases h
      exact (Site.Fails.boosted hboost).meets
    | ok _ =>
      rw [hboost] at h
      exact (Leads.boosted hboost).meets (ih (map_eq_error_iff.mp h) reached)
  | constantScore depth frame inner ih =>
    rw [expanding_constantScore] at h
    exact Leads.constantScore.meets (ih (map_eq_error_iff.mp h) reached)
  | unexpanded frame name params =>
    rw [expanding_none] at h
    cases h
    exact Site.Fails.deep.meets
  | named depth frame name params ih =>
    rw [expanding_invoke] at h
    rcases bind_eq_error_iff.mp h with h | ⟨x, hx, h⟩
    · exact (Site.Fails.named h).meets
    · obtain ⟨full, provider, hfull, htarget, hprovider, hproduced⟩ := invoke_eq_ok_iff.mp hx
      exact (Leads.named hfull htarget hprovider hproduced).meets
        (ih _ _ (map_eq_error_iff.mp h) (reached + 1))

end Placement
end NestedSearch
