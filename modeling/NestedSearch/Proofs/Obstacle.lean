import Mathlib.Data.List.Basic
import Mathlib.Order.WellFounded
import NestedSearch.Proofs.Outcome
import NestedSearch.Proofs.Resolution

/-!
# Where following a path stops

A path leads nowhere because of one of its ancestors, itself included: one where the schema has no
field, or a value field with more of the path still to follow. The first of them is where a descent
stops, and it decides which error is reported and every field of it (`resolve_eq_error_iff`). So
a resolution is told from `Definition.node?` alone, in success and in failure.

There is no induction over the descent in this file. `descend_append` cuts a descent at the
obstacle: above it lie objects only, which `descend_eq_ok_iff` passes, and what is left to look at
is one segment.
-/

namespace NestedSearch

namespace Definition

/-- Whether no descent along the path gets past `q`. -/
def Obstructs (d : Definition) (p q : FieldPath) : Prop :=
  d.node? q = none ∨ q.length < p.length ∧ ∃ f, d.node? q = some (.value f)

/-- The shortest ancestor of a path, itself included, that no descent gets past. -/
structure StopsAt (d : Definition) (p q : FieldPath) : Prop where
  onPath : p.startsWith q = true
  obstructs : d.Obstructs p q
  shortest : ∀ q', p.startsWith q' = true → d.Obstructs p q' → q.length ≤ q'.length

/-- What is reported about a path that stops at `q`. -/
def obstacleError (d : Definition) (p q : FieldPath) : SchemaError :=
  match d.node? q with
  | none => .unknownField d.index p q
  | some _ => .wrongNodeKind d.index q .object .value

/-! ## There is one obstacle, or a node -/

/-- A path without a node stops somewhere. -/
theorem exists_stopsAt {d : Definition} {p : FieldPath} (h : d.node? p = none) :
    ∃ q, d.StopsAt p q := by
  obtain ⟨q, ⟨honPath, hobstructs⟩, hmin⟩ :=
    (measure FieldPath.length).wf.has_min {q | p.startsWith q = true ∧ d.Obstructs p q}
      ⟨p, FieldPath.startsWith_self p, .inl h⟩
  exact ⟨q, honPath, hobstructs, fun q' hq' hob => Nat.le_of_not_lt (hmin q' ⟨hq', hob⟩)⟩

/-- There is nothing below a value field. -/
theorem node?_join_of_value {d : Definition} {q : FieldPath} {f : ValueField}
    (h : d.node? q = some (.value f)) (r : FieldPath) : d.node? (q.join r) = none := by
  rw [node?_join, h, Option.bind_some]
  obtain ⟨s, rest⟩ := r
  cases rest <;> rfl

namespace StopsAt

variable {d : Definition} {p q : FieldPath}

/-- A path that stops has no node. -/
theorem node?_eq_none (h : d.StopsAt p q) : d.node? p = none := by
  rcases FieldPath.startsWith_iff_eq_or_join.mp h.onPath with rfl | ⟨r, rfl⟩
  · rcases h.obstructs with hnone | ⟨hlt, -⟩
    · exact hnone
    · exact absurd hlt (Nat.lt_irrefl _)
  · rcases h.obstructs with hnone | ⟨-, f, hf⟩
    · rw [node?_join, hnone, Option.bind_none]
    · exact node?_join_of_value hf r

/-- Above the obstacle there are objects only. -/
theorem object_above (h : d.StopsAt p q) {a : FieldPath} (ha : a.isAncestorOf q = true) :
    ∃ storage multiValued children, d.node? a = some (.object storage multiValued children) := by
  obtain ⟨r, rfl⟩ := FieldPath.isAncestorOf_iff.mp ha
  have hr := r.length_pos
  have hlen : (a.join r).length = a.length + r.length := FieldPath.length_join a r
  have honPath : p.startsWith a = true :=
    FieldPath.startsWith_trans h.onPath (FieldPath.startsWith_join a r)
  have hle := FieldPath.length_le_of_startsWith h.onPath
  -- Anything else at `a` would be an obstacle before the first one.
  have hclear : ¬ d.Obstructs p a := fun hob => by
    have hshort := h.shortest a honPath hob
    omega
  cases hnode : d.node? a with
  | none => exact absurd (.inl hnode) hclear
  | some node =>
    cases node with
    | value f => exact absurd (.inr ⟨by omega, f, hnode⟩) hclear
    | object storage multiValued children => exact ⟨storage, multiValued, children, rfl⟩

end StopsAt

/-! ## Descending to the obstacle -/

/-- A descent through objects to a field that is not there names that field. -/
theorem descend_unknown {d : Definition} {q : FieldPath} (full : FieldPath)
    (hq : d.node? q = none)
    (habove : ∀ a : FieldPath, a.isAncestorOf q = true →
      ∃ storage multiValued children, d.node? a = some (.object storage multiValued children)) :
    descend d.index full d.fields .empty none q.head q.tail =
      .error (.unknownField d.index full q) := by
  obtain ⟨s, rest⟩ := q
  rcases List.eq_nil_or_concat' rest with rfl | ⟨above, last, rfl⟩
  · have hfind : d.fields.find? s.name = none := hq
    rw [descend, hfind]
    rfl
  · have hsplit : (⟨s, above ++ [last]⟩ : FieldPath) = .join ⟨s, above⟩ ⟨last, []⟩ := rfl
    obtain ⟨storage, multiValued, children, hnode⟩ :=
      habove ⟨s, above⟩ (FieldPath.isAncestorOf_iff.mpr ⟨_, hsplit⟩)
    have hfind : Fields.find? children last.name = none := by
      rw [hsplit, node?_join, hnode, Option.bind_some] at hq
      exact hq
    show descend d.index full d.fields .empty none s (above ++ [last]) = _
    rw [descend_append, descend_eq_ok_iff.mpr ⟨_, hnode, rfl⟩]
    show descend d.index full children _ _ last [] = _
    rw [descend, hfind]
    rfl

/-- **The error of a path is that of its obstacle.** -/
theorem resolve_of_stopsAt {d : Definition} {p q : FieldPath} (h : d.StopsAt p q) :
    d.resolve p = .error (d.obstacleError p q) := by
  have hstart : d.node? q = none → descend d.index p d.fields .empty none q.head q.tail =
      .error (.unknownField d.index p q) :=
    fun hq => descend_unknown p hq fun a ha => h.object_above ha
  rcases FieldPath.startsWith_iff_eq_or_join.mp h.onPath with rfl | ⟨r, hr⟩
  · unfold obstacleError
    rw [h.node?_eq_none]
    exact hstart h.node?_eq_none
  · have hcut : d.resolve p =
        descend d.index p d.fields .empty none q.head (q.tail ++ r.head :: r.tail) := by
      subst hr
      rfl
    rw [hcut, descend_append]
    unfold obstacleError
    rcases h.obstructs with hq | ⟨-, f, hq⟩
    · rw [hstart hq, hq]
    · rw [descend_eq_ok_iff.mpr ⟨_, hq, rfl⟩, hq]
      rfl

/-- A path fails at its obstacle, and only so. -/
theorem resolve_eq_error_iff {d : Definition} {p : FieldPath} {e : SchemaError} :
    d.resolve p = .error e ↔ ∃ q, d.StopsAt p q ∧ e = d.obstacleError p q := by
  constructor
  · intro h
    have hnone : d.node? p = none := by
      cases hnode : d.node? p with
      | none => rfl
      | some node =>
        rw [resolve_eq_ok_iff.mpr ⟨node, hnode, rfl⟩] at h
        cases h
    obtain ⟨q, hq⟩ := exists_stopsAt hnone
    rw [resolve_of_stopsAt hq] at h
    exact ⟨q, hq, (Except.error.inj h).symm⟩
  · rintro ⟨q, hq, rfl⟩
    exact resolve_of_stopsAt hq

/-- The same with the two errors apart. -/
theorem obstacleError_eq_iff {d : Definition} {p q : FieldPath} {e : SchemaError}
    (h : d.StopsAt p q) :
    e = d.obstacleError p q ↔
      d.node? q = none ∧ e = .unknownField d.index p q ∨
        (∃ f, d.node? q = some (.value f)) ∧ e = .wrongNodeKind d.index q .object .value := by
  unfold obstacleError
  rcases h.obstructs with hq | ⟨-, f, hq⟩
  · simp [hq]
  · simp [hq]

/-! ## Resolutions -/

/-- What is resolved if a path leads somewhere: the node, and the nested objects on the way to it
    as a chain. -/
structure Reaches (d : Definition) (p : FieldPath) (r : Resolution) : Prop where
  index : r.index = d.index
  path : r.path = p
  node : d.node? p = some r.node
  scopes : r.chain.scopes =
    (p.ancestors.filter fun q => (d.node? q).any Node.isNested).map fun q => ⟨q, .nested⟩
  mem_chain : ∀ q, q ∈ r.chain.paths ↔
    p.startsWith q = true ∧
      ∃ multiValued children, d.node? q = some (.object .nested multiValued children)
  ordered : r.chain.paths.Pairwise fun a b => a.isAncestorOf b = true
  flattened : ∀ q multiValued children,
    d.node? q = some (.object .flattened multiValued children) → q ∉ r.chain.paths

theorem reaches_of_node? {d : Definition} {p : FieldPath} {node : Node}
    (h : d.node? p = some node) : d.Reaches p ⟨d.index, p, d.chainTo p, node⟩ where
  index := rfl
  path := rfl
  node := h
  scopes := rfl
  mem_chain q := by
    rw [paths_chainTo, List.mem_filter, FieldPath.mem_ancestors_iff]
    refine and_congr_right fun _ => ?_
    cases d.node? q with
    | none => simp
    | some node =>
      cases node with
      | value f => simp [Node.isNested]
      | object storage multiValued children => cases storage <;> simp [Node.isNested]
  ordered := paths_chainTo_pairwise d p
  flattened q multiValued children hq hmem := by
    rw [paths_chainTo, List.mem_filter, hq] at hmem
    cases hmem.2

/-- **Resolution is exact.** It succeeds where there is a node and gives what is there; else it
    reports the first obstacle on the path. -/
theorem resolve_exact (d : Definition) (p : FieldPath) :
    ((∃ r, d.resolve p = .ok r) ↔ ∃ node, d.node? p = some node) ∧
      (∀ r, d.resolve p = .ok r → d.Reaches p r) ∧
      ∀ e, d.resolve p = .error e ↔ ∃ q, d.StopsAt p q ∧
        (d.node? q = none ∧ e = .unknownField d.index p q ∨
          (∃ f, d.node? q = some (.value f)) ∧ e = .wrongNodeKind d.index q .object .value) := by
  refine ⟨⟨?_, ?_⟩, ?_, ?_⟩
  · rintro ⟨r, hr⟩
    obtain ⟨node, hnode, -⟩ := resolve_eq_ok_iff.mp hr
    exact ⟨node, hnode⟩
  · rintro ⟨node, hnode⟩
    exact ⟨_, resolve_eq_ok_iff.mpr ⟨node, hnode, rfl⟩⟩
  · intro r hr
    obtain ⟨node, hnode, rfl⟩ := resolve_eq_ok_iff.mp hr
    exact reaches_of_node? hnode
  · intro e
    rw [resolve_eq_error_iff]
    exact exists_congr fun q => and_congr_right obstacleError_eq_iff

/-- **A relative path is resolved like the joined one**, whether it leads somewhere or not: the
    obstacle may lie at the root, above it or below it, and is reported alike. -/
theorem resolveFrom_exact (d : Definition) (root p : FieldPath) :
    d.resolveFrom (some root) p = d.resolve (root.join p) ∧
      (∀ r, d.resolveFrom (some root) p = .ok r ↔
        ∃ node, d.node? (root.join p) = some node ∧
          r = ⟨d.index, root.join p, d.chainTo (root.join p), node⟩) ∧
      ∀ e, d.resolveFrom (some root) p = .error e ↔
        ∃ q, d.StopsAt (root.join p) q ∧ e = d.obstacleError (root.join p) q := by
  have hjoin : d.resolveFrom (some root) p = d.resolve (root.join p) :=
    resolveFrom_eq_resolve d (some root) p
  refine ⟨hjoin, fun r => ?_, fun e => ?_⟩
  · rw [hjoin]
    exact resolve_eq_ok_iff
  · rw [hjoin]
    exact resolve_eq_error_iff

end Definition

/-! ## A ledger -/

namespace Sample

/-- Entries are nested. Their remarks are part of them, and the accounts named in a remark are nested
    again. -/
def ledger : Definition where
  index := "ledger"
  fields :=
    [("entry", .object .nested true
      [("remark", .object .flattened false
        [("account", .object .nested true [("currency", .value (.ofType .string))])])])]

def currencyPath : FieldPath :=
  ⟨.literal "entry", [.literal "remark", .literal "account", .literal "currency"]⟩

/-- A path that goes on where there is nothing but a value. -/
def codePath : FieldPath := currencyPath.join ⟨.literal "code", []⟩

end Sample

/-- The currency is found, and the chain that `resolve_exact` describes passes over the remark. What
    is below the currency is not found, because of the currency. -/
theorem resolve_exact_ledger :
    (∃ r, Sample.ledger.resolve Sample.currencyPath = .ok r ∧
      r.chain.paths.map FieldPath.toString = ["entry", "entry.remark.account"] ∧
      Sample.ledger.Reaches Sample.currencyPath r) ∧
    Sample.ledger.resolve Sample.codePath =
      .error (.wrongNodeKind "ledger" Sample.currencyPath .object .value) ∧
    Sample.ledger.StopsAt Sample.codePath Sample.currencyPath := by
  constructor
  · have hfound : (Sample.ledger.resolve Sample.currencyPath).toOption.map
        (fun r => r.chain.paths.map FieldPath.toString) = some ["entry", "entry.remark.account"] := by
      decide +kernel
    obtain ⟨r, hr, hpaths⟩ := Option.map_eq_some_iff.mp hfound
    have hresolve := toOption_eq_some_iff.mp hr
    exact ⟨r, hresolve, hpaths,
      (Definition.resolve_exact Sample.ledger Sample.currencyPath).2.1 r hresolve⟩
  · have herror : Sample.ledger.resolve Sample.codePath =
        .error (.wrongNodeKind "ledger" Sample.currencyPath .object .value) := by
      rfl
    obtain ⟨q, hstops, ⟨-, hcause⟩ | ⟨-, hcause⟩⟩ :=
      ((Definition.resolve_exact Sample.ledger Sample.codePath).2.2 _).mp herror
    · cases hcause
    · cases hcause
      exact ⟨herror, hstops⟩

end NestedSearch
