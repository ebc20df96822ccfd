import NestedSearch.Proofs.Placement.Derivation

/-!
# Paths that stay inside their scope

A scope is evaluated on one instance of its object, and only paths that lead into the object have a
meaning there. `Predicate.Contained` says that a tree keeps to this: every path in it, of a leaf
or of a further scope, begins with the path of the innermost scope around it, and no name is left
that would still have to be expanded.

Placed predicates are contained (`contained_of_place`). The invariant is that the scope that is open
encloses the root of the frame: what is written below the root then leads into the open scope,
and the scopes that are still to be opened lie between the two.
-/

namespace NestedSearch

/-- Whether the path leads into the object at `base`; every path leads into the whole document. -/
def FieldPath.IsIn (base : Option FieldPath) (p : FieldPath) : Prop :=
  ∀ b, base = some b → p.startsWith b = true

theorem FieldPath.isIn_some {p b : FieldPath} : p.IsIn (some b) ↔ p.startsWith b = true := by
  constructor
  · intro h
    exact h b rfl
  · intro h c hc
    cases hc
    exact h

/-- What leads into an object leads into everything that the object lies in. -/
theorem FieldPath.IsIn.trans {base : Option FieldPath} {p q : FieldPath} (h : q.IsIn base)
    (hp : p.startsWith q = true) : p.IsIn base := by
  intro b hb
  exact startsWith_trans hp (h b hb)

namespace Predicate

/-- Every path in the tree leads into the innermost scope around it, which for the tree as a whole is
    the object at `base`, and every name has been expanded. -/
inductive Contained : Option FieldPath → Predicate → Prop
  | leaf {base : Option FieldPath} {l : Leaf} (h : ∀ f ∈ l.fields, f.IsIn base) :
      Contained base (.leaf l)
  | bool {base : Option FieldPath} {operator : BoolOperator} {clauses : List Predicate}
      (h : ∀ p ∈ clauses, Contained base p) : Contained base (.bool operator clauses)
  | not {base : Option FieldPath} {inner : Predicate} (h : Contained base inner) :
      Contained base (.not inner)
  | nested {base : Option FieldPath} {path : FieldPath} {inner : Predicate}
      (hpath : path.IsIn base) (h : Contained (some path) inner) :
      Contained base (.nested path inner)
  | boosted {base : Option FieldPath} {inner : Predicate} {boost : Float32}
      (h : Contained base inner) : Contained base (.boosted inner boost)
  | constantScore {base : Option FieldPath} {inner : Predicate} (h : Contained base inner) :
      Contained base (.constantScore inner)

/-- A tree that keeps to an object keeps to whatever encloses that object. -/
theorem Contained.enlarge {base wider : Option FieldPath} {p : Predicate} (h : p.Contained base)
    (hwider : ∀ q : FieldPath, q.IsIn base → q.IsIn wider) : p.Contained wider := by
  induction h with
  | leaf h => exact .leaf fun f hf => hwider f (h f hf)
  | bool h ih => exact .bool fun p hp => ih p hp hwider
  | not h ih => exact .not (ih hwider)
  | nested hpath h ih => exact .nested (hwider _ hpath) h
  | boosted h ih => exact .boosted (ih hwider)
  | constantScore h ih => exact .constantScore (ih hwider)

/-- The innermost object after opening these scopes. -/
def innermost (base : Option FieldPath) (scopes : List NestingScope) : Option FieldPath :=
  (scopes.getLast?.map NestingScope.path).or base

theorem innermost_cons (base : Option FieldPath) (s : NestingScope) (rest : List NestingScope) :
    innermost base (s :: rest) = innermost (some s.path) rest := by
  unfold innermost
  rw [List.getLast?_cons]
  cases rest.getLast? <;> rfl

/-- Scopes that lie inside one another may be put around a tree that keeps to the last of them. -/
theorem Contained.within {base : Option FieldPath} {scopes : List NestingScope} {p : Predicate}
    (hchain : (scopes.map NestingScope.path).Pairwise fun a b => a.isAncestorOf b = true)
    (hbase : ∀ s ∈ scopes, s.path.IsIn base) (h : p.Contained (innermost base scopes)) :
    (p.within scopes).Contained base := by
  induction scopes generalizing base with
  | nil => exact h
  | cons s rest ih =>
    rw [List.map_cons, List.pairwise_cons] at hchain
    rw [innermost_cons] at h
    refine .nested (hbase s List.mem_cons_self) (ih hchain.2 ?_ h)
    intro t ht
    obtain ⟨q, hq⟩ := FieldPath.isAncestorOf_iff.mp (hchain.1 t.path (List.mem_map_of_mem ht))
    exact FieldPath.isIn_some.mpr (hq ▸ FieldPath.startsWith_join s.path q)

mutual

/-- The invocations of named predicates in the tree. -/
def invocations : Predicate → List Invocation
  | .leaf _ => []
  | .bool _ clauses => invocationsOf clauses
  | .not inner | .boosted inner _ | .constantScore inner | .nested _ inner => inner.invocations
  | .named name params => [⟨name, params⟩]

def invocationsOf : List Predicate → List Invocation
  | [] => []
  | p :: ps => p.invocations ++ invocationsOf ps

end

/-- A tree that keeps to an object has no name left. -/
theorem Contained.invocations_eq_nil {base : Option FieldPath} {p : Predicate}
    (h : p.Contained base) : p.invocations = [] := by
  induction h with
  | leaf h => rfl
  | @bool base operator clauses h ih =>
    show invocationsOf clauses = []
    clear h
    induction clauses with
    | nil => rfl
    | cons p ps ihs =>
      obtain ⟨hp, hps⟩ := List.forall_mem_cons.mp ih
      rw [invocationsOf, hp, ihs hps, List.append_nil]
  | not h ih | nested hpath h ih | boosted h ih | constantScore h ih => exact ih

end Predicate

/-! ## Frames -/

/-- What is still to be opened on the way to a path lies inside what is open. -/
theorem startsWith_of_mem_dropWhile {p opened : FieldPath} {paths : List FieldPath}
    (hchain : paths.Pairwise fun a b => a.isAncestorOf b = true)
    (hpaths : ∀ a ∈ paths, p.startsWith a = true) (hopened : p.startsWith opened = true)
    {a : FieldPath} (ha : a ∈ paths.dropWhile fun a => opened.startsWith a) :
    a.startsWith opened = true := by
  induction paths with
  | nil => cases ha
  | cons first rest ih =>
    rw [List.pairwise_cons] at hchain
    by_cases hfirst : opened.startsWith first = true
    · rw [List.dropWhile_cons_of_pos hfirst] at ha
      exact ih hchain.2 (fun b hb => hpaths b (List.mem_cons_of_mem first hb)) ha
    · rw [List.dropWhile_cons_of_neg hfirst] at ha
      -- Both are on the way to `p`, and the first one left over is not the shorter one.
      have hbelow : first.startsWith opened = true := by
        have hthere := hpaths first List.mem_cons_self
        rcases Nat.le_total opened.length first.length with hle | hle
        · exact FieldPath.startsWith_of_length_le hopened hthere hle
        · exact absurd (FieldPath.startsWith_of_length_le hthere hopened hle) hfirst
      rcases List.mem_cons.mp ha with rfl | ha
      · exact hbelow
      · obtain ⟨q, rfl⟩ := FieldPath.isAncestorOf_iff.mp (hchain.1 a ha)
        exact FieldPath.startsWith_trans (FieldPath.startsWith_join first q) hbelow

namespace Frame

variable {scope : SearchScope} {frame : Frame}

/-- The scope that is open encloses the root. -/
def IsAnchored (frame : Frame) : Prop :=
  ∀ opened, frame.opened = some opened →
    ∃ root, frame.root = some root ∧ root.startsWith opened = true

theorem isAnchored_top : top.IsAnchored := by
  intro opened h
  cases h

/-- Below the root is inside the open scope. -/
theorem IsAnchored.isIn (h : frame.IsAnchored) (p : FieldPath) :
    (FieldPath.joinUnder frame.root p).IsIn frame.opened := by
  intro opened hopened
  obtain ⟨root, hroot, hstarts⟩ := h opened hopened
  rw [hroot]
  exact FieldPath.startsWith_trans (FieldPath.startsWith_join root p) hstarts

/-- What a path below the root needs besides the open scope. -/
structure Residual (frame : Frame) (r : ScopedResolution) : Prop where
  chain : ((r.chain.after frame.opened).map NestingScope.path).Pairwise fun a b =>
    a.isAncestorOf b = true
  isIn : ∀ s ∈ r.chain.after frame.opened, s.path.IsIn frame.opened
  path_isIn : r.path.IsIn (Predicate.innermost frame.opened (r.chain.after frame.opened))

theorem IsAnchored.residual (h : frame.IsAnchored) {p : FieldPath} {r : ScopedResolution}
    (hr : scope.Agreement (.joinUnder frame.root p) r) : frame.Residual r := by
  obtain ⟨i, -, node, -, hchain⟩ := hr.exists_chain
  have hpaths : ∀ a ∈ r.chain.paths, r.path.startsWith a = true := by
    intro a ha
    rw [hr.path_eq]
    rw [← hchain] at ha
    exact Definition.startsWith_of_mem_chainTo ha
  have hnested : r.chain.paths.Pairwise fun a b => a.isAncestorOf b = true := by
    rw [← hchain]
    exact Definition.paths_chainTo_pairwise _ _
  have hsuffix : (r.chain.after frame.opened).map NestingScope.path <:+ r.chain.paths := by
    cases frame.opened with
    | none => exact List.suffix_refl _
    | some opened =>
      rw [NestingChain.map_path_after]
      exact List.dropWhile_suffix _
  refine ⟨hnested.sublist hsuffix.sublist, ?_, ?_⟩
  · intro s hs opened hopened
    have hmem := List.mem_map_of_mem (f := NestingScope.path) hs
    rw [hopened, NestingChain.map_path_after] at hmem
    have hin := h.isIn p opened hopened
    rw [← hr.path_eq] at hin
    exact startsWith_of_mem_dropWhile hnested hpaths hin hmem
  · unfold Predicate.innermost
    cases hlast : (r.chain.after frame.opened).getLast? with
    | none =>
      rw [hr.path_eq]
      exact h.isIn p
    | some last =>
      have hmem := List.mem_map_of_mem (f := NestingScope.path) (List.mem_of_getLast? hlast)
      exact FieldPath.isIn_some.mpr (hpaths _ (hsuffix.subset hmem))

end Frame

/-! ## Trees -/

namespace Placement

variable {scope : SearchScope} {config : CompilerConfig} {frame : Frame}

theorem fields_eq_nil_of_check {l : Leaf} (hcheck : l.check = .ok ())
    (husage : l.kind.usage? = none) : l.fields = [] := by
  unfold Leaf.check PredicateKind.checkFields at hcheck
  rw [husage] at hcheck
  by_cases hnone : l.fields.length = 0
  · exact List.eq_nil_of_length_eq_zero hnone
  · rw [if_neg hnone] at hcheck
    cases hcheck

/-- The scopes on the way to the target of a name are open inside it. -/
theorem target_anchored (h : frame.IsAnchored) {full : FieldPath} {node : Option FieldPath}
    {residual : List NestingScope} (htarget : target scope frame full = .ok (node, residual)) :
    (frame.expansion node residual).IsAnchored ∧
      (residual.map NestingScope.path).Pairwise (fun a b => a.isAncestorOf b = true) ∧
      ∀ s ∈ residual, s.path.IsIn frame.opened := by
  obtain ⟨-, rfl, rfl⟩ | ⟨place, r, -, hr, rfl, rfl⟩ := target_ok htarget
  · exact ⟨h, List.Pairwise.nil, by simp⟩
  · rw [SearchScope.resolve_joinUnder] at hr
    have hresidual := h.residual (SearchScope.agreement hr)
    refine ⟨?_, hresidual.chain, hresidual.isIn⟩
    intro opened hopened
    exact ⟨r.path, rfl, hresidual.path_isIn opened hopened⟩

/-- **Wherever a predicate is placed, it keeps to the scope that is open there.** -/
theorem Derivation.contained {p : Predicate} {r : Placed}
    (h : Derivation scope config frame p r) :
    frame.IsAnchored → r.predicate.Contained frame.opened := by
  induction h with
  | bare hcheck husage =>
    intro _
    exact .leaf (by simp [fields_eq_nil_of_check hcheck husage])
  | @leaf frame l usage fields chain hcheck husage hfields =>
    intro hframe
    obtain ⟨rfl, hall, -⟩ := resolveFields_ok hfields
    -- All fields share one chain, so each of them lies in its last scope.
    have hresidual : ∀ f ∈ l.fields, ∃ resolution : ScopedResolution,
        resolution.path = .joinUnder frame.root f ∧ resolution.chain = chain ∧
          frame.Residual resolution := by
      intro f hf
      obtain ⟨resolution, hresolution, hchain, -⟩ := hall _ (List.mem_map_of_mem hf)
      have hagree := SearchScope.agreement hresolution
      exact ⟨resolution, hagree.path_eq, hchain, hframe.residual hagree⟩
    obtain ⟨first, hfirst⟩ := List.exists_mem_of_ne_nil _ (fields_ne_nil_of_check hcheck husage)
    obtain ⟨resolution, -, rfl, hscopes⟩ := hresidual first hfirst
    refine .within hscopes.chain hscopes.isIn (.leaf ?_)
    intro path hpath
    obtain ⟨f, hf, rfl⟩ := List.mem_map.mp hpath
    obtain ⟨other, hother, hchain, hthere⟩ := hresidual f hf
    rw [← hother, ← hchain]
    exact hthere.path_isIn
  | noClause =>
    intro _
    exact .bool (by simp)
  | clause hfirst hrest ihfirst ihrest =>
    intro hframe
    cases ihrest hframe with
    | bool hclauses => exact .bool (List.forall_mem_cons.mpr ⟨ihfirst hframe, hclauses⟩)
  | @nested frame path inner outer r houter hrequire hinner ih =>
    intro hframe
    rw [SearchScope.resolve_joinUnder] at houter
    have hresidual := hframe.residual (SearchScope.agreement houter)
    have hstay := ih (by
      intro opened hopened
      cases hopened
      exact ⟨_, rfl, FieldPath.startsWith_self _⟩)
    refine .within hresidual.chain hresidual.isIn (hstay.enlarge ?_)
    intro q hq
    exact hresidual.path_isIn.trans (FieldPath.isIn_some.mp hq)
  | named hfull htarget hprovider hproduced hinner ih =>
    intro hframe
    obtain ⟨hanchored, hchain, hin⟩ := target_anchored hframe htarget
    exact .within hchain hin (ih hanchored)
  | not hinner ih =>
    intro hframe
    exact .not (ih hframe)
  | boosted hboost hinner ih =>
    intro hframe
    exact .boosted (ih hframe)
  | constantScore hinner ih =>
    intro hframe
    exact .constantScore (ih hframe)

end Placement

/-- **A placed predicate has no name left, and every path in it leads into the scope around it.** -/
theorem contained_of_place {scope : SearchScope} {config : CompilerConfig} {p : Predicate}
    {r : Placed} (h : place scope config p = .ok r) : r.predicate.Contained none :=
  (derivation_of_place h).contained Frame.isAnchored_top

end NestedSearch
