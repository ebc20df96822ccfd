import NestedSearch.Proofs.Outcome
import NestedSearch.Proofs.Scope
import NestedSearch.Placement

/-!
# What each step of placement does

One inversion for each function of placement, with everything that its success says. The proofs
about whole trees cite these and open none of the functions again.
-/

namespace NestedSearch

/-- The frame in which a named predicate is expanded, at the end of these scopes. -/
def Frame.expansion (frame : Frame) (node : Option FieldPath) (residual : List NestingScope) :
    Frame :=
  ⟨node, (residual.getLast?.map NestingScope.path).or frame.opened, frame.optional⟩

namespace Placement

variable {scope : SearchScope} {config : CompilerConfig} {frame : Frame}

/-! ## Fields and leaves -/

/-- The field resolves in the scope, needs this chain and supports what is demanded of it. -/
def FieldResolves (scope : SearchScope) (config : CompilerConfig) (usage : Usage)
    (chain : NestingChain) (p : FieldPath) : Prop :=
  ∃ r, scope.resolve none p usage = .ok r ∧ r.chain = chain ∧
    (config.validateUsages = true → r.require usage = .ok ())

/-- Fields that resolve become absolute, and share one chain. -/
theorem resolveFields_ok {root : Option FieldPath} {usage : Usage}
    {first : Option (FieldPath × NestingChain)} {fields paths : List FieldPath}
    {chain : NestingChain}
    (h : resolveFields scope config root usage first fields = .ok (paths, chain)) :
    paths = fields.map (FieldPath.joinUnder root) ∧
      (∀ p ∈ paths, FieldResolves scope config usage chain p) ∧
      ∀ x, first = some x → x.2 = chain := by
  induction fields generalizing first paths with
  | nil =>
    unfold resolveFields at h
    cases h
    refine ⟨rfl, by simp, ?_⟩
    rintro x rfl
    rfl
  | cons field rest ih =>
    unfold resolveFields at h
    obtain ⟨r, hr, h⟩ := bind_eq_ok_iff.mp h
    obtain ⟨hdemand, h⟩ := demand_eq_ok_iff.mp h
    rw [SearchScope.resolve_joinUnder] at hr
    have hpath := (SearchScope.agreement hr).path_eq
    -- The first field settles the chain; any other one was compared with it.
    cases first with
    | none =>
      obtain ⟨⟨more, chain'⟩, hmore, h⟩ := bind_eq_ok_iff.mp h
      cases h
      obtain ⟨rfl, hall, hfirst⟩ := ih hmore
      refine ⟨by rw [List.map_cons, hpath], ?_, by simp⟩
      intro p hp
      rcases List.mem_cons.mp hp with rfl | hp
      · exact ⟨r, hpath ▸ hr, hfirst _ rfl, hdemand⟩
      · exact hall p hp
    | some x =>
      obtain ⟨hsame, h⟩ := demand_eq_ok_iff.mp h
      obtain ⟨⟨more, chain'⟩, hmore, h⟩ := bind_eq_ok_iff.mp h
      cases h
      obtain ⟨rfl, hall, hfirst⟩ := ih hmore
      have hchain : x.2 = r.chain := by
        by_cases hne : x.2 = r.chain
        · exact hne
        · cases hsame hne
      refine ⟨by rw [List.map_cons, hpath], ?_, hfirst⟩
      intro p hp
      rcases List.mem_cons.mp hp with rfl | hp
      · exact ⟨r, hpath ▸ hr, hchain ▸ hfirst x rfl, hdemand⟩
      · exact hall p hp

/-- Absolute fields that resolve and share a chain pass. -/
theorem resolveFields_of_resolves {usage : Usage} {chain : NestingChain}
    {first : Option (FieldPath × NestingChain)} {fields : List FieldPath}
    (hfirst : ∀ x, first = some x → x.2 = chain) (hsome : first = none → fields ≠ [])
    (h : ∀ p ∈ fields, FieldResolves scope config usage chain p) :
    resolveFields scope config none usage first fields = .ok (fields, chain) := by
  induction fields generalizing first with
  | nil =>
    cases first with
    | none => exact absurd rfl (hsome rfl)
    | some x => rw [resolveFields, ← hfirst x rfl]; rfl
  | cons field rest ih =>
    obtain ⟨r, hr, hchain, hdemand⟩ := h field List.mem_cons_self
    have hrest : ∀ p ∈ rest, FieldResolves scope config usage chain p :=
      fun p hp => h p (List.mem_cons_of_mem field hp)
    have hpath := (SearchScope.agreement hr).path_eq
    unfold resolveFields
    refine bind_eq_ok_iff.mpr ⟨r, hr, demand_eq_ok_iff.mpr ⟨hdemand, ?_⟩⟩
    cases first with
    | none =>
      refine bind_eq_ok_iff.mpr ⟨(rest, chain), ih ?_ ?_ hrest, by rw [hpath]; rfl⟩
      · intro x hx
        cases hx
        exact hchain
      · intro hnone
        cases hnone
    | some x =>
      have hsame : ¬x.2 ≠ r.chain := by simp [hfirst x rfl, hchain]
      refine demand_eq_ok_iff.mpr ⟨fun hne => absurd hne hsame, ?_⟩
      refine bind_eq_ok_iff.mpr ⟨(rest, chain), ih hfirst ?_ hrest, by rw [hpath]; rfl⟩
      intro hnone
      cases hnone

/-- What becomes of a leaf: one that targets no field stays as it is, any other one is wrapped in
    the scopes that are not open yet. -/
theorem leaf_ok {used : Nat} {l : Leaf} {r : Placed}
    (h : leaf scope config frame used l = .ok r) :
    l.check = .ok () ∧
      ((l.kind.usage? = none ∧ r = ⟨.leaf l, [], []⟩) ∨
        ∃ usage fields chain, l.kind.usage? = some usage ∧
          resolveFields scope config frame.root usage none l.fields = .ok (fields, chain) ∧
          r = ⟨(Predicate.leaf ⟨fields, l.kind⟩).within (chain.after frame.opened),
            [⟨fields, usage, l.kind.analysis, chain, frame.optional⟩], []⟩) := by
  unfold leaf at h
  obtain ⟨-, h⟩ := demand_eq_ok_iff.mp h
  cases hcheck : l.check with
  | error fault =>
    rw [hcheck] at h
    cases h
  | ok _ =>
    refine ⟨rfl, ?_⟩
    rw [hcheck] at h
    cases husage : l.kind.usage? with
    | none =>
      rw [husage] at h
      cases h
      exact Or.inl ⟨rfl, rfl⟩
    | some usage =>
      rw [husage] at h
      obtain ⟨⟨fields, chain⟩, hfields, h⟩ := bind_eq_ok_iff.mp h
      cases h
      exact Or.inr ⟨usage, fields, chain, rfl, hfields, rfl⟩

theorem fields_ne_nil_of_check {l : Leaf} {usage : Usage} (hcheck : l.check = .ok ())
    (husage : l.kind.usage? = some usage) : l.fields ≠ [] := by
  intro hnil
  unfold Leaf.check PredicateKind.checkFields at hcheck
  rw [husage, hnil] at hcheck
  cases hcheck

theorem exists_usage_of_isMultiField {kind : PredicateKind} (hkind : kind.isMultiField = true) :
    ∃ usage, kind.usage? = some usage := by
  cases kind with
  | matching | phrase | wildcard | regexp | simpleQueryString | range => exact ⟨_, rfl⟩
  | _ => cases hkind

/-- Where a leaf may target several fields, any number of them will do. -/
theorem check_of_isMultiField {kind : PredicateKind} (hkind : kind.isMultiField = true)
    (f : FieldPath) (rest : List FieldPath) :
    (Leaf.mk (f :: rest) kind).check = kind.checkParameters := by
  obtain ⟨usage, husage⟩ := exists_usage_of_isMultiField hkind
  have hfields : kind.checkFields (rest.length + 1) = .ok () := by
    simp [PredicateKind.checkFields, husage, hkind]
  rw [Leaf.check, List.length_cons, hfields]

/-! ## Scopes and named predicates -/

/-- Where a named predicate leads: to where the frame stands if its name is all there is, and
    otherwise to the object before its name, through the scopes on the way. -/
theorem target_ok {full : FieldPath} {node : Option FieldPath} {residual : List NestingScope}
    (h : target scope frame full = .ok (node, residual)) :
    (full.parent? = none ∧ node = frame.root ∧ residual = []) ∨
      ∃ place r, full.parent? = some place ∧ scope.resolve frame.root place .named = .ok r ∧
        node = some r.path ∧ residual = r.chain.after frame.opened := by
  unfold target at h
  cases hparent : full.parent? with
  | none =>
    rw [hparent] at h
    cases h
    exact Or.inl ⟨rfl, rfl, rfl⟩
  | some place =>
    rw [hparent] at h
    obtain ⟨r, hr, h⟩ := bind_eq_ok_iff.mp h
    obtain ⟨-, h⟩ := demand_eq_ok_iff.mp h
    cases h
    exact Or.inr ⟨place, r, rfl, hr, rfl, rfl⟩

/-- A name leads to one place, and stands for one tree there. -/
theorem expansion_unique {name : String} {params : ParamBag} {full full' : FieldPath}
    {node node' : Option FieldPath} {residual residual' : List NestingScope}
    {provider provider' : Provider} {produced produced' : Predicate}
    (hfull : FieldPath.parse name = .ok full)
    (htarget : target scope frame full = .ok (node, residual))
    (hprovider : lookup scope node full.last.name full = .ok provider)
    (hproduced : provider.provide ⟨name, params⟩ = .ok produced)
    (hfull' : FieldPath.parse name = .ok full')
    (htarget' : target scope frame full' = .ok (node', residual'))
    (hprovider' : lookup scope node' full'.last.name full' = .ok provider')
    (hproduced' : provider'.provide ⟨name, params⟩ = .ok produced') :
    (full, node, residual, produced) = (full', node', residual', produced') := by
  cases hfull.symm.trans hfull'
  cases htarget.symm.trans htarget'
  cases hprovider.symm.trans hprovider'
  cases hproduced.symm.trans hproduced'
  rfl

/-! ## Whole queries -/

/-- A scope that is written out moves the frame to its object. -/
theorem tree_nested {expand : Option Step} {used : Nat} {path : FieldPath} {inner : Predicate}
    {target : ScopedResolution} (h : scope.resolve frame.root path .nested = .ok target)
    (hreq : target.require .nested = .ok ()) :
    tree scope config expand frame used (.nested path inner) =
      (tree scope config expand
        { frame with root := some target.path, opened := some target.path } used inner).map
        fun r => ⟨r.predicate.within (target.chain.after frame.opened), r.leaves,
          (target.path, frame.optional) :: r.scopes⟩ := by
  rw [tree, h]
  show (target.require .nested >>= _) = _
  rw [hreq]
  rfl

/-- At any depth a tree is placed node by node; depths only differ in how they expand names. -/
theorem exists_expanding_eq (scope : SearchScope) (config : CompilerConfig) (depth : Nat) :
    ∃ expand, expanding scope config depth = tree scope config expand := by
  cases depth with
  | zero => exact ⟨none, rfl⟩
  | succ depth => exact ⟨some (expanding scope config depth), rfl⟩

end Placement

theorem place_leaf (scope : SearchScope) (config : CompilerConfig) (l : Leaf) :
    place scope config (.leaf l) = Placement.leaf scope config .top 0 l := by
  obtain ⟨expand, hexpand⟩ :=
    Placement.exists_expanding_eq scope config config.maxExpansionDepth
  unfold place
  rw [hexpand]
  rfl

end NestedSearch
