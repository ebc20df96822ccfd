import NestedSearch.Proofs.Placement.Scoping

/-!
# Scopes that are written out

A query may say a scope that placement would have opened by itself. `Leaf.scoped` writes a leaf
inside any such scopes, each path relative to the scope before it, and `place_scoped` says that
nothing comes of it: the tree, the listed leaves and the error are those of the bare leaf.

One scope is enough to look at. Inside it the fields resolve as before (`resolveFields_relativeTo`),
and the scopes opened outside and inside it are those that the bare leaf needs
(`StandsIn.after_append_after`), because both complete the same chain.
-/

namespace NestedSearch

/-! ## Relative paths -/

/-- The path as it is written below a root that encloses it. -/
def FieldPath.relativeTo (root : Option FieldPath) (p : FieldPath) : FieldPath :=
  match root with
  | none => p
  | some r => (p.below? r).getD p

/-- Whether the root encloses the path; the whole document encloses every path. -/
def FieldPath.IsBelow (root : Option FieldPath) (p : FieldPath) : Prop :=
  ∀ r, root = some r → r.isAncestorOf p = true

theorem FieldPath.isBelow_none (p : FieldPath) : p.IsBelow none := by
  intro r hr
  cases hr

theorem FieldPath.isBelow_some {p r : FieldPath} :
    p.IsBelow (some r) ↔ r.isAncestorOf p = true := by
  constructor
  · intro h
    exact h r rfl
  · intro h q hq
    cases hq
    exact h

theorem FieldPath.joinUnder_relativeTo {root : Option FieldPath} {p : FieldPath}
    (h : p.IsBelow root) : joinUnder root (p.relativeTo root) = p := by
  cases root with
  | none => rfl
  | some r =>
    obtain ⟨q, rfl⟩ := isAncestorOf_iff.mp (isBelow_some.mp h)
    unfold relativeTo
    simp

/-! ## Leaves in scopes -/

/-- The leaf as it is written below a root. -/
def Leaf.relativeTo (root : Option FieldPath) (l : Leaf) : Leaf :=
  { l with fields := l.fields.map (FieldPath.relativeTo root) }

/-- The leaf, written below a root inside these scopes, the first one outermost. -/
def Leaf.scoped (l : Leaf) (root : Option FieldPath) : List FieldPath → Predicate
  | [] => .leaf (l.relativeTo root)
  | q :: qs => .nested (q.relativeTo root) (l.scoped (some q) qs)

@[simp] theorem Leaf.relativeTo_none (l : Leaf) : l.relativeTo none = l := by
  have hid : FieldPath.relativeTo none = id := rfl
  unfold relativeTo
  rw [hid, List.map_id]

@[simp] theorem Leaf.check_relativeTo (l : Leaf) (root : Option FieldPath) :
    (l.relativeTo root).check = l.check := by
  unfold check relativeTo
  rw [List.length_map]

/-- The path leads to a nested object in every index that has it, and some index has it. -/
def SearchScope.HasNested (s : SearchScope) (p : FieldPath) : Prop :=
  ∃ usage r, s.resolve none p usage = .ok r ∧ ∀ found ∈ r.found, found.node.isNested = true

/-- What a path leads to does not depend on what it is used for. -/
theorem SearchScope.HasNested.resolves {s : SearchScope} {p : FieldPath} (h : s.HasNested p) :
    ∃ r, s.resolve none p .nested = .ok r ∧ r.require .nested = .ok () := by
  obtain ⟨usage, r, hr, hnested⟩ := h
  refine ⟨r, resolve_eq_ok_iff.mpr (resolve_eq_ok_iff.mp hr), ?_⟩
  have hnone : (r.found.find? fun f => !f.node.supports .nested) = none := by
    rw [List.find?_eq_none]
    intro f hf
    have hf := hnested f hf
    cases hnode : f.node with
    | value field => simp [hnode, Node.isNested] at hf
    | object storage multiValued children => simpa [hnode, Node.supports] using hf
  unfold ScopedResolution.require
  rw [hnone]

instance (s : SearchScope) (p : FieldPath) : Decidable (s.HasNested p) :=
  decidable_of_iff ((s.resolve none p .nested).toOption.any fun r =>
      r.found.all fun found => found.node.isNested) <| by
    constructor
    · intro h
      cases hr : s.resolve none p .nested with
      | error e => simp [hr, Except.toOption] at h
      | ok r => exact ⟨.nested, r, hr, by simpa [hr, Except.toOption] using h⟩
    · rintro ⟨usage, r, hr, hnested⟩
      have hr : s.resolve none p .nested = .ok r :=
        SearchScope.resolve_eq_ok_iff.mpr (SearchScope.resolve_eq_ok_iff.mp hr)
      simpa [hr, Except.toOption] using hnested

/-! ## Wrapping -/

/-- Only the paths of scopes show in a tree. -/
theorem Predicate.within_congr {a b : List NestingScope}
    (h : a.map NestingScope.path = b.map NestingScope.path) (p : Predicate) :
    p.within a = p.within b := by
  have hpaths : ∀ scopes : List NestingScope,
      p.within scopes = (scopes.map NestingScope.path).foldr .nested p := by
    intro scopes
    rw [List.foldr_map]
    rfl
  rw [hpaths, hpaths, h]

theorem Predicate.within_append (a b : List NestingScope) (p : Predicate) :
    p.within (a ++ b) = (p.within b).within a :=
  List.foldr_append

/-! ## One scope -/

variable {scope : SearchScope} {config : CompilerConfig} {frame : Frame}
  {context : List Enclosure}

/-- Going to a nested object, known by its absolute path. -/
theorem Frame.StandsIn.enter (h : frame.StandsIn scope context) {q : FieldPath}
    {outer : ScopedResolution} (hq : q.IsBelow frame.root) (houter : scope.Agreement q outer)
    (hreq : outer.require .nested = .ok ()) :
    { frame with root := some q, opened := some q }.StandsIn scope
      (context ++ Enclosure.ofScopes (outer.chain.after frame.opened)) := by
  have hpath := houter.path_eq
  rw [← FieldPath.joinUnder_relativeTo hq] at houter
  have hthere := h.nested houter hreq
  rwa [hpath] at hthere

/-- **The scopes opened on the way to a nested object and those opened inside it are the ones that
    a field inside it needs.** -/
theorem Frame.StandsIn.after_append_after (h : frame.StandsIn scope context) {q f : FieldPath}
    {outer inner : ScopedResolution} (hq : q.IsBelow frame.root) (hf : f.IsBelow frame.root)
    (hqf : q.isAncestorOf f = true) (houter : scope.Agreement q outer)
    (hreq : outer.require .nested = .ok ()) (hinner : scope.Agreement f inner) :
    (outer.chain.after frame.opened ++ inner.chain.after (some q)).map NestingScope.path =
      (inner.chain.after frame.opened).map NestingScope.path := by
  -- Both sides complete the chain of the field, once with and once without a stop.
  have hstop := (h.enter hq houter hreq).scopes_append_after (p := f.relativeTo (some q))
    (by rw [FieldPath.joinUnder_relativeTo (FieldPath.isBelow_some.mpr hqf)]; exact hinner)
  have hdirect := h.scopes_append_after (p := f.relativeTo frame.root)
    (by rw [FieldPath.joinUnder_relativeTo hf]; exact hinner)
  rw [Enclosure.scopes_append, Enclosure.scopes_ofScopes, List.append_assoc,
    ← List.map_append] at hstop
  exact List.append_cancel_left (hstop.trans hdirect.symm)

/-- Fields resolve below any root as they do from the whole document. -/
theorem Placement.resolveFields_relativeTo {root : Option FieldPath} {usage : Usage}
    {first : Option (FieldPath × NestingChain)} {fields : List FieldPath}
    (h : ∀ f ∈ fields, f.IsBelow root) :
    resolveFields scope config root usage first (fields.map (FieldPath.relativeTo root)) =
      resolveFields scope config none usage first fields := by
  induction fields generalizing first with
  | nil => rfl
  | cons f rest ih =>
    have hrest : ∀ g ∈ rest, g.IsBelow root := fun g hg => h g (List.mem_cons_of_mem f hg)
    rw [List.map_cons, resolveFields, resolveFields, SearchScope.resolve_joinUnder,
      FieldPath.joinUnder_relativeTo (h f List.mem_cons_self)]
    simp only [ih hrest]

/-- What a placed predicate is to whoever runs it. The scopes that were written out only serve
    reports. -/
def Placed.answer (r : Placed) : Predicate × List ResolvedLeaf := (r.predicate, r.leaves)

/-- **A scope written around a leaf makes no difference.** -/
theorem Placement.leaf_within_scope (h : frame.StandsIn scope context) {used : Nat} {l : Leaf}
    {q : FieldPath} {outer : ScopedResolution} (husage : l.kind.usage?.isSome = true)
    (hq : q.IsBelow frame.root) (hfields : ∀ f ∈ l.fields, f.IsBelow frame.root)
    (hqf : ∀ f ∈ l.fields, q.isAncestorOf f = true) (houter : scope.Agreement q outer)
    (hreq : outer.require .nested = .ok ()) :
    (leaf scope config { frame with root := some q, opened := some q } used
        (l.relativeTo (some q))).map
        (fun r => (r.predicate.within (outer.chain.after frame.opened), r.leaves)) =
      (leaf scope config frame used (l.relativeTo frame.root)).map Placed.answer := by
  have hbelow : ∀ f ∈ l.fields, f.IsBelow (some q) := fun f hf =>
    FieldPath.isBelow_some.mpr (hqf f hf)
  obtain ⟨usage, husage⟩ := Option.isSome_iff_exists.mp husage
  unfold leaf
  rw [Leaf.check_relativeTo, Leaf.check_relativeTo]
  by_cases hlimit : config.maxClauseCount < used + 1
  · simp [hlimit]
    rfl
  · cases hcheck : l.check with
    | error fault => simp [hlimit]; rfl
    | ok _ =>
      have hkind : ∀ root, (l.relativeTo root).kind = l.kind := fun _ => rfl
      have hpaths : ∀ root, (l.relativeTo root).fields = l.fields.map (.relativeTo root) :=
        fun _ => rfl
      -- Both leaves resolve the same absolute fields, so they also fail alike.
      simp only [hlimit, if_false, hkind, husage, hpaths, resolveFields_relativeTo hbelow,
        resolveFields_relativeTo hfields]
      cases hresolve : resolveFields scope config none usage none l.fields with
      | error e => rfl
      | ok resolved =>
        obtain ⟨fields, chain⟩ := resolved
        obtain ⟨hall, hresolves, -⟩ := resolveFields_ok hresolve
        obtain ⟨f, hf⟩ := List.exists_mem_of_ne_nil _ (fields_ne_nil_of_check hcheck husage)
        obtain ⟨inner, hinner, rfl, -⟩ := hresolves f (hall ▸ List.mem_map_of_mem hf)
        have hafter := h.after_append_after hq (hfields f hf) (hqf f hf) houter hreq
          (SearchScope.agreement hinner)
        have hwithin := Predicate.within_congr hafter (.leaf ⟨fields, l.kind⟩)
        rw [Predicate.within_append] at hwithin
        exact congrArg (fun p => Except.ok (p, _)) hwithin

/-! ## Any number of scopes -/

/-- A leaf is placed the same however many of the scopes around it are written out. -/
theorem Placement.tree_scoped {expand : Option Step} (h : frame.StandsIn scope context)
    {used : Nat} {l : Leaf} {qs : List FieldPath} (husage : l.kind.usage?.isSome = true)
    (hfields : ∀ f ∈ l.fields, f.IsBelow frame.root) (hroot : ∀ q ∈ qs, q.IsBelow frame.root)
    (hqs : qs.Pairwise fun a b => a.isAncestorOf b = true)
    (habove : ∀ q ∈ qs, ∀ f ∈ l.fields, q.isAncestorOf f = true)
    (hnested : ∀ q ∈ qs, scope.HasNested q) :
    (tree scope config expand frame used (l.scoped frame.root qs)).map Placed.answer =
      (leaf scope config frame used (l.relativeTo frame.root)).map Placed.answer := by
  induction qs generalizing frame context with
  | nil => rfl
  | cons q qs ih =>
    obtain ⟨outer, hresolve, hreq⟩ := (hnested q List.mem_cons_self).resolves
    have houter := SearchScope.agreement hresolve
    have hq := hroot q List.mem_cons_self
    have hqf := habove q List.mem_cons_self
    -- Inside the first scope the induction hypothesis takes care of the others.
    have hrest := ih (h.enter hq houter hreq)
      (fun f hf => FieldPath.isBelow_some.mpr (hqf f hf))
      (fun q' hq' => FieldPath.isBelow_some.mpr (List.rel_of_pairwise_cons hqs hq')) hqs.of_cons
      (fun q' hq' => habove q' (List.mem_cons_of_mem q hq'))
      (fun q' hq' => hnested q' (List.mem_cons_of_mem q hq'))
    have hwritten : scope.resolve frame.root (q.relativeTo frame.root) .nested = .ok outer := by
      rw [SearchScope.resolve_joinUnder, FieldPath.joinUnder_relativeTo hq]
      exact hresolve
    have hopen : tree scope config expand frame used (l.scoped frame.root (q :: qs)) =
        (tree scope config expand { frame with root := some q, opened := some q } used
          (l.scoped (some q) qs)).map fun r => ⟨r.predicate.within (outer.chain.after frame.opened),
            r.leaves, (q, frame.optional) :: r.scopes⟩ :=
      (tree_nested hwritten hreq).trans (by rw [houter.path_eq])
    have hanswer : ∀ x : Except QueryError Placed,
        x.map (fun r => (r.predicate.within (outer.chain.after frame.opened), r.leaves)) =
          (x.map Placed.answer).map fun a =>
            (a.1.within (outer.chain.after frame.opened), a.2) := by
      intro x
      cases x <;> rfl
    rw [← leaf_within_scope h husage hq hfields hqf houter hreq, hanswer, ← hrest, ← hanswer, hopen]
    cases tree scope config expand { frame with root := some q, opened := some q } used
      (l.scoped (some q) qs) <;> rfl

/-- **Scopes that are written out change nothing.** Around a leaf that targets fields any of the
    nested objects that enclose these fields may be written out, outermost first: the tree, the
    listed leaves and the error remain those of the leaf alone. -/
theorem place_scoped {scope : SearchScope} {config : CompilerConfig} {l : Leaf}
    {qs : List FieldPath} (husage : l.kind.usage?.isSome = true) (hfields : l.fields ≠ [])
    (hlonger : qs.Pairwise fun a b => a.length < b.length)
    (habove : ∀ q ∈ qs, ∀ f ∈ l.fields, q.isAncestorOf f = true)
    (hnested : ∀ q ∈ qs, scope.HasNested q) :
    (place scope config (l.scoped none qs)).map Placed.answer =
      (place scope config (.leaf l)).map Placed.answer := by
  obtain ⟨f, hf⟩ := List.exists_mem_of_ne_nil _ hfields
  -- Two paths that enclose the same field enclose one another, the shorter one the longer one.
  have hqs : qs.Pairwise fun a b => a.isAncestorOf b = true := by
    refine hlonger.imp_of_mem ?_
    intro a b ha hb hlt
    exact FieldPath.isAncestorOf_of_length_lt (habove a ha f hf) (habove b hb f hf) hlt
  obtain ⟨expand, hexpand⟩ :=
    Placement.exists_expanding_eq scope config config.maxExpansionDepth
  have hbare : l.relativeTo Frame.top.root = l := Leaf.relativeTo_none l
  have htree : (Placement.tree scope config expand .top 0 (l.scoped none qs)).map Placed.answer =
      (Placement.leaf scope config .top 0 (l.relativeTo Frame.top.root)).map Placed.answer :=
    Placement.tree_scoped (Frame.StandsIn.top scope) husage (fun f _ => f.isBelow_none)
      (fun q _ => q.isBelow_none) hqs habove hnested
  rw [place_leaf, ← hbare, ← htree]
  unfold place
  rw [hexpand, hbare]

/-- The hypotheses of `place_scoped` can be met. -/
theorem place_scoped_sample :
    let label : FieldPath := ⟨Sample.orders, [Sample.lines, Sample.note, Sample.tag, Sample.label]⟩
    let l : Leaf := ⟨[label], .wildcard "a*"⟩
    let qs : List FieldPath := [⟨Sample.orders, []⟩,
      ⟨Sample.orders, [Sample.lines, Sample.note, Sample.tag]⟩]
    (∀ q ∈ qs, Sample.scope.HasNested q) ∧
      (place Sample.scope .default (l.scoped none qs)).map Placed.answer =
        (place Sample.scope .default (.leaf l)).map Placed.answer := by
  intro label l qs
  have hnested : ∀ q ∈ qs, Sample.scope.HasNested q := by decide +kernel
  exact ⟨hnested, place_scoped rfl (by simp [l]) (by decide +kernel) (by decide +kernel) hnested⟩

end NestedSearch
