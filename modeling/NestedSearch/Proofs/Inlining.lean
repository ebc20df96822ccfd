import NestedSearch.Proofs.Placement.Explicit
import NestedSearch.Proofs.Placement.Limits
import NestedSearch.Proofs.Reports

/-!
# Names are inlined

A named predicate does what its provider's tree does in its place. If the name leads nowhere, the
tree itself may be written there; if it leads to a nested object, the tree written inside that
object (`compile_inlined`).

The place is a `Predicate.Context`, a query with a hole. That one predicate does for another one in
a frame (`Replaces`) is preserved by every node around them, so it is enough to compare the two in
the frame of the hole, where the expansion of a name and a scope that is written out lead to the
same frame (`StandsIn.expansion_eq_nested`).
-/

namespace NestedSearch

/-! ## Queries with a hole -/

/-- A predicate from which one part is missing. -/
inductive Predicate.Context where
  | hole
  | clause (operator : BoolOperator) (before : List Predicate) (inner : Context)
      (after : List Predicate)
  | not (inner : Context)
  | nested (path : FieldPath) (inner : Context)
  | boosted (inner : Context) (boost : Float32)
  | constantScore (inner : Context)

namespace Predicate.Context

/-- The predicate with the missing part. -/
def plug (p : Predicate) : Context → Predicate
  | .hole => p
  | .clause operator before inner after => .bool operator (before ++ inner.plug p :: after)
  | .not inner => .not (inner.plug p)
  | .nested path inner => .nested path (inner.plug p)
  | .boosted inner boost => .boosted (inner.plug p) boost
  | .constantScore inner => .constantScore (inner.plug p)

/-- The frame of the missing part, where the predicate stands in this frame. -/
def frame? (scope : SearchScope) (frame : Frame) : Context → Option Frame
  | .hole => some frame
  | .clause operator _ inner _ => inner.frame? scope (frame.clause operator)
  | .not inner | .boosted inner _ | .constantScore inner => inner.frame? scope frame
  | .nested path inner =>
    match scope.resolve frame.root path .nested with
    | .error _ => none
    | .ok outer =>
      inner.frame? scope { frame with root := some outer.path, opened := some outer.path }

end Predicate.Context

/-- Going to a nested object by a name and by a scope that is written out leads to the same frame:
    both are right about the same nodes, and so about the innermost open scope. -/
theorem Frame.StandsIn.expansion_eq_nested {scope : SearchScope} {enclosing : List Enclosure}
    {frame : Frame} (h : frame.StandsIn scope enclosing) {p : FieldPath} {r : ScopedResolution}
    (hr : scope.Agreement (.joinUnder frame.root p) r) (hrequire : r.require .nested = .ok ()) :
    frame.expansion (some r.path) (r.chain.after frame.opened) =
      { frame with root := some r.path, opened := some r.path } := by
  have hopened : (frame.expansion (some r.path) (r.chain.after frame.opened)).opened =
      some r.path :=
    (h.expansion hr).opened_eq.trans (h.nested hr hrequire).opened_eq.symm
  unfold Frame.expansion at hopened ⊢
  dsimp only at hopened
  rw [hopened]

namespace Placement

open Relation (ReflTransGen)

variable {scope : SearchScope} {config : CompilerConfig} {frame : Frame} {p p' : Predicate}
  {r : Placed}

/-! ## Depths -/

/-- The site, if more names were expanded on the way to it. -/
def Site.deeper (s : Site) (more : Nat) : Site := { s with depth := s.depth + more }

theorem Leads.deeper {s s' : Site} (h : Leads scope s s') (more : Nat) :
    Leads scope (s.deeper more) (s'.deeper more) := by
  cases h with
  | clause hp => exact .clause hp
  | not => exact .not
  | nested houter hrequire => exact .nested houter hrequire
  | @named frame name params full node residual provider produced depth hfull htarget hprovider
      hproduced =>
    show Leads scope _ ⟨_, _, depth + 1 + more⟩
    rw [Nat.add_right_comm]
    exact .named hfull htarget hprovider hproduced
  | boosted hboost => exact .boosted hboost
  | constantScore => exact .constantScore

/-- What stays within a limit stays within it if it is reached sooner. -/
theorem Site.StaysWithin.sooner {limit : Nat} {s : Site} (more : Nat)
    (h : (s.deeper more).StaysWithin scope limit) : s.StaysWithin scope limit := by
  intro s' hs
  have hdeeper : ReflTransGen (Leads scope) (s.deeper more) (s'.deeper more) :=
    hs.lift (Site.deeper · more) fun _ _ hlead => hlead.deeper more
  exact (Nat.le_add_right s'.depth more).trans (h _ hdeeper)

/-! ## Predicates that do for others -/

/-- Wherever the first predicate can be placed in the frame, the second one can be placed with the
    same answer, and goes no deeper. -/
def Replaces (scope : SearchScope) (config : CompilerConfig) (frame : Frame) (p p' : Predicate) :
    Prop :=
  ∀ r, Derivation scope config frame p r → ∃ r', Derivation scope config frame p' r' ∧
    r'.answer = r.answer ∧ ∀ limit depth, Site.StaysWithin scope limit ⟨frame, p, depth⟩ →
      Site.StaysWithin scope limit ⟨frame, p', depth⟩

namespace Replaces

theorem not (h : Replaces scope config frame p p') :
    Replaces scope config frame (.not p) (.not p') := by
  intro r hr
  cases hr with
  | not hinner =>
    obtain ⟨r', hr', hanswer, hstays⟩ := h _ hinner
    refine ⟨_, .not hr', congrArg (fun a => (Predicate.not a.1, a.2)) hanswer, ?_⟩
    simpa only [Site.staysWithin_not] using hstays

theorem boosted (h : Replaces scope config frame p p') (boost : Float32) :
    Replaces scope config frame (.boosted p boost) (.boosted p' boost) := by
  intro r hr
  cases hr with
  | boosted hboost hinner =>
    obtain ⟨r', hr', hanswer, hstays⟩ := h _ hinner
    refine ⟨_, .boosted hboost hr',
      congrArg (fun a => (Predicate.boosted a.1 boost, a.2)) hanswer, ?_⟩
    simpa only [Site.staysWithin_boosted hboost] using hstays

theorem constantScore (h : Replaces scope config frame p p') :
    Replaces scope config frame (.constantScore p) (.constantScore p') := by
  intro r hr
  cases hr with
  | constantScore hinner =>
    obtain ⟨r', hr', hanswer, hstays⟩ := h _ hinner
    refine ⟨_, .constantScore hr',
      congrArg (fun a => (Predicate.constantScore a.1, a.2)) hanswer, ?_⟩
    simpa only [Site.staysWithin_constantScore] using hstays

theorem nested {path : FieldPath}
    (h : ∀ outer, scope.resolve frame.root path .nested = .ok outer → Replaces scope config
      { frame with root := some outer.path, opened := some outer.path } p p') :
    Replaces scope config frame (.nested path p) (.nested path p') := by
  intro r hr
  cases hr with
  | @nested _ _ _ outer _ houter hrequire hinner =>
    obtain ⟨r', hr', hanswer, hstays⟩ := h outer houter _ hinner
    refine ⟨_, .nested houter hrequire hr',
      congrArg (fun a => (a.1.within (outer.chain.after frame.opened), a.2)) hanswer, ?_⟩
    simpa only [Site.staysWithin_nested houter hrequire] using hstays

/-- The clauses beside it stay where they are. -/
theorem exists_replaced {operator : BoolOperator} {before after : List Predicate}
    (h : Replaces scope config (frame.clause operator) p p')
    (hr : Derivation scope config frame (.bool operator (before ++ p :: after)) r) :
    ∃ r', Derivation scope config frame (.bool operator (before ++ p' :: after)) r' ∧
      r'.answer = r.answer ∧ ∀ limit depth,
        Site.StaysWithin scope limit ⟨frame.clause operator, p, depth⟩ →
          Site.StaysWithin scope limit ⟨frame.clause operator, p', depth⟩ := by
  induction before generalizing r with
  | nil =>
    cases hr with
    | clause hfirst hrest =>
      obtain ⟨first, hfirst', hanswer, hstays⟩ := h _ hfirst
      obtain ⟨hpredicate, hleaves⟩ := Prod.mk.inj hanswer
      refine ⟨_, .clause hfirst' hrest, ?_, hstays⟩
      simp only [Placed.answer, hpredicate, hleaves]
  | cons q rest ih =>
    cases hr with
    | clause hfirst hrest =>
      obtain ⟨⟨predicate, leaves, scopes⟩, hrest', hanswer, hstays⟩ := ih hrest
      have hsame : (predicate, leaves) = (.bool operator _, _) := hanswer
      cases hsame
      exact ⟨_, .clause hfirst hrest', rfl, hstays⟩

theorem clause {operator : BoolOperator} (before after : List Predicate)
    (h : Replaces scope config (frame.clause operator) p p') :
    Replaces scope config frame (.bool operator (before ++ p :: after))
      (.bool operator (before ++ p' :: after)) := by
  intro r hr
  obtain ⟨r', hr', hanswer, hstays⟩ := h.exists_replaced hr
  refine ⟨r', hr', hanswer, ?_⟩
  intro limit depth hlimit
  rw [Site.staysWithin_bool] at hlimit ⊢
  obtain ⟨hdepth, hclauses⟩ := hlimit
  refine ⟨hdepth, ?_⟩
  rw [List.forall_mem_append, List.forall_mem_cons] at hclauses ⊢
  exact ⟨hclauses.1, hstays limit depth hclauses.2.1, hclauses.2.2⟩

/-- **What does for a predicate in its frame does for it in a whole query.** -/
theorem plug {hole : Frame} (h : Replaces scope config hole p p') (context : Predicate.Context)
    (hhole : context.frame? scope frame = some hole) :
    Replaces scope config frame (context.plug p) (context.plug p') := by
  induction context generalizing frame with
  | hole =>
    cases hhole
    exact h
  | clause operator before inner after ih => exact .clause before after (ih hhole)
  | not inner ih => exact .not (ih hhole)
  | nested path inner ih =>
    refine .nested fun outer houter => ih ?_
    simpa only [Predicate.Context.frame?, houter] using hhole
  | boosted inner boost ih => exact .boosted (ih hhole) boost
  | constantScore inner ih => exact .constantScore (ih hhole)

/-- **What does for a query compiles to the same**, because a scope that is only written out in one
    of them has no part in what is found in comparing fields. -/
theorem compile {q : CompiledQuery} (h : Replaces scope config .top p p')
    (hq : compile scope config p = .ok q) : NestedSearch.compile scope config p' = .ok q := by
  obtain ⟨r, hr, diagnostics, hcomparison, rfl⟩ := compile_eq_ok_iff.mp hq
  obtain ⟨hderivation, hfits, hstays⟩ := place_eq_ok_iff.mp hr
  obtain ⟨r', hderivation', hanswer, hstays'⟩ := h r hderivation
  obtain ⟨hpredicate, hleaves⟩ := Prod.mk.inj hanswer
  have hr' : place scope config p' = .ok r' :=
    place_eq_ok_iff.mpr ⟨hderivation', hpredicate ▸ hfits, hstays' _ _ hstays⟩
  refine compile_eq_ok_iff.mpr ⟨r', hr', diagnostics, ?_, by rw [hpredicate, hleaves]⟩
  rw [comparison_eq_of_leaves hr', hleaves, ← comparison_eq_of_leaves hr]
  exact hcomparison

end Replaces

/-! ## The frame of the hole -/

theorem Derivation.exists_clause {operator : BoolOperator} {ps : List Predicate}
    (h : Derivation scope config frame (.bool operator ps) r) {q : Predicate} (hq : q ∈ ps) :
    ∃ a, Derivation scope config (frame.clause operator) q a := by
  induction ps generalizing r with
  | nil => cases hq
  | cons p ps ih =>
    cases h with
    | clause hfirst hrest =>
      rcases List.mem_cons.mp hq with rfl | hq
      · exact ⟨_, hfirst⟩
      · exact ih hrest hq

/-- A part of a placed query is placed in its frame, which is right about what encloses it. -/
theorem Derivation.exists_hole {enclosing : List Enclosure} (context : Predicate.Context)
    (hstands : frame.StandsIn scope enclosing)
    (h : Derivation scope config frame (context.plug p) r) :
    ∃ hole around a, context.frame? scope frame = some hole ∧ hole.StandsIn scope around ∧
      Derivation scope config hole p a := by
  induction context generalizing frame enclosing r with
  | hole => exact ⟨frame, enclosing, r, rfl, hstands, h⟩
  | clause operator before inner after ih =>
    obtain ⟨a, ha⟩ := h.exists_clause (List.mem_append_right before List.mem_cons_self)
    exact ih (hstands.clause operator) ha
  | not inner ih =>
    cases h with
    | not hinner => exact ih hstands hinner
  | nested path inner ih =>
    cases h with
    | nested houter hrequire hinner =>
      have hagree := houter
      rw [SearchScope.resolve_joinUnder] at hagree
      simp only [Predicate.Context.frame?, houter]
      exact ih (hstands.nested (SearchScope.agreement hagree) hrequire) hinner
  | boosted inner boost ih =>
    cases h with
    | boosted hboost hinner => exact ih hstands hinner
  | constantScore inner ih =>
    cases h with
    | constantScore hinner => exact ih hstands hinner

/-! ## Names -/

/-- The tree that a name stands for in a frame, and the path that the name is. -/
def StandsFor (scope : SearchScope) (frame : Frame) (name : String) (params : ParamBag)
    (full : FieldPath) (produced : Predicate) : Prop :=
  ∃ node residual provider, FieldPath.parse name = .ok full ∧
    target scope frame full = .ok (node, residual) ∧
    lookup scope node full.last.name full = .ok provider ∧
    provider.provide ⟨name, params⟩ = .ok produced

section Names

variable {name : String} {params : ParamBag} {full : FieldPath}

/-- A name stands for one tree. -/
theorem StandsFor.unique {full' : FieldPath} (h : StandsFor scope frame name params full p)
    (h' : StandsFor scope frame name params full' p') : full = full' ∧ p = p' := by
  obtain ⟨node, residual, provider, hfull, htarget, hprovider, hproduced⟩ := h
  obtain ⟨node', residual', provider', hfull', htarget', hprovider', hproduced'⟩ := h'
  cases expansion_unique hfull htarget hprovider hproduced hfull' htarget' hprovider' hproduced'
  exact ⟨rfl, rfl⟩

theorem Derivation.exists_standsFor (h : Derivation scope config frame (.named name params) r) :
    ∃ full produced, StandsFor scope frame name params full produced := by
  cases h with
  | named hfull htarget hprovider hproduced hinner =>
    exact ⟨_, _, _, _, _, hfull, htarget, hprovider, hproduced⟩

/-- What a name stands for is placed at its target and wrapped in the scopes that lead there. -/
theorem StandsFor.expansion {node : Option FieldPath} {residual : List NestingScope}
    (h : StandsFor scope frame name params full p)
    (htarget : target scope frame full = .ok (node, residual)) :
    (∀ r, Derivation scope config frame (.named name params) r → ∃ inner,
      Derivation scope config (frame.expansion node residual) p inner ∧
        r.answer = (inner.predicate.within residual, inner.leaves)) ∧
    ∀ limit depth, Site.StaysWithin scope limit ⟨frame, .named name params, depth⟩ →
      Site.StaysWithin scope limit ⟨frame.expansion node residual, p, depth⟩ := by
  obtain ⟨node', residual', provider, hfull, htarget', hprovider, hproduced⟩ := h
  cases htarget.symm.trans htarget'
  constructor
  · intro r hr
    cases hr with
    | named hfull' htarget' hprovider' hproduced' hinner =>
      cases expansion_unique hfull htarget hprovider hproduced hfull' htarget' hprovider' hproduced'
      exact ⟨_, hinner, rfl⟩
  · intro limit depth hlimit
    rw [Site.staysWithin_named hfull htarget hprovider hproduced] at hlimit
    exact Site.StaysWithin.sooner 1 hlimit

/-- A name that leads nowhere stands for a tree in the same frame. -/
theorem StandsFor.replaces (h : StandsFor scope frame name params full p)
    (hparent : full.parent? = none) : Replaces scope config frame (.named name params) p := by
  have htarget : target scope frame full = .ok (frame.root, []) := by
    unfold target
    rw [hparent]
  obtain ⟨hplaced, hstays⟩ := h.expansion htarget
  intro r hr
  obtain ⟨inner, hinner, hanswer⟩ := hplaced r hr
  exact ⟨inner, hinner, hanswer.symm, hstays⟩

/-- A name that leads to a nested object stands for a tree inside it. -/
theorem StandsFor.replaces_nested {enclosing : List Enclosure} {place : FieldPath}
    (h : StandsFor scope frame name params full p) (hparent : full.parent? = some place)
    (hstands : frame.StandsIn scope enclosing)
    (hnested : scope.HasNested (.joinUnder frame.root place)) :
    Replaces scope config frame (.named name params) (.nested place p) := by
  obtain ⟨outer, houter, hrequire⟩ := hnested.resolves
  have hagree := SearchScope.agreement houter
  have hresolve : ∀ usage, scope.resolve frame.root place usage = .ok outer := by
    intro usage
    rw [SearchScope.resolve_joinUnder]
    exact SearchScope.resolve_eq_ok_iff.mpr (SearchScope.resolve_eq_ok_iff.mp houter)
  have htarget : target scope frame full =
      .ok (some outer.path, outer.chain.after frame.opened) := by
    obtain ⟨node, residual, provider, -, htarget, -⟩ := h
    obtain ⟨hnone, -⟩ | ⟨place', r, hplace, hr, rfl, rfl⟩ := target_ok htarget
    · cases hnone.symm.trans hparent
    · cases hplace.symm.trans hparent
      cases hr.symm.trans (hresolve .named)
      exact htarget
  obtain ⟨hplaced, hstays⟩ := h.expansion htarget
  rw [hstands.expansion_eq_nested hagree hrequire] at hplaced hstays
  intro r hr
  obtain ⟨inner, hinner, hanswer⟩ := hplaced r hr
  refine ⟨_, .nested (hresolve .nested) hrequire hinner, hanswer.symm, ?_⟩
  simpa only [Site.staysWithin_nested (hresolve .nested) hrequire] using hstays

end Names

end Placement

open Placement

/-- **Names are inlined.** In a query that compiles, a name stands for the tree that its provider
    makes, in the frame in which it is invoked. If the name leads nowhere, the query with that tree
    in place of the name compiles to the same; if it leads to a nested object, the query with that
    tree inside a scope for the object does. -/
theorem compile_inlined {scope : SearchScope} {config : CompilerConfig}
    {context : Predicate.Context} {name : String} {params : ParamBag} {q : CompiledQuery}
    (h : compile scope config (context.plug (.named name params)) = .ok q) :
    ∃ frame full produced, context.frame? scope .top = some frame ∧
      StandsFor scope frame name params full produced ∧
      (full.parent? = none → compile scope config (context.plug produced) = .ok q) ∧
      ∀ place, full.parent? = some place → scope.HasNested (.joinUnder frame.root place) →
        compile scope config (context.plug (.nested place produced)) = .ok q := by
  obtain ⟨r, hr, -⟩ := compile_eq_ok_iff.mp h
  obtain ⟨frame, around, a, hframe, hstands, ha⟩ :=
    (derivation_of_place hr).exists_hole context (Frame.StandsIn.top scope)
  obtain ⟨full, produced, hstandsFor⟩ := ha.exists_standsFor
  refine ⟨frame, full, produced, hframe, hstandsFor, ?_, ?_⟩
  · intro hparent
    exact ((hstandsFor.replaces hparent).plug context hframe).compile h
  · intro place hparent hnested
    exact ((hstandsFor.replaces_nested hparent hstands hnested).plug context hframe).compile h

namespace Sample

/-- Whether a line has an article. -/
def articled : Provider := ⟨"articled", fun _ => .ok (.leaf ⟨[⟨sku, []⟩], .exists⟩)⟩

/-- A shop where lines, which are nested objects, know a name, beside a blog. -/
def stockScope : SearchScope where
  indexes := [⟨shop, ⟨[⟨some ⟨orders, [lines]⟩, "articled", articled⟩]⟩⟩, .ofSchema blog]
  nonempty := by simp
  distinct := by decide +kernel

/-- Whether an order lacks something, or has a line with a note. -/
def orderLacks : Predicate.Context :=
  .clause .or [.leaf ⟨[⟨orders, [lines, note]⟩], .exists⟩] (.nested ⟨orders, []⟩ (.not .hole)) []

end Sample

/-- What `compile_inlined` says of a name that leads from orders to their lines, and of the name
    alone where the lines are opened already. -/
theorem compile_inlined_sample :
    let hasArticle : Predicate := .leaf ⟨[⟨Sample.sku, []⟩], .exists⟩
    let ofLine : Predicate.Context := .nested ⟨Sample.orders, [Sample.lines]⟩ .hole
    (∃ q, compile Sample.stockScope .default
        (Sample.orderLacks.plug (.named "lines.articled" .empty)) = .ok q ∧
      compile Sample.stockScope .default
        (Sample.orderLacks.plug (.nested ⟨Sample.lines, []⟩ hasArticle)) = .ok q) ∧
    ∃ q, compile Sample.stockScope .default (ofLine.plug (.named "articled" .empty)) = .ok q ∧
      compile Sample.stockScope .default (ofLine.plug hasArticle) = .ok q := by
  intro hasArticle ofLine
  constructor
  · have hcompiles : (compile Sample.stockScope .default
        (Sample.orderLacks.plug (.named "lines.articled" .empty))).toOption.isSome = true := by
      decide +kernel
    obtain ⟨q, hq⟩ := exists_of_isSome_toOption hcompiles
    obtain ⟨frame, full, produced, hframe, hstandsFor, -, hnested⟩ := compile_inlined hq
    have horders : Sample.orderLacks.frame? Sample.stockScope .top =
      some ⟨some ⟨Sample.orders, []⟩, some ⟨Sample.orders, []⟩, true⟩ := rfl
    cases hframe.symm.trans horders
    have hlines : StandsFor Sample.stockScope
        ⟨some ⟨Sample.orders, []⟩, some ⟨Sample.orders, []⟩, true⟩ "lines.articled" .empty
        ⟨Sample.lines, [.literal "articled"]⟩ hasArticle :=
      ⟨_, _, Sample.articled, rfl, rfl, rfl, rfl⟩
    obtain ⟨rfl, rfl⟩ := hstandsFor.unique hlines
    exact ⟨q, hq, hnested ⟨Sample.lines, []⟩ rfl (by decide +kernel)⟩
  · have hcompiles : (compile Sample.stockScope .default
        (ofLine.plug (.named "articled" .empty))).toOption.isSome = true := by decide +kernel
    obtain ⟨q, hq⟩ := exists_of_isSome_toOption hcompiles
    obtain ⟨frame, full, produced, hframe, hstandsFor, hbare, -⟩ := compile_inlined hq
    have hlines : ofLine.frame? Sample.stockScope .top = some ⟨some ⟨Sample.orders, [Sample.lines]⟩,
      some ⟨Sample.orders, [Sample.lines]⟩, false⟩ := rfl
    cases hframe.symm.trans hlines
    have hline : StandsFor Sample.stockScope ⟨some ⟨Sample.orders, [Sample.lines]⟩,
        some ⟨Sample.orders, [Sample.lines]⟩, false⟩ "articled" .empty
        ⟨.literal "articled", []⟩ hasArticle :=
      ⟨_, _, Sample.articled, rfl, rfl, rfl, rfl⟩
    obtain ⟨rfl, rfl⟩ := hstandsFor.unique hline
    exact ⟨q, hq, hbare rfl⟩

end NestedSearch
