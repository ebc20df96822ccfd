import Mathlib.Order.Lattice.Nat
import Mathlib.Logic.Relation
import NestedSearch.Proofs.Placement.Derivation

/-!
# Where placement stops

Providers make trees of any size, out of names that may stand for themselves, so nothing in a
predicate says how far its placement goes. Two limits end it: how many leaves there may be, and how
deeply names may stand inside one another. They are exact (`place_limits_exact`). A predicate is
placed if and only if its derivation keeps to both of them (`place_eq_ok_iff`), and where it breaks
one of them alone, that limit is the error.

A `Site` is a predicate somewhere in the unfolding of a query, and `Leads` goes from one site to the
next: from a node to its parts, and from a name to what its provider makes. Sites within a limit of
depth cannot be followed forever, because a step goes to a smaller tree or comes closer to the limit
(`leads_wellFounded`).
-/

namespace NestedSearch
namespace Placement

open Relation (ReflTransGen)

/-! ## Sites -/

/-- A predicate in its frame, and how many expansions of names led there. -/
structure Site where
  frame : Frame
  predicate : Predicate
  depth : Nat

/-- Placing what stands at the first site asks for placing what stands at the second one. -/
inductive Leads (scope : SearchScope) : Site → Site → Prop
  | clause {frame : Frame} {operator : BoolOperator} {clauses : List Predicate} {p : Predicate}
      {depth : Nat} (hp : p ∈ clauses) :
      Leads scope ⟨frame, .bool operator clauses, depth⟩ ⟨frame.clause operator, p, depth⟩
  | not {frame : Frame} {inner : Predicate} {depth : Nat} :
      Leads scope ⟨frame, .not inner, depth⟩ ⟨frame, inner, depth⟩
  | nested {frame : Frame} {path : FieldPath} {inner : Predicate} {outer : ScopedResolution}
      {depth : Nat} (houter : scope.resolve frame.root path .nested = .ok outer)
      (hrequire : outer.require .nested = .ok ()) :
      Leads scope ⟨frame, .nested path inner, depth⟩
        ⟨{ frame with root := some outer.path, opened := some outer.path }, inner, depth⟩
  | named {frame : Frame} {name : String} {params : ParamBag} {full : FieldPath}
      {node : Option FieldPath} {residual : List NestingScope} {provider : Provider}
      {produced : Predicate} {depth : Nat} (hfull : FieldPath.parse name = .ok full)
      (htarget : target scope frame full = .ok (node, residual))
      (hprovider : lookup scope node full.last.name full = .ok provider)
      (hproduced : provider.provide ⟨name, params⟩ = .ok produced) :
      Leads scope ⟨frame, .named name params, depth⟩
        ⟨frame.expansion node residual, produced, depth + 1⟩
  | boosted {frame : Frame} {inner : Predicate} {boost : Float32} {depth : Nat}
      (hboost : checkBoost boost = .ok ()) :
      Leads scope ⟨frame, .boosted inner boost, depth⟩ ⟨frame, inner, depth⟩
  | constantScore {frame : Frame} {inner : Predicate} {depth : Nat} :
      Leads scope ⟨frame, .constantScore inner, depth⟩ ⟨frame, inner, depth⟩

/-- How many expansions lead to the sites that a query unfolds to. -/
def depthsReached (scope : SearchScope) (p : Predicate) : Set Nat :=
  { depth | ∃ s, ReflTransGen (Leads scope) ⟨.top, p, 0⟩ s ∧ s.depth = depth }

variable {scope : SearchScope}

/-- A step leads to a smaller tree, or out of a name. -/
theorem Leads.smaller {s s' : Site} (h : Leads scope s s') :
    (s'.depth = s.depth ∧ sizeOf s'.predicate < sizeOf s.predicate) ∨ s'.depth = s.depth + 1 := by
  cases h with
  | @clause frame operator clauses p depth hp =>
    have hsize := List.sizeOf_lt_of_mem hp
    refine .inl ⟨rfl, ?_⟩
    show sizeOf p < sizeOf (Predicate.bool operator clauses)
    rw [Predicate.bool.sizeOf_spec]
    omega
  | @nested frame path inner outer depth houter hrequire =>
    refine .inl ⟨rfl, ?_⟩
    show sizeOf inner < sizeOf (Predicate.nested path inner)
    rw [Predicate.nested.sizeOf_spec]
    omega
  | @boosted frame inner boost depth hboost =>
    refine .inl ⟨rfl, ?_⟩
    show sizeOf inner < sizeOf (Predicate.boosted inner boost)
    rw [Predicate.boosted.sizeOf_spec]
    omega
  | not | constantScore => exact .inl ⟨rfl, by simp⟩
  | named => exact .inr rfl

/-- **Whatever providers make, placement ends**: a step lessens the depth that is left or, at the
    same depth, the tree. -/
theorem leads_wellFounded (scope : SearchScope) (limit : Nat) :
    WellFounded fun s' s : Site => Leads scope s s' ∧ s'.depth ≤ limit := by
  let rank : Site → Nat × Nat := fun s => (limit - s.depth, sizeOf s.predicate)
  have hlex : WellFounded (Prod.Lex (· < ·) (· < ·) : Nat × Nat → Nat × Nat → Prop) :=
    (Prod.lex ⟨_, wellFounded_lt⟩ ⟨_, wellFounded_lt⟩).wf
  refine Subrelation.wf ?_ (InvImage.wf rank hlex)
  rintro s' s ⟨h, hlimit⟩
  show Prod.Lex (· < ·) (· < ·) (rank s') (rank s)
  rcases h.smaller with ⟨hdepth, hsize⟩ | hdepth
  · show Prod.Lex _ _ (limit - s'.depth, _) (limit - s.depth, _)
    rw [hdepth]
    exact .right _ hsize
  · exact .left _ _ (by omega)

/-! ## Sites within a limit -/

/-- No site that this one unfolds to lies deeper than the limit. -/
def Site.StaysWithin (scope : SearchScope) (limit : Nat) (s : Site) : Prop :=
  ∀ s', ReflTransGen (Leads scope) s s' → s'.depth ≤ limit

namespace Site

variable {frame : Frame} {depth limit : Nat}

theorem staysWithin_iff {s : Site} : s.StaysWithin scope limit ↔
    s.depth ≤ limit ∧ ∀ s', Leads scope s s' → s'.StaysWithin scope limit := by
  constructor
  · intro h
    exact ⟨h s .refl, fun s' hs s'' hs' => h s'' (.head hs hs')⟩
  · rintro ⟨hdepth, hnext⟩ s' hs
    rcases hs.cases_head with rfl | ⟨next, hfirst, hrest⟩
    · exact hdepth
    · exact hnext next hfirst s' hrest

theorem StaysWithin.depth_le {s : Site} (h : s.StaysWithin scope limit) : s.depth ≤ limit :=
  h s .refl

theorem StaysWithin.mono {s : Site} (h : s.StaysWithin scope limit) {limit' : Nat}
    (hle : limit ≤ limit') : s.StaysWithin scope limit' :=
  fun s' hs => (h s' hs).trans hle

theorem staysWithin_leaf {l : Leaf} :
    StaysWithin scope limit ⟨frame, .leaf l, depth⟩ ↔ depth ≤ limit := by
  rw [staysWithin_iff]
  refine and_iff_left ?_
  intro s' h
  cases h

theorem staysWithin_bool {operator : BoolOperator} {clauses : List Predicate} :
    StaysWithin scope limit ⟨frame, .bool operator clauses, depth⟩ ↔ depth ≤ limit ∧
      ∀ p ∈ clauses, StaysWithin scope limit ⟨frame.clause operator, p, depth⟩ := by
  rw [staysWithin_iff]
  refine and_congr_right fun _ => ?_
  constructor
  · intro h p hp
    exact h _ (.clause hp)
  · intro h s' hs
    cases hs with
    | clause hp => exact h _ hp

/-- A site that leads to one other site, at the same depth, stays within a limit if the other one
    does. -/
theorem staysWithin_iff_of_leads {s next : Site} (h : Leads scope s next)
    (honly : ∀ s', Leads scope s s' → s' = next) (hdepth : s.depth ≤ next.depth) :
    s.StaysWithin scope limit ↔ next.StaysWithin scope limit := by
  rw [staysWithin_iff]
  constructor
  · rintro ⟨-, hnext⟩
    exact hnext next h
  · intro hstays
    refine ⟨hdepth.trans hstays.depth_le, ?_⟩
    intro s' hs
    rw [honly s' hs]
    exact hstays

theorem staysWithin_not {inner : Predicate} :
    StaysWithin scope limit ⟨frame, .not inner, depth⟩ ↔
      StaysWithin scope limit ⟨frame, inner, depth⟩ := by
  refine staysWithin_iff_of_leads .not ?_ (Nat.le_refl depth)
  intro s' h
  cases h
  rfl

theorem staysWithin_nested {path : FieldPath} {inner : Predicate} {outer : ScopedResolution}
    (houter : scope.resolve frame.root path .nested = .ok outer)
    (hrequire : outer.require .nested = .ok ()) :
    StaysWithin scope limit ⟨frame, .nested path inner, depth⟩ ↔ StaysWithin scope limit
      ⟨{ frame with root := some outer.path, opened := some outer.path }, inner, depth⟩ := by
  refine staysWithin_iff_of_leads (.nested houter hrequire) ?_ (Nat.le_refl depth)
  intro s' h
  cases h with
  | nested houter' => cases houter.symm.trans houter'; rfl

theorem staysWithin_named {name : String} {params : ParamBag} {full : FieldPath}
    {node : Option FieldPath} {residual : List NestingScope} {provider : Provider}
    {produced : Predicate} (hfull : FieldPath.parse name = .ok full)
    (htarget : target scope frame full = .ok (node, residual))
    (hprovider : lookup scope node full.last.name full = .ok provider)
    (hproduced : provider.provide ⟨name, params⟩ = .ok produced) :
    StaysWithin scope limit ⟨frame, .named name params, depth⟩ ↔
      StaysWithin scope limit ⟨frame.expansion node residual, produced, depth + 1⟩ := by
  refine staysWithin_iff_of_leads (.named hfull htarget hprovider hproduced) ?_ (Nat.le_succ depth)
  intro s' h
  cases h with
  | named hfull' htarget' hprovider' hproduced' =>
    cases expansion_unique hfull htarget hprovider hproduced hfull' htarget' hprovider' hproduced'
    rfl

theorem staysWithin_boosted {inner : Predicate} {boost : Float32}
    (hboost : checkBoost boost = .ok ()) :
    StaysWithin scope limit ⟨frame, .boosted inner boost, depth⟩ ↔
      StaysWithin scope limit ⟨frame, inner, depth⟩ := by
  refine staysWithin_iff_of_leads (.boosted hboost) ?_ (Nat.le_refl depth)
  intro s' h
  cases h
  rfl

theorem staysWithin_constantScore {inner : Predicate} :
    StaysWithin scope limit ⟨frame, .constantScore inner, depth⟩ ↔
      StaysWithin scope limit ⟨frame, inner, depth⟩ := by
  refine staysWithin_iff_of_leads .constantScore ?_ (Nat.le_refl depth)
  intro s' h
  cases h
  rfl

end Site

/-! ## Placing under limits -/

/-- What comes of placing under limits what is placed as `r` without them, where `stays` says that
    it keeps to the limit of depth and `fits` that it keeps to the limit of leaves. -/
inductive Limited (config : CompilerConfig) (stays fits : Prop) (r : Placed) :
    Except QueryError Placed → Prop
  | placed (hstays : stays) (hfits : fits) : Limited config stays fits r (.ok r)
  | tooMany (hfits : ¬ fits) :
      Limited config stays fits r (.error (.tooManyClauses config.maxClauseCount))
  | tooDeep (hstays : ¬ stays) (name : String) :
      Limited config stays fits r
        (.error (.namedPredicateRecursion name config.maxExpansionDepth))

namespace Limited

variable {config : CompilerConfig} {stays stays' fits fits' : Prop} {r : Placed}
  {x : Except QueryError Placed}

/-- A node around a tree changes what is placed, and neither limit. -/
theorem map (h : Limited config stays fits r x) (f : Placed → Placed) (hstays : stays' ↔ stays)
    (hfits : fits' ↔ fits) : Limited config stays' fits' (f r) (x.map f) := by
  cases h with
  | placed hs hf => exact .placed (hstays.mpr hs) (hfits.mpr hf)
  | tooMany hf => exact .tooMany (fun hf' => hf (hfits.mp hf'))
  | tooDeep hs name => exact .tooDeep (fun hs' => hs (hstays.mp hs')) name

theorem eq_ok_iff (h : Limited config stays fits r x) : x = .ok r ↔ stays ∧ fits := by
  cases h with
  | placed hs hf => simp [hs, hf]
  | tooMany hf => simp [hf]
  | tooDeep hs name => simp [hs]

end Limited

/-- Two parts that are placed one after the other: the second is only looked at if the first keeps
    to the limits, and counts on from there. -/
theorem Limited.bind {config : CompilerConfig}
    {stays staysFirst staysRest fits fitsFirst fitsRest : Prop} {first rest : Placed}
    {x : Except QueryError Placed} {f : Placed → Except QueryError Placed}
    (h : Limited config staysFirst fitsFirst first x)
    (hrest : fitsFirst → Limited config staysRest fitsRest rest (f first))
    (g : Placed → Placed → Placed) (hstays : stays ↔ staysFirst ∧ staysRest)
    (hfits : fits ↔ fitsFirst ∧ fitsRest) :
    Limited config stays fits (g first rest) (x >>= fun r => (f r).map (g r)) := by
  cases h with
  | placed hs hf =>
    exact (hrest hf).map (g first) (by simp [hstays, hs]) (by simp [hfits, hf])
  | tooMany hf => exact .tooMany fun hf' => hf (hfits.mp hf').1
  | tooDeep hs name => exact .tooDeep (fun hs' => hs (hstays.mp hs').1) name

/-! ## Leaves in a placed predicate -/

@[simp] theorem leafCount_within (scopes : List NestingScope) (p : Predicate) :
    (p.within scopes).leafCount = p.leafCount := by
  unfold Predicate.leafCount
  rw [leaves_within]

theorem leafCount_cons (operator : BoolOperator) (p : Predicate) (ps : List Predicate) :
    (Predicate.bool operator (p :: ps)).leafCount =
      p.leafCount + (Predicate.bool operator ps).leafCount := by
  simp [Predicate.leafCount, Predicate.leaves, Predicate.leavesOf]

variable {scope : SearchScope} {config : CompilerConfig} {frame : Frame} {p : Predicate}
  {r : Placed}

/-- **What comes of a predicate under limits**, if it has a derivation. -/
theorem Derivation.limited (h : Derivation scope config frame p r) :
    ∀ (reached depth used : Nat), used ≤ config.maxClauseCount →
      Limited config (Site.StaysWithin scope (reached + depth) ⟨frame, p, reached⟩)
        (used + r.predicate.leafCount ≤ config.maxClauseCount) r
        (expanding scope config depth frame used p) := by
  induction h with
  | @bare frame l hcheck husage =>
    intro reached depth used hused
    rw [expanding_leaf, Placement.leaf, hcheck]
    simp only [husage]
    have hstays : Site.StaysWithin scope (reached + depth) ⟨frame, .leaf l, reached⟩ :=
      Site.staysWithin_leaf.mpr (Nat.le_add_right reached depth)
    split
    · rename_i hfull
      exact .tooMany (Nat.not_le.mpr hfull)
    · rename_i hroom
      exact .placed hstays (Nat.not_lt.mp hroom)
  | @leaf frame l usage fields chain hcheck husage hfields =>
    intro reached depth used hused
    rw [expanding_leaf, Placement.leaf, hcheck]
    simp only [husage]
    have hstays : Site.StaysWithin scope (reached + depth) ⟨frame, .leaf l, reached⟩ :=
      Site.staysWithin_leaf.mpr (Nat.le_add_right reached depth)
    rw [leafCount_within]
    split
    · rename_i hfull
      exact .tooMany (Nat.not_le.mpr hfull)
    · rename_i hroom
      rw [hfields]
      exact .placed hstays (Nat.not_lt.mp hroom)
  | @noClause frame operator =>
    intro reached depth used hused
    rw [expanding_noClause]
    exact .placed (Site.staysWithin_bool.mpr ⟨Nat.le_add_right reached depth, by simp⟩) hused
  | @clause frame operator p ps qs first leaves scopes hfirst hrest ihfirst ihrest =>
    intro reached depth used hused
    rw [expanding_clause]
    refine Limited.bind (f := fun r => expanding scope config depth frame
        (used + r.predicate.leafCount) (.bool operator ps)) (ihfirst reached depth used hused)
      (fun hfits => ihrest reached depth (used + first.predicate.leafCount) hfits)
      Placed.addClause ?_ ?_
    · rw [Site.staysWithin_bool, Site.staysWithin_bool, List.forall_mem_cons]
      tauto
    · simp only [leafCount_cons]
      omega
  | not hinner ih =>
    intro reached depth used hused
    rw [expanding_not]
    exact (ih reached depth used hused).map (fun r => { r with predicate := .not r.predicate })
      Site.staysWithin_not Iff.rfl
  | @nested frame path inner outer r houter hrequire hinner ih =>
    intro reached depth used hused
    rw [expanding_enter, enter_eq_ok_iff.mpr ⟨houter, hrequire⟩]
    refine (ih reached depth used hused).map
      (fun r => ⟨r.predicate.within (outer.chain.after frame.opened), r.leaves,
        (outer.path, frame.optional) :: r.scopes⟩) (Site.staysWithin_nested houter hrequire) ?_
    rw [leafCount_within]
  | @named frame name params full node residual provider produced r hfull htarget hprovider
      hproduced hinner ih =>
    intro reached depth used hused
    have hstays : ∀ limit, Site.StaysWithin scope limit ⟨frame, .named name params, reached⟩ ↔
        Site.StaysWithin scope limit ⟨frame.expansion node residual, produced, reached + 1⟩ :=
      fun limit => Site.staysWithin_named hfull htarget hprovider hproduced
    cases depth with
    | zero =>
      -- No name may be expanded here, and the expansion would be one too deep.
      refine .tooDeep (fun h => ?_) _
      exact absurd ((hstays _).mp h).depth_le (Nat.not_succ_le_self reached)
    | succ depth =>
      have hinvoke : invoke scope frame name params = .ok ⟨node, residual, produced⟩ :=
        invoke_eq_ok_iff.mpr ⟨full, provider, hfull, htarget, hprovider, hproduced⟩
      rw [expanding_invoke, hinvoke]
      have hrun := ih (reached + 1) depth used hused
      rw [Nat.add_right_comm] at hrun
      refine hrun.map (fun r => { r with predicate := r.predicate.within residual }) (hstays _) ?_
      rw [leafCount_within]
  | @boosted frame inner boost r hboost hinner ih =>
    intro reached depth used hused
    rw [expanding_boost, hboost]
    exact (ih reached depth used hused).map
      (fun r => { r with predicate := .boosted r.predicate boost })
      (Site.staysWithin_boosted hboost) Iff.rfl
  | constantScore hinner ih =>
    intro reached depth used hused
    rw [expanding_constantScore]
    exact (ih reached depth used hused).map
      (fun r => { r with predicate := .constantScore r.predicate })
      Site.staysWithin_constantScore Iff.rfl

/-! ## Configurations -/

theorem resolveFields_of_config {config' : CompilerConfig}
    (hvalidates : config'.validateUsages = true → config.validateUsages = true)
    {root : Option FieldPath} {usage : Usage} {first : Option (FieldPath × NestingChain)}
    {fields : List FieldPath} {x : List FieldPath × NestingChain}
    (h : resolveFields scope config root usage first fields = .ok x) :
    resolveFields scope config' root usage first fields = .ok x := by
  induction fields generalizing first x with
  | nil => exact h
  | cons field rest ih =>
    unfold resolveFields at h ⊢
    obtain ⟨r, hr, h⟩ := bind_eq_ok_iff.mp h
    obtain ⟨hdemand, h⟩ := demand_eq_ok_iff.mp h
    refine bind_eq_ok_iff.mpr ⟨r, hr, demand_eq_ok_iff.mpr ⟨?_, ?_⟩⟩
    · intro hon
      exact hdemand (hvalidates hon)
    cases first with
    | none =>
      obtain ⟨more, hmore, h⟩ := bind_eq_ok_iff.mp h
      exact bind_eq_ok_iff.mpr ⟨more, ih hmore, h⟩
    | some x =>
      obtain ⟨hsame, h⟩ := demand_eq_ok_iff.mp h
      obtain ⟨more, hmore, h⟩ := bind_eq_ok_iff.mp h
      exact demand_eq_ok_iff.mpr ⟨hsame, bind_eq_ok_iff.mpr ⟨more, ih hmore, h⟩⟩

/-- Of a configuration, a derivation knows whether usages are validated, and does without. -/
theorem Derivation.of_config (h : Derivation scope config frame p r) {config' : CompilerConfig}
    (hvalidates : config'.validateUsages = true → config.validateUsages = true) :
    Derivation scope config' frame p r := by
  induction h with
  | bare hcheck husage => exact .bare hcheck husage
  | leaf hcheck husage hfields =>
    exact .leaf hcheck husage (resolveFields_of_config hvalidates hfields)
  | noClause => exact .noClause
  | clause hfirst hrest ihfirst ihrest => exact .clause ihfirst ihrest
  | not hinner ih => exact .not ih
  | nested houter hrequire hinner ih => exact .nested houter hrequire ih
  | named hfull htarget hprovider hproduced hinner ih =>
    exact .named hfull htarget hprovider hproduced ih
  | boosted hboost hinner ih => exact .boosted hboost ih
  | constantScore hinner ih => exact .constantScore ih

end Placement

open Placement

variable {scope : SearchScope} {config : CompilerConfig} {p : Predicate} {r : Placed}

theorem limited_of_derivation (h : Derivation scope config .top p r) :
    Limited config (Site.StaysWithin scope config.maxExpansionDepth ⟨.top, p, 0⟩)
      (r.predicate.leafCount ≤ config.maxClauseCount) r (place scope config p) := by
  have hrun := h.limited 0 config.maxExpansionDepth 0 (Nat.zero_le _)
  rwa [Nat.zero_add, Nat.zero_add] at hrun

/-- **When a predicate is placed**: it has a derivation that keeps to both limits. -/
theorem place_eq_ok_iff : place scope config p = .ok r ↔
    Derivation scope config .top p r ∧ r.predicate.leafCount ≤ config.maxClauseCount ∧
      Site.StaysWithin scope config.maxExpansionDepth ⟨.top, p, 0⟩ := by
  constructor
  · intro h
    have hderivation := derivation_of_place h
    obtain ⟨hstays, hfits⟩ := (limited_of_derivation hderivation).eq_ok_iff.mp h
    exact ⟨hderivation, hfits, hstays⟩
  · rintro ⟨hderivation, hfits, hstays⟩
    exact (limited_of_derivation hderivation).eq_ok_iff.mpr ⟨hstays, hfits⟩

theorem exists_isGreatest_depthsReached {limit : Nat}
    (h : Site.StaysWithin scope limit ⟨.top, p, 0⟩) :
    ∃ d, IsGreatest (depthsReached scope p) d := by
  have hbound : BddAbove (depthsReached scope p) := by
    refine ⟨limit, ?_⟩
    rintro _ ⟨s, hs, rfl⟩
    exact h s hs
  have hne : (depthsReached scope p).Nonempty := ⟨0, _, .refl, rfl⟩
  exact ⟨_, Nat.sSup_mem hne hbound, fun d hd => le_csSup hbound hd⟩

theorem staysWithin_iff_le {d limit : Nat} (hd : IsGreatest (depthsReached scope p) d) :
    Site.StaysWithin scope limit ⟨.top, p, 0⟩ ↔ d ≤ limit := by
  constructor
  · intro h
    obtain ⟨s, hs, rfl⟩ := hd.1
    exact h s hs
  · intro hle s hs
    exact (hd.2 ⟨s, hs, rfl⟩).trans hle

/-- **Placement ends, and its limits are exact.** The sites within the limit of depth cannot be
    followed forever. If a predicate is placed, names stand inside one another to some greatest
    depth `d`; then any other limit on leaves gives the same, down to the number of leaves there
    are, and any other limit of depth gives the same, down to `d`, and below these numbers it is the
    limit that is the error. -/
theorem place_limits_exact (scope : SearchScope) (config : CompilerConfig) (p : Predicate) :
    (WellFounded fun s' s => Leads scope s s' ∧ s'.depth ≤ config.maxExpansionDepth) ∧
    ∀ r, place scope config p = .ok r → ∃ d, IsGreatest (depthsReached scope p) d ∧
      (∀ limit, place scope { config with maxClauseCount := limit } p =
        if r.predicate.leafCount ≤ limit then .ok r else .error (.tooManyClauses limit)) ∧
      ∀ limit,
        (d ≤ limit → place scope { config with maxExpansionDepth := limit } p = .ok r) ∧
        (limit < d → ∃ name, place scope { config with maxExpansionDepth := limit } p =
          .error (.namedPredicateRecursion name limit)) := by
  refine ⟨leads_wellFounded scope config.maxExpansionDepth, ?_⟩
  intro r h
  obtain ⟨hderivation, hfits, hstays⟩ := place_eq_ok_iff.mp h
  obtain ⟨d, hd⟩ := exists_isGreatest_depthsReached hstays
  refine ⟨d, hd, ?_, ?_⟩
  · intro limit
    have hsame : Derivation scope { config with maxClauseCount := limit } .top p r :=
      hderivation.of_config fun hvalidates => hvalidates
    have hlimited := limited_of_derivation hsame
    split
    · rename_i hle
      exact hlimited.eq_ok_iff.mpr ⟨hstays, hle⟩
    · rename_i hmore
      generalize hx : place scope { config with maxClauseCount := limit } p = x at hlimited
      cases hlimited with
      | placed _ hle => exact absurd hle hmore
      | tooMany _ => rfl
      | tooDeep hnot name => exact absurd hstays hnot
  · intro limit
    have hsame : Derivation scope { config with maxExpansionDepth := limit } .top p r :=
      hderivation.of_config fun hvalidates => hvalidates
    have hlimited := limited_of_derivation hsame
    refine ⟨fun hle => hlimited.eq_ok_iff.mpr ⟨(staysWithin_iff_le hd).mpr hle, hfits⟩, ?_⟩
    intro hless
    generalize place scope { config with maxExpansionDepth := limit } p = x at hlimited
    cases hlimited with
    | placed hle _ => exact absurd ((staysWithin_iff_le hd).mp hle) (Nat.not_le.mpr hless)
    | tooMany hmore => exact absurd hfits hmore
    | tooDeep _ name => exact ⟨name, rfl⟩

namespace Sample

def hue : FieldPath := ⟨.literal "hue", []⟩

def paints : Schema where
  index := "paints"
  fields := [("hue", .value (.ofType .string))]
  valid := by decide +kernel

/-- The name with a count for its parameter. -/
def countdownFrom (n : Int) : Predicate :=
  .named "countdown" (NameMap.empty.insert "n" (.int n))

/-- A name that stands for itself, beside a leaf, until there is nothing left to count. -/
def countdown : Provider where
  key := "countdown"
  provide i := do
    let n ← i.int "n"
    let hasHue := Predicate.leaf ⟨[hue], .exists⟩
    return if n = 0 then hasHue else .bool .or [hasHue, countdownFrom (n - 1)]

def countable : SearchScope := .single ⟨paints, ⟨[⟨none, "countdown", countdown⟩]⟩⟩

end Sample

/-- What `place_limits_exact` says of a name that stands for itself and counts down from two: three
    expansions with a leaf each, both of which may be forbidden. -/
theorem place_limits_exact_sample :
    ∃ r, place Sample.countable .default (Sample.countdownFrom 2) = .ok r ∧
      r.predicate.leafCount = 3 ∧
      IsGreatest (depthsReached Sample.countable (Sample.countdownFrom 2)) 3 ∧
      place Sample.countable { CompilerConfig.default with maxClauseCount := 2 }
        (Sample.countdownFrom 2) = .error (.tooManyClauses 2) ∧
      ∃ name, place Sample.countable { CompilerConfig.default with maxExpansionDepth := 2 }
        (Sample.countdownFrom 2) = .error (.namedPredicateRecursion name 2) := by
  have hcount : (place Sample.countable .default (Sample.countdownFrom 2)).toOption.map
      (fun r => r.predicate.leafCount) = some 3 := by decide +kernel
  have hthree : (place Sample.countable { CompilerConfig.default with maxExpansionDepth := 3 }
      (Sample.countdownFrom 2)).toOption.isSome = true := by decide +kernel
  have htwo : (place Sample.countable { CompilerConfig.default with maxExpansionDepth := 2 }
      (Sample.countdownFrom 2)).toOption.isSome = false := by decide +kernel
  cases hplace : place Sample.countable .default (Sample.countdownFrom 2) with
  | error e =>
    rw [hplace] at hcount
    cases hcount
  | ok r =>
    rw [hplace] at hcount
    have hleaves : r.predicate.leafCount = 3 := Option.some.inj hcount
    obtain ⟨d, hd, hclauses, hdepths⟩ := (place_limits_exact _ _ _).2 r hplace
    have hle : d ≤ 3 := by
      by_contra hmore
      obtain ⟨name, herror⟩ := (hdepths 3).2 (Nat.lt_of_not_le hmore)
      rw [herror] at hthree
      cases hthree
    have hlt : 2 < d := by
      by_contra hless
      rw [(hdepths 2).1 (Nat.le_of_not_lt hless)] at htwo
      cases htwo
    obtain rfl : d = 3 := Nat.le_antisymm hle hlt
    refine ⟨r, rfl, hleaves, hd, ?_, (hdepths 2).2 hlt⟩
    rw [hclauses 2, hleaves]
    rfl

end NestedSearch
