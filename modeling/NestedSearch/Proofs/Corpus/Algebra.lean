import NestedSearch.Proofs.Compile
import NestedSearch.Proofs.Corpus.Search
import NestedSearch.Proofs.Placement.Reach
import NestedSearch.Proofs.Placement.Scoping

/-!
# The algebra of hits

Conjunction, disjunction and negation of predicates are intersection, union and complement of their
hits, and scoring leaves the hits alone (`search_algebra`).

A predicate that becomes a clause keeps its meaning for two reasons. It is placed as it is on its
own (`Derivation.clauses_eq`). And although neighbours are kept in one list for the whole query,
in which each leaf finds its own by the number of leaves that precede it, a clause sees only its
own part of the list (`accepts_shift`), also if evaluation passes over other clauses.
-/

namespace NestedSearch

/-- Whether truth values hold as the operator joins them. -/
def BoolOperator.join : BoolOperator → List Bool → Bool
  | .and, bs => bs.all id
  | .or, bs => bs.any id

namespace Evaluation

variable {e : Evaluation} {d : DocumentPart} {neighbours : List (List Hit)} {ordinal ordinal' : Nat}

/-! ## Leaves in another place -/

theorem targets_shift (analysis : AnalysisOverride) (fields : List FieldPath) :
    Evaluation.targets { e with neighbours } d analysis fields = e.targets d analysis fields := by
  induction fields with
  | nil => rfl
  | cons f rest ih => rw [targets, targets, ih]

theorem matchesLeaf_shift {l : Leaf} (h : neighbours[ordinal']? = e.neighbours[ordinal]?) :
    Evaluation.matchesLeaf { e with neighbours } d ordinal' l = e.matchesLeaf d ordinal l := by
  obtain ⟨fields, kind⟩ := l
  unfold matchesLeaf
  cases kind with
  | simpleQueryString query operator analysis => simp only [targets_shift]
  | knn vector k =>
    simp only [h]
    rfl
  | _ => rfl

mutual

/-- **A predicate sees its own part of the neighbours only.** -/
theorem accepts_shift : ∀ (p : Predicate) {d : DocumentPart} {ordinal ordinal' : Nat},
    (∀ j < p.leafCount, neighbours[ordinal' + j]? = e.neighbours[ordinal + j]?) →
      Evaluation.accepts { e with neighbours } d ordinal' p = e.accepts d ordinal p
  | .leaf l, d, ordinal, ordinal', h => by
    rw [accepts, accepts]
    exact matchesLeaf_shift (h 0 Nat.one_pos)
  | .bool operator clauses, d, ordinal, ordinal', h => by
    rw [accepts, accepts]
    exact acceptsClauses_shift clauses h
  | .not inner, d, ordinal, ordinal', h => by
    rw [accepts, accepts, accepts_shift inner h]
  | .nested path inner, d, ordinal, ordinal', h => by
    rw [accepts, accepts]
    refine congrArg (d.values path >>= ·) (funext fun values => ?_)
    exact congrArg (anyAccepted · _) (funext fun v => accepts_shift inner h)
  | .named name params, d, ordinal, ordinal', h => by
    rw [accepts, accepts]
  | .boosted inner boost, d, ordinal, ordinal', h => by
    rw [accepts, accepts, accepts_shift inner h]
  | .constantScore inner, d, ordinal, ordinal', h => by
    rw [accepts, accepts, accepts_shift inner h]

theorem acceptsClauses_shift : ∀ (ps : List Predicate) {d : DocumentPart} {operator : BoolOperator}
    {ordinal ordinal' : Nat},
    (∀ j < (Predicate.leavesOf ps).length,
      neighbours[ordinal' + j]? = e.neighbours[ordinal + j]?) →
      Evaluation.acceptsClauses { e with neighbours } d operator ordinal' ps =
        e.acceptsClauses d operator ordinal ps
  | [], d, operator, ordinal, ordinal', h => by
    rw [acceptsClauses, acceptsClauses]
  | p :: ps, d, operator, ordinal, ordinal', h => by
    rw [Predicate.leavesOf, List.length_append] at h
    have hfirst : ∀ j < p.leafCount, neighbours[ordinal' + j]? = e.neighbours[ordinal + j]? :=
      fun j hj => h j (Nat.lt_add_right _ hj)
    have hrest : ∀ j < (Predicate.leavesOf ps).length,
        neighbours[ordinal' + p.leafCount + j]? = e.neighbours[ordinal + p.leafCount + j]? := by
      intro j hj
      rw [Nat.add_assoc, Nat.add_assoc]
      exact h _ (Nat.add_lt_add_left hj _)
    rw [acceptsClauses, acceptsClauses, accepts_shift p hfirst, acceptsClauses_shift ps hrest]

end

/-! ## Clauses -/

variable {schema : Definition} {hit : Hit} {near : Leaf → List Hit}

/-- Among other leaves a predicate means what it means on its own. -/
theorem accepts_among (before after : List Leaf) (p : Predicate) :
    Evaluation.accepts ⟨schema, hit, (before ++ p.leaves ++ after).map near⟩ d before.length p =
      Evaluation.accepts ⟨schema, hit, p.leaves.map near⟩ d 0 p := by
  refine accepts_shift (e := ⟨schema, hit, p.leaves.map near⟩) p ?_
  intro j hj
  have hown : j < (p.leaves.map near).length := by rwa [List.length_map]
  rw [List.map_append, List.map_append, List.append_assoc,
    List.getElem?_append_right (by simp), List.length_map, Nat.add_sub_cancel_left,
    List.getElem?_append_left hown, Nat.zero_add]

/-- **Clauses whose verdicts are known are joined as the operator says**, although evaluation
    stops at the first one that decides. -/
theorem acceptsClauses_eq {operator : BoolOperator} {ps : List Predicate} {verdicts : List Bool}
    (h : List.Forall₂ (fun p verdict =>
      Evaluation.accepts ⟨schema, hit, p.leaves.map near⟩ d 0 p = .ok verdict) ps verdicts)
    (before : List Leaf) :
    Evaluation.acceptsClauses ⟨schema, hit, (before ++ Predicate.leavesOf ps).map near⟩ d operator
      before.length ps = .ok (operator.join verdicts) := by
  induction h generalizing before with
  | nil => cases operator <;> rfl
  | @cons p verdict ps verdicts hfirst hrest ih =>
    have hih := ih (before ++ p.leaves)
    rw [List.length_append] at hih
    rw [Predicate.leavesOf, ← List.append_assoc, acceptsClauses, accepts_among, hfirst,
      Predicate.leafCount, hih]
    cases operator <;> cases verdict <;> rfl

end Evaluation

/-! ## Compiled clauses -/

section Compile

variable {scope : SearchScope} {config : CompilerConfig} {p : Predicate} {q q' : CompiledQuery}

theorem derivation_of_compile (h : compile scope config p = .ok q) :
    ∃ r, Placement.Derivation scope config .top p r ∧ q.predicate = r.predicate := by
  obtain ⟨r, hr, hpredicate, -⟩ := compile_ok h
  exact ⟨r, derivation_of_place hr, hpredicate⟩

theorem compile_bool_ok {operator : BoolOperator} {ps : List Predicate} {qs : List CompiledQuery}
    (hqs : List.Forall₂ (fun p q => compile scope config p = .ok q) ps qs)
    (h : compile scope config (.bool operator ps) = .ok q) :
    q.predicate = .bool operator (qs.map CompiledQuery.predicate) := by
  obtain ⟨r, hr, hpredicate⟩ := derivation_of_compile h
  rw [hpredicate]
  refine hr.clauses_eq (List.forall₂_map_right_iff.mpr (hqs.imp ?_))
  exact fun p q hq => derivation_of_compile hq

theorem compile_not_ok (hp : compile scope config p = .ok q')
    (h : compile scope config (.not p) = .ok q) : q.predicate = .not q'.predicate := by
  obtain ⟨r', hr', hpredicate'⟩ := derivation_of_compile hp
  obtain ⟨r, hr, hpredicate⟩ := derivation_of_compile h
  cases hr with
  | not hinner => rw [hpredicate, hpredicate', hr'.predicate_eq hinner rfl rfl]

theorem compile_boosted_ok {boost : Float32} (hp : compile scope config p = .ok q')
    (h : compile scope config (.boosted p boost) = .ok q) :
    q.predicate = .boosted q'.predicate boost := by
  obtain ⟨r', hr', hpredicate'⟩ := derivation_of_compile hp
  obtain ⟨r, hr, hpredicate⟩ := derivation_of_compile h
  cases hr with
  | boosted hboost hinner => rw [hpredicate, hpredicate', hr'.predicate_eq hinner rfl rfl]

theorem compile_constantScore_ok (hp : compile scope config p = .ok q')
    (h : compile scope config (.constantScore p) = .ok q) :
    q.predicate = .constantScore q'.predicate := by
  obtain ⟨r', hr', hpredicate'⟩ := derivation_of_compile hp
  obtain ⟨r, hr, hpredicate⟩ := derivation_of_compile h
  cases hr with
  | constantScore hinner => rw [hpredicate, hpredicate', hr'.predicate_eq hinner rfl rfl]

end Compile

/-! ## Searches -/

/-- The predicate compiles for the scope, and its search gives these hits. -/
def Finds (scope : SearchScope) (config : CompilerConfig) (c : Corpus) (p : Predicate)
    (hits : List Hit) : Prop :=
  ∃ q, compile scope config p = .ok q ∧ c.search scope q = .ok hits

/-- To find hits is to compute them. -/
theorem finds_of_toOption {scope : SearchScope} {config : CompilerConfig} {c : Corpus}
    {p : Predicate} {hits : List Hit}
    (h : (compile scope config p).toOption.bind (fun q =>
      (c.hitsOf scope q.predicate).toOption) = some hits) : Finds scope config c p hits := by
  obtain ⟨q, hq, hhits⟩ := Option.bind_eq_some_iff.mp h
  have hq := toOption_eq_some_iff.mp hq
  refine ⟨q, hq, ?_⟩
  rw [Corpus.search_eq_hitsOf (ensureScope_of_compile hq)]
  exact toOption_eq_some_iff.mp hhits

section Search

variable {scope : SearchScope} {config : CompilerConfig} {c : Corpus} {p : Predicate}
  {q : CompiledQuery} {hits : List Hit}

theorem exists_compiled {ps : List Predicate} {results : List (List Hit)}
    (h : List.Forall₂ (Finds scope config c) ps results) :
    ∃ qs, List.Forall₂ (fun p q => compile scope config p = .ok q) ps qs ∧
      List.Forall₂ (fun q hits => c.search scope q = .ok hits) qs results := by
  induction h with
  | nil => exact ⟨[], .nil, .nil⟩
  | cons hfinds _ ih =>
    obtain ⟨q, hq, hsearch⟩ := hfinds
    obtain ⟨qs, hqs, hsearches⟩ := ih
    exact ⟨q :: qs, .cons hq hqs, .cons hsearch hsearches⟩

theorem search_bool {operator : BoolOperator} {ps : List Predicate} {results : List (List Hit)}
    (h : List.Forall₂ (Finds scope config c) ps results)
    (hq : compile scope config (.bool operator ps) = .ok q) :
    c.search scope q = .ok ((c.hitsIn scope).filter fun hit =>
      operator.join (results.map fun hits => decide (hit ∈ hits))) := by
  obtain ⟨qs, hcompiled, hsearched⟩ := exists_compiled h
  refine Corpus.search_eq_ok_of_verdicts (ensureScope_of_compile hq) ?_
  intro i hi entry hentry
  rw [compile_bool_ok hcompiled hq, Corpus.verdict, Evaluation.accepts]
  refine Evaluation.acceptsClauses_eq (List.forall₂_map_left_iff.mpr
    (List.forall₂_map_right_iff.mpr (hsearched.imp ?_))) []
  exact fun q hits hsearch => Corpus.verdict_of_search hsearch hi hentry

theorem search_not (h : Finds scope config c p hits)
    (hq : compile scope config (.not p) = .ok q) :
    c.search scope q = .ok ((c.hitsIn scope).filter fun hit => hit ∉ hits) := by
  obtain ⟨q', hq', hsearch⟩ := h
  refine Corpus.search_eq_ok_of_verdicts (ensureScope_of_compile hq) ?_
  intro i hi entry hentry
  have hverdict := Corpus.verdict_of_search hsearch hi hentry
  rw [Corpus.verdict] at hverdict
  rw [compile_not_ok hq' hq, Corpus.verdict, Evaluation.accepts, Predicate.leaves, hverdict]
  exact congrArg Except.ok (decide_not).symm

theorem search_of_verdict_eq {q' : CompiledQuery} (hq : q.ensureScope scope = .ok ())
    (hsearch : c.search scope q' = .ok hits)
    (h : ∀ i ∈ scope.indexes, ∀ entry ∈ (c.documents i.name).entries,
      c.verdict scope q.predicate i entry = c.verdict scope q'.predicate i entry) :
    c.search scope q = .ok hits := by
  rw [Corpus.eq_filter_of_search hsearch]
  refine Corpus.search_eq_ok_of_verdicts hq fun i hi entry hentry => ?_
  rw [h i hi entry hentry, Corpus.verdict_of_search hsearch hi hentry]

/-- **The algebra of hits.** Of predicates whose searches succeed, the conjunction has the
    intersection of their hits (all documents of the scope, if there are none), the disjunction has
    the union, the negation the complement in the documents of the scope, and scoring changes
    nothing. -/
theorem search_algebra {ps : List Predicate} {results : List (List Hit)}
    (h : List.Forall₂ (Finds scope config c) ps results) :
    (∀ q, compile scope config (.bool .and ps) = .ok q →
        c.search scope q =
          .ok ((c.hitsIn scope).filter fun hit => ∀ hits ∈ results, hit ∈ hits)) ∧
      (∀ q, compile scope config (.bool .or ps) = .ok q →
        c.search scope q =
          .ok ((c.hitsIn scope).filter fun hit => ∃ hits ∈ results, hit ∈ hits)) ∧
      ∀ p hits, Finds scope config c p hits →
        (∀ q, compile scope config (.not p) = .ok q →
            c.search scope q = .ok ((c.hitsIn scope).filter fun hit => hit ∉ hits)) ∧
          (∀ boost q, compile scope config (.boosted p boost) = .ok q →
            c.search scope q = .ok hits) ∧
          ∀ q, compile scope config (.constantScore p) = .ok q → c.search scope q = .ok hits := by
  refine ⟨?_, ?_, ?_⟩
  · intro q hq
    rw [search_bool h hq]
    congr 3
    funext hit
    rw [Bool.eq_iff_iff]
    simp [BoolOperator.join]
  · intro q hq
    rw [search_bool h hq]
    congr 3
    funext hit
    rw [Bool.eq_iff_iff]
    simp [BoolOperator.join]
  · intro p hits hfinds
    refine ⟨fun q hq => search_not hfinds hq, ?_, ?_⟩
    · intro boost q hq
      obtain ⟨q', hq', hsearch⟩ := hfinds
      refine search_of_verdict_eq (ensureScope_of_compile hq) hsearch fun i _ entry _ => ?_
      rw [compile_boosted_ok hq' hq, Corpus.verdict, Evaluation.accepts]
      rfl
    · intro q hq
      obtain ⟨q', hq', hsearch⟩ := hfinds
      refine search_of_verdict_eq (ensureScope_of_compile hq) hsearch fun i _ entry _ => ?_
      rw [compile_constantScore_ok hq' hq, Corpus.verdict, Evaluation.accepts]
      rfl

end Search

namespace Sample

/-- An order line with a number, one with a label only, and an index without orders. -/
def shelf : Corpus :=
  ((Corpus.empty.insert ⟨"shop", "s1"⟩
    (.object [("orders", .object [("lines", .object [("sku", .text "a")])])])).insert
    ⟨"shop", "s2"⟩ (.object [("orders", .list [.object [("lines",
      .object [("note", .object [("tag", .object [("label", .text "b")])])])]])])).insert
      ⟨"blog", "b1"⟩ (.object [])

def ordered : Predicate := .leaf ⟨[⟨orders, []⟩], .exists⟩

/-- A predicate in a scope. -/
def withoutSku : Predicate :=
  .not (.nested ⟨orders, []⟩ (.leaf ⟨[⟨lines, [sku]⟩], .exists⟩))

end Sample

/-- The hypotheses of `search_algebra` can be met, and then the conjunction has the common hit. -/
theorem search_algebra_sample :
    Finds Sample.scope .default Sample.shelf Sample.ordered [⟨"shop", "s1"⟩, ⟨"shop", "s2"⟩] ∧
      Finds Sample.scope .default Sample.shelf Sample.withoutSku
        [⟨"shop", "s2"⟩, ⟨"blog", "b1"⟩] ∧
      (∃ q, compile Sample.scope .default (.bool .and [Sample.ordered, Sample.withoutSku]) = .ok q ∧
        Sample.shelf.search Sample.scope q = .ok [⟨"shop", "s2"⟩]) ∧
      ∃ q, compile Sample.scope .default (.not Sample.ordered) = .ok q ∧
        Sample.shelf.search Sample.scope q = .ok [⟨"blog", "b1"⟩] := by
  have hordered : Finds Sample.scope .default Sample.shelf Sample.ordered
      [⟨"shop", "s1"⟩, ⟨"shop", "s2"⟩] := finds_of_toOption (by decide +kernel)
  have hwithout : Finds Sample.scope .default Sample.shelf Sample.withoutSku
      [⟨"shop", "s2"⟩, ⟨"blog", "b1"⟩] := finds_of_toOption (by decide +kernel)
  obtain ⟨hand, -, hothers⟩ := search_algebra (.cons hordered (.cons hwithout .nil))
  obtain ⟨both, hboth⟩ := exists_of_isSome_toOption (x := compile Sample.scope .default
    (.bool .and [Sample.ordered, Sample.withoutSku])) (by decide +kernel)
  obtain ⟨unordered, hunordered⟩ := exists_of_isSome_toOption (x := compile Sample.scope .default
    (.not Sample.ordered)) (by decide +kernel)
  refine ⟨hordered, hwithout, ⟨both, hboth, ?_⟩, ⟨unordered, hunordered, ?_⟩⟩
  · exact (hand both hboth).trans (congrArg Except.ok (by decide +kernel))
  · exact ((hothers _ _ hordered).1 unordered hunordered).trans
      (congrArg Except.ok (by decide +kernel))

end NestedSearch
