import Mathlib.Data.List.Flatten
import Mathlib.Order.Bounds.Basic
import NestedSearch.Proofs.Corpus.Neighbours
import NestedSearch.Proofs.Corpus.Transparency
import NestedSearch.Proofs.Corpus.Vectors

/-!
# The nearest documents

A leaf that asks for neighbours selects documents before any of them is evaluated, by going through
each document from its root and taking whole lists of numbers. Afterwards it is evaluated like any
other leaf, from scope to scope and value by value. The second way drops none of the documents that the
first one selected: a list of numbers that is as long as the query has a number in it, and the scopes
of the field let that number through (`verdict_knn`).

So the hits are the nearest documents. Which ones these are is said without the selection: a document
is a candidate by what stands at the end of the path (`Corpus.IsCandidate`), and the candidates are
ranked by distance and names (`Corpus.IsRanking`). Main statement: `search_knn`.
-/

namespace NestedSearch

/-! ## The order of candidates -/

/-- Whether one candidate comes before the other: the nearer one, or of two that are as near the one
    whose index, or else whose identifier, comes first. -/
def Candidate.Before (a b : Candidate) : Prop :=
  a.rank < b.rank ∨ a.rank = b.rank ∧
    (a.hit.index < b.hit.index ∨ a.hit.index = b.hit.index ∧ a.hit.id < b.hit.id)

theorem Candidate.before_iff_key {a b : Candidate} : a.Before b ↔ a.key < b.key := by
  unfold Before key
  rw [Prod.Lex.toLex_lt_toLex, Prod.Lex.toLex_lt_toLex]

theorem Candidate.Before.ne {a b : Candidate} (h : a.Before b) : a ≠ b := by
  rintro rfl
  exact lt_irrefl _ (before_iff_key.mp h)

theorem Candidate.before_of_precedes {a b : Candidate} (h : a.precedes b = true) (hne : a ≠ b) :
    a.Before b :=
  before_iff_key.mpr (lt_of_le_of_ne (precedes_iff.mp h) fun heq => hne (key_injective heq))

/-! ## Candidates -/

namespace Corpus

/-- A document of an index that declares the field as a vector field, with the rank of the vector that
    is nearest to the query, of those at the field's path that are as long. -/
def IsCandidate (c : Corpus) (scope : SearchScope) (field : FieldPath) (query : List Float32)
    (x : Candidate) : Prop :=
  ∃ i ∈ scope.indexes, ∃ d f dimension metric,
    i.name = x.hit.index ∧ (x.hit.id, d) ∈ (c.documents i.name).entries ∧
      i.schema.node? field = some (.value f) ∧ f.type = .vector dimension metric ∧
        IsLeast {rank | ∃ v, d.HoldsVector field.segments v ∧ v.length = query.length ∧
          metric.rank (metric.distance query v) = rank} x.rank

/-- The candidates, each once, in their order. -/
structure IsRanking (c : Corpus) (scope : SearchScope) (field : FieldPath) (query : List Float32)
    (ranking : List Candidate) : Prop where
  mem_iff : ∀ x, x ∈ ranking ↔ c.IsCandidate scope field query x
  ordered : ranking.Pairwise Candidate.Before

end Corpus

theorem nearestRank?_eq_some_iff {metric : DistanceMetric} {query : List Float32}
    {vectors : List (List Float32)} {rank : Int} :
    nearestRank? metric query vectors = some rank ↔
      IsLeast {rank | ∃ v ∈ vectors, v.length = query.length ∧
        metric.rank (metric.distance query v) = rank} rank := by
  unfold nearestRank?
  rw [List.min?_eq_some_iff]
  simp only [List.mem_map, List.mem_filter, decide_eq_true_eq, and_assoc]
  rfl

theorem Node.metric?_eq_some_iff {node : Node} {metric : DistanceMetric} :
    node.metric? = some metric ↔
      ∃ f dimension, node = .value f ∧ f.type = .vector dimension metric := by
  cases node with
  | object storage multiValued children => simp [metric?]
  | value f =>
    unfold metric?
    cases htype : f.type <;> simp [htype]

namespace Corpus

variable {c : Corpus} {scope : SearchScope} {field : FieldPath} {query : List Float32}

theorem mem_candidatesIn_iff {i : TargetIndex} {x : Candidate} :
    x ∈ c.candidatesIn field query i ↔
      ∃ node metric, i.schema.node? field = some node ∧ node.metric? = some metric ∧
        ∃ d, (x.hit.id, d) ∈ (c.documents i.name).entries ∧ i.name = x.hit.index ∧
          nearestRank? metric query (d.vectors field.segments) = some x.rank := by
  unfold candidatesIn
  cases hmetric : (i.schema.node? field).bind Node.metric? with
  | none =>
    refine iff_of_false List.not_mem_nil ?_
    rintro ⟨node, metric, hnode, hsome, -⟩
    rw [hnode, Option.bind_some, hsome] at hmetric
    cases hmetric
  | some metric =>
    obtain ⟨node, hnode, hsome⟩ := Option.bind_eq_some_iff.mp hmetric
    simp only [List.mem_filterMap, Option.map_eq_some_iff]
    constructor
    · rintro ⟨⟨id, d⟩, hentry, rank, hrank, rfl⟩
      exact ⟨node, metric, hnode, hsome, d, hentry, rfl, hrank⟩
    · rintro ⟨node', metric', hnode', hsome', d, hentry, hname, hrank⟩
      cases hnode.symm.trans hnode'
      cases hsome.symm.trans hsome'
      obtain ⟨rank, index, id⟩ := x
      cases hname
      exact ⟨(id, d), hentry, rank, hrank, rfl⟩

/-- **What the selection goes through are the candidates.** -/
theorem mem_candidates_iff {x : Candidate} :
    x ∈ c.candidates scope field query ↔ c.IsCandidate scope field query x := by
  unfold candidates IsCandidate
  simp only [List.mem_flatMap, mem_candidatesIn_iff, nearestRank?_eq_some_iff,
    Document.mem_vectors_iff, Node.metric?_eq_some_iff]
  refine exists_congr fun i => and_congr_right fun _ => ?_
  constructor
  · rintro ⟨node, metric, hnode, ⟨f, dimension, rfl, htype⟩, d, hentry, hname, hrank⟩
    exact ⟨d, f, dimension, metric, hname, hentry, hnode, htype, hrank⟩
  · rintro ⟨d, f, dimension, metric, hname, hentry, hnode, htype, hrank⟩
    exact ⟨_, metric, hnode, ⟨f, dimension, rfl, htype⟩, d, hentry, hname, hrank⟩

/-- The documents of a scope have different names. -/
theorem nodup_hitsIn (c : Corpus) (scope : SearchScope) : (c.hitsIn scope).Nodup := by
  unfold hitsIn
  rw [List.map_flatMap, List.nodup_flatMap]
  constructor
  · intro i _
    unfold named
    rw [List.map_map]
    refine List.pairwise_map.mpr ((List.pairwise_map.mp (c.documents i.name).nodup_names).imp ?_)
    intro a b hne heq
    exact hne (Hit.mk.inj heq).2
  · refine (List.pairwise_map.mp scope.distinct).imp ?_
    intro i j hne hit hi hj
    obtain ⟨x, hx, rfl⟩ := List.mem_map.mp hi
    obtain ⟨y, hy, heq⟩ := List.mem_map.mp hj
    obtain ⟨a, -, rfl⟩ := List.mem_map.mp hx
    obtain ⟨b, -, rfl⟩ := List.mem_map.mp hy
    exact hne (Hit.mk.inj heq).1.symm

/-- An index has at most one candidate for each of its documents. -/
theorem hits_candidatesIn_sublist (i : TargetIndex) :
    ((c.candidatesIn field query i).map Candidate.hit).Sublist
      ((c.named i).map fun x => x.2.1) := by
  unfold candidatesIn named
  cases (i.schema.node? field).bind Node.metric? with
  | none => exact List.nil_sublist _
  | some metric =>
    simp only [List.map_map]
    induction (c.documents i.name).entries with
    | nil => exact .slnil
    | cons entry rest ih =>
      rw [List.filterMap_cons, List.map_cons]
      cases nearestRank? metric query (entry.2.vectors field.segments) with
      | none => exact ih.cons _
      | some rank => exact ih.cons_cons _

theorem nodup_candidates : (c.candidates scope field query).Nodup := by
  have hsublist : ((c.candidates scope field query).map Candidate.hit).Sublist
      (c.hitsIn scope) := by
    unfold candidates hitsIn
    rw [List.map_flatMap, List.map_flatMap]
    exact List.Sublist.flatMap_right _ fun i _ => hits_candidatesIn_sublist i
  exact (hsublist.nodup (c.nodup_hitsIn scope)).of_map _

/-- No document is a candidate twice. -/
theorem IsCandidate.eq_of_hit {x y : Candidate} (hx : c.IsCandidate scope field query x)
    (hy : c.IsCandidate scope field query y) (h : x.hit = y.hit) : x = y := by
  obtain ⟨i, hi, d, f, dimension, metric, hname, hentry, hnode, htype, hrank⟩ := hx
  obtain ⟨j, hj, d', f', dimension', metric', hname', hentry', hnode', htype', hrank'⟩ := hy
  cases SearchScope.eq_of_name_eq hi hj (hname.trans (h ▸ hname'.symm))
  rw [← h] at hentry'
  cases NameMap.eq_of_mem hentry hentry'
  cases hnode.symm.trans hnode'
  cases htype.symm.trans htype'
  cases x
  cases y
  cases h
  exact congrArg (Candidate.mk · _) (hrank.unique hrank')

/-- The candidates of a selection, in the order in which it takes them. -/
def ranking (c : Corpus) (scope : SearchScope) (field : FieldPath) (query : List Float32) :
    List Candidate := (c.candidates scope field query).mergeSort Candidate.precedes

theorem isRanking_ranking : c.IsRanking scope field query (c.ranking scope field query) where
  mem_iff x := by rw [ranking, List.mem_mergeSort, mem_candidates_iff]
  ordered := by
    have hdistinct := (List.mergeSort_perm (c.candidates scope field query)
      Candidate.precedes).nodup_iff.mpr nodup_candidates
    have hsorted := List.pairwise_mergeSort Candidate.precedes_trans Candidate.precedes_total
      (c.candidates scope field query)
    exact (hsorted.and hdistinct).imp fun h => Candidate.before_of_precedes h.1 h.2

theorem IsRanking.nodup {ranking : List Candidate} (h : c.IsRanking scope field query ranking) :
    ranking.Nodup := h.ordered.imp Candidate.Before.ne

/-- There is only one ranking. -/
theorem IsRanking.unique {as bs : List Candidate} (ha : c.IsRanking scope field query as)
    (hb : c.IsRanking scope field query bs) : as = bs := by
  have hperm : as.Perm bs := (List.perm_ext_iff_of_nodup ha.nodup hb.nodup).mpr fun x =>
    (ha.mem_iff x).trans (hb.mem_iff x).symm
  refine hperm.eq_of_pairwise (fun x y _ _ hxy hyx => ?_) ha.ordered hb.ordered
  exact absurd (Candidate.before_iff_key.mp hyx) (Candidate.before_iff_key.mp hxy).asymm

theorem nearest_eq (k : Nat) :
    c.nearest scope field query k = ((c.ranking scope field query).take k).map Candidate.hit :=
  rfl

theorem nodup_nearest (k : Nat) : (c.nearest scope field query k).Nodup := by
  have hranking : c.IsRanking scope field query (c.ranking scope field query) :=
    c.isRanking_ranking
  rw [nearest_eq]
  refine (hranking.nodup.sublist (List.take_sublist k _)).map_on ?_
  intro x hx y hy h
  exact IsCandidate.eq_of_hit ((hranking.mem_iff x).mp (List.mem_of_mem_take hx))
    ((hranking.mem_iff y).mp (List.mem_of_mem_take hy)) h

theorem exists_candidate_of_mem_nearest {k : Nat} {hit : Hit}
    (h : hit ∈ c.nearest scope field query k) :
    ∃ rank, c.IsCandidate scope field query ⟨rank, hit⟩ := by
  rw [nearest_eq] at h
  obtain ⟨x, hx, rfl⟩ := List.mem_map.mp h
  exact ⟨x.rank, (isRanking_ranking.mem_iff x).mp (List.mem_of_mem_take hx)⟩

theorem mem_hitsIn_of_mem_nearest {k : Nat} {hit : Hit}
    (h : hit ∈ c.nearest scope field query k) : hit ∈ c.hitsIn scope := by
  obtain ⟨rank, i, hi, d, -, -, -, hname, hentry, -⟩ := exists_candidate_of_mem_nearest h
  exact mem_hitsIn_iff.mpr ⟨i, hi, _, hentry, by rw [hname]⟩

end Corpus

/-! ## Evaluation -/

section Search

variable {c : Corpus} {scope : SearchScope} {config : CompilerConfig} {field : FieldPath}
  {query : List Float32} {k : Nat}

/-- Through the scopes of a value field all of its values are seen. -/
theorem valuesIn_chainTo_of_value {d : Schema} {f : ValueField}
    (hnode : d.node? field = some (.value f)) (document : Document) :
    (d.chainTo field).valuesIn document field = document.values field.segments := by
  refine Schema.valuesIn_chainTo (fun s hinner hself => ?_) document
  cases Schema.isNested_of_innermost hinner hself hnode

/-- **A document matches exactly if it was selected.** -/
theorem verdict_knn {chain : NestingChain} (hquery : query ≠ [])
    (hchain : chain.Encloses [field])
    (hagree : ∀ i ∈ scope.indexes, ∀ node, i.schema.node? field = some node →
      i.schema.chainTo field = chain)
    {i : TargetIndex} (hi : i ∈ scope.indexes) {entry : String × Document}
    (hentry : entry ∈ (c.documents i.name).entries) :
    c.verdict scope ((Predicate.leaf ⟨[field], .knn query k⟩).within chain.scopes) i entry =
      .ok (decide (⟨i.name, entry.1⟩ ∈ c.nearest scope field query k)) := by
  rw [verdict_leaf rfl rfl hchain, Except.ok.injEq, Bool.eq_iff_iff, decide_eq_true_eq]
  have hneighbours : c.neighbours scope ⟨[field], .knn query k⟩ = c.nearest scope field query k :=
    rfl
  unfold Evaluation.passes Evaluation.admits
  simp only [hneighbours, List.getElem?_cons_zero, Option.getD_some, List.any_cons, List.any_nil,
    Bool.or_false, Bool.and_eq_true, List.contains_iff_mem]
  refine and_iff_left_of_imp fun hselected => ?_
  obtain ⟨rank, j, hj, d, f, dimension, metric, hname, hmem, hnode, htype, ⟨v, hv, hlen, -⟩, -⟩ :=
    Corpus.exists_candidate_of_mem_nearest hselected
  cases SearchScope.eq_of_name_eq hj hi hname
  cases NameMap.eq_of_mem hmem hentry
  have hne : v ≠ [] := by
    rintro rfl
    exact hquery (List.length_eq_zero_iff.mp hlen.symm)
  rw [← hagree i hi _ hnode, valuesIn_chainTo_of_value hnode]
  obtain ⟨u, hu⟩ := List.exists_mem_of_ne_nil _ (Document.values_ne_nil_of_holdsVector hv hne)
  rw [hnode, Option.any_some]
  exact List.any_eq_true.mpr ⟨u, hu, rfl⟩

/-- A leaf that asks for neighbours has one field and a vector with at least one component. -/
theorem knn_of_check {fields : List FieldPath} (h : Leaf.check ⟨fields, .knn query k⟩ = .ok ()) :
    (∃ field, fields = [field]) ∧ query ≠ [] := by
  unfold Leaf.check at h
  match fields, h with
  | [], h => cases h
  | [field], h =>
    refine ⟨⟨field, rfl⟩, ?_⟩
    rintro rfl
    cases h
  | _ :: _ :: rest, h =>
    have hfields : (PredicateKind.knn query k).checkFields (rest.length + 1 + 1) =
        .error (.needsOneField (PredicateKind.knn query k).name (rest.length + 1 + 1)) := by
      simp [PredicateKind.checkFields, PredicateKind.usage?, PredicateKind.isMultiField]
    simp only [List.length_cons, hfields] at h
    cases h

/-- **The hits of a leaf that asks for neighbours are the first `k` candidates,** or all of them if
    there are fewer. They are listed like all hits, in the order of the scope. -/
theorem search_knn {fields : List FieldPath} {q : CompiledQuery}
    (hq : compile scope config (.leaf ⟨fields, .knn query k⟩) = .ok q) (c : Corpus) :
    ∃ field hits, fields = [field] ∧ c.search scope q = .ok hits ∧
      hits.Sublist (c.hitsIn scope) ∧ (∃ ranking, c.IsRanking scope field query ranking) ∧
      ∀ ranking, c.IsRanking scope field query ranking →
        hits.Perm ((ranking.take k).map Candidate.hit) := by
  obtain ⟨chain, hpredicate, -, hcheck, -, hresolves⟩ :=
    compile_leaf_resolves (l := ⟨fields, .knn query k⟩) rfl hq
  obtain ⟨⟨field, rfl⟩, hquery⟩ := knn_of_check hcheck
  obtain ⟨r, hr, rfl, -⟩ := hresolves field List.mem_cons_self
  have hagreement := SearchScope.agreement hr
  have hchain : r.chain.Encloses [field] := by
    obtain ⟨i, -, node, -, hchain⟩ := hagreement.exists_chain
    exact hchain ▸ Schema.encloses_chainTo
  have hsearch : c.search scope q = .ok ((c.hitsIn scope).filter fun hit =>
      decide (hit ∈ c.nearest scope field query k)) := by
    refine Corpus.search_eq_ok_of_verdicts (ensureScope_of_compile hq) fun i hi entry hentry => ?_
    rw [hpredicate]
    exact verdict_knn hquery hchain hagreement.chain_eq hi hentry
  refine ⟨field, _, rfl, hsearch, List.filter_sublist, ⟨_, Corpus.isRanking_ranking⟩,
    fun ranking hranking => ?_⟩
  rw [hranking.unique Corpus.isRanking_ranking, ← Corpus.nearest_eq]
  refine (List.perm_ext_iff_of_nodup ((c.nodup_hitsIn scope).filter _)
    (Corpus.nodup_nearest k)).mpr fun hit => ?_
  rw [List.mem_filter, decide_eq_true_eq]
  exact and_iff_right_of_imp Corpus.mem_hitsIn_of_mem_nearest

end Search

namespace Sample

/-- The place of a stop. -/
def stopPlace : FieldPath := ⟨.literal "stops", [.literal "place"]⟩

def route (index : String) : Definition where
  index
  fields :=
    [("stops", .object .nested true [("place", .value (.ofType (.vector 2 .dotProduct)))])]

def routes : SearchScope where
  indexes :=
    [.ofSchema ⟨route "tram", by decide +kernel⟩, .ofSchema ⟨route "bus", by decide +kernel⟩]
  nonempty := by simp
  distinct := by decide +kernel

/-- A stop with these members. -/
def stopAt (place : Document) : Document := .object [("place", place)]

def point (x y : Int) : Document := .list [.number (.int x), .number (.int y)]

/-- Two documents that are as near to one another, a stop with two places, one that is no object, a
    place with too few numbers, and one with none. -/
def timetable : Corpus :=
  ((((Corpus.empty.insert ⟨"tram", "t1"⟩ (.object [("stops", .list
    [.text "depot", stopAt (.list [point 1 0, point 3 4]), stopAt .null])])).insert
    ⟨"tram", "t2"⟩ (.object [("stops", stopAt (point 1 2))])).insert
    ⟨"bus", "b1"⟩ (.object [("stops", .list [.list [stopAt (point 4 3)]])])).insert
    ⟨"bus", "b2"⟩ (.object [("stops", stopAt (.list [.number (.int 9)]))])).insert
    ⟨"bus", "b3"⟩ (.object [("stops", stopAt (.list []))])

/-- The documents with the two nearest stops. -/
def twoNearest : Leaf := ⟨[stopPlace], .knn [1, 1] 2⟩

/-- The stops are `b1` and `t1`, as near as one another, and then `t2`. -/
def nearestStops : List Candidate :=
  [⟨-1088421889, ⟨"bus", "b1"⟩⟩, ⟨-1088421889, ⟨"tram", "t1"⟩⟩, ⟨-1077936129, ⟨"tram", "t2"⟩⟩]

theorem isRanking_nearestStops : timetable.IsRanking routes stopPlace [1, 1] nearestStops where
  mem_iff x := by
    have hcandidates : (timetable.candidates routes stopPlace [1, 1]).Perm nearestStops := by
      decide +kernel
    rw [← Corpus.mem_candidates_iff, hcandidates.mem_iff]
  ordered := by
    have hordered : nearestStops.Pairwise fun a b => a.precedes b = true ∧ a ≠ b := by
      decide +kernel
    exact hordered.imp fun h => Candidate.before_of_precedes h.1 h.2

end Sample

/-- The hypothesis of `search_knn` can be met, in a scope in which names decide between two documents
    that are as near. -/
theorem search_knn_sample :
    ∃ q hits, compile Sample.routes .default (.leaf Sample.twoNearest) = .ok q ∧
      Sample.timetable.IsRanking Sample.routes Sample.stopPlace [1, 1] Sample.nearestStops ∧
      Sample.timetable.search Sample.routes q = .ok hits ∧
      hits.Perm [⟨"bus", "b1"⟩, ⟨"tram", "t1"⟩] := by
  obtain ⟨q, hq⟩ := exists_of_isSome_toOption (by decide +kernel :
    (compile Sample.routes .default (.leaf Sample.twoNearest)).toOption.isSome = true)
  obtain ⟨field, hits, hfield, hhits, -, -, hperm⟩ := search_knn hq Sample.timetable
  cases hfield
  exact ⟨q, hits, hq, Sample.isRanking_nearestStops, hhits,
    hperm _ Sample.isRanking_nearestStops⟩

end NestedSearch
