import NestedSearch.Proofs.Corpus.Containment
import NestedSearch.Proofs.Corpus.Transparency
import NestedSearch.Proofs.Placement.Limits
import NestedSearch.Proofs.Schema.Walk

/-!
# Existence of objects

Whether an object exists in a document is found out by going down the schema and the document
together, lists and `null`s looked through at every level. Nothing of that way is left in the
answer: there is a path from the object to one of its value fields, and a value at its end
(`Node.holdsValue_iff`).

So an object exists exactly if one of the value fields below it exists, and a search for the object
finds what a search for any of these fields finds (`search_exists_object`), although each of them is
looked for in scopes of its own. The one difference is in compiling: an object without value fields
is one leaf, where the disjunction has none.
-/

namespace NestedSearch

/-! ## Values below a node -/

/-- Whether the document has a value at a path that is more than `null`. -/
def Document.hasValue (d : Document) (p : FieldPath) : Bool :=
  (d.values p.segments).any fun v => !v.isNull

theorem holdsChild_cons_iff {name : String} {node : Node} {rest : Fields} {u : Document} :
    holdsChild ((name, node) :: rest) u = true ↔
      (∃ v, u.get? name = some v ∧ node.holdsValue v = true) ∨ holdsChild rest u = true := by
  rw [holdsChild, Bool.or_eq_true]
  cases u.get? name <;> simp

section HoldsValue

variable {index : String}

mutual

/-- **A node holds a value exactly if there is one at the end of a path to a value field.** -/
theorem Node.holdsValue_iff : ∀ (node : Node) {path : FieldPath},
    node.check index path = .ok () → ∀ {v : Document},
      node.holdsValue v = true ↔ ∃ rest f, node.below? rest = some (.value f) ∧
        ∃ w ∈ v.values rest, w.isNull = false
  | .value f, _, _, v => by
    have hself : v.values [] = v.instances := by simp [Document.values, Document.atEnd]
    rw [Node.holdsValue, List.any_eq_true]
    constructor
    · rintro ⟨w, hw, hnull⟩
      exact ⟨[], f, rfl, w, hself ▸ hw, by simpa using hnull⟩
    · rintro ⟨rest, g, hg, w, hw, hnull⟩
      -- There is no path out of a value field.
      cases rest with
      | nil => exact ⟨w, hself ▸ hw, by simpa using hnull⟩
      | cons s rest => simp [Node.below?_cons, Node.children, Fields.find?] at hg
  | .object storage multiValued children, path, h, v => by
    rw [Node.check] at h
    rw [Node.holdsValue, List.any_eq_true]
    constructor
    · rintro ⟨u, hu, hholds⟩
      obtain ⟨name, child, hchild, m, hm, rest, f, hf, w, hw, hnull⟩ :=
        (holdsChild_iff children h).mp hholds
      obtain ⟨s, rfl⟩ := exists_segment_of_check h hchild
      exact ⟨s :: rest, f, (nodeAt?_eq_some_iff_of_check h).mpr ⟨child, hchild, hf⟩, w,
        Document.mem_values_cons_iff.mpr ⟨u, hu, m, hm, hw⟩, hnull⟩
    · rintro ⟨rest, f, hf, w, hw, hnull⟩
      cases rest with
      | nil => cases hf
      | cons s rest =>
        obtain ⟨child, hchild, hf⟩ := (nodeAt?_eq_some_iff_of_check h).mp hf
        obtain ⟨u, hu, m, hm, hw⟩ := Document.mem_values_cons_iff.mp hw
        exact ⟨u, hu, (holdsChild_iff children h).mpr
          ⟨s.name, child, hchild, m, hm, rest, f, hf, w, hw, hnull⟩⟩

/-- One of the fields holds a value exactly if its member has one at the end of such a path. -/
theorem holdsChild_iff : ∀ (fields : List (String × Node)) {parent : Option FieldPath}
    {seen : List String}, checkFields index parent seen fields = .ok () → ∀ {u : Document},
      holdsChild fields u = true ↔
        ∃ name child, (name, child) ∈ fields ∧ ∃ v, u.get? name = some v ∧
          ∃ rest f, child.below? rest = some (.value f) ∧ ∃ w ∈ v.values rest, w.isNull = false
  | [], _, _, _, _ => by simp [holdsChild]
  | (first, node) :: fields, parent, seen, h, u => by
    obtain ⟨s, -, -, hnode, hfields⟩ := checkFields_cons_ok h
    have hfirst := fun v => Node.holdsValue_iff node hnode (v := v)
    simp only [holdsChild_cons_iff, hfirst, holdsChild_iff fields hfields]
    constructor
    · rintro (hholds | ⟨name, child, hchild, hholds⟩)
      · exact ⟨first, node, List.mem_cons_self, hholds⟩
      · exact ⟨name, child, List.mem_cons_of_mem _ hchild, hholds⟩
    · rintro ⟨name, child, hchild, hholds⟩
      rcases List.mem_cons.mp hchild with heq | hchild
      · cases heq
        exact .inl hholds
      · exact .inr ⟨name, child, hchild, hholds⟩

end

end HoldsValue

/-! ## Value fields below an object -/

/-- The paths of the value fields below a path, in the order of the walk. -/
def Definition.valuesBelow (d : Definition) (o : FieldPath) : List FieldPath :=
  (d.walk.filter fun x => o.isAncestorOf x.1 && x.2.value?.isSome).map Prod.fst

namespace Schema

variable {d : Schema} {o p : FieldPath}

theorem mem_valuesBelow_iff :
    p ∈ d.valuesBelow o ↔ o.isAncestorOf p = true ∧ ∃ f, d.node? p = some (.value f) := by
  have hvalue : ∀ node : Node, node.value?.isSome = true ↔ ∃ f, node = .value f := by
    intro node
    cases node <;> simp [Node.value?]
  unfold Definition.valuesBelow
  simp only [List.mem_map, List.mem_filter, Bool.and_eq_true, hvalue]
  constructor
  · rintro ⟨⟨q, node⟩, ⟨hmem, hbelow, f, rfl⟩, rfl⟩
    exact ⟨hbelow, f, mem_walk_iff.mp hmem⟩
  · rintro ⟨hbelow, f, hf⟩
    exact ⟨(p, .value f), ⟨mem_walk_iff.mpr hf, hbelow, f, rfl⟩, rfl⟩

/-- What a leaf sees of a value field. -/
theorem any_holdsValue_value (document : Document) (f : ValueField) :
    (document.values p.segments).any (Node.holdsValue (.value f)) = document.hasValue p := by
  refine any_congr_of_mem fun v hv => ?_
  rw [Node.holdsValue, Document.instances_of_mem_values hv]
  simp

/-- **What a leaf sees of an object is what there is in the value fields below it.** -/
theorem any_holdsValue_object {storage : Storage} {multiValued : Bool} {children : Fields}
    (hnode : d.node? o = some (.object storage multiValued children)) (document : Document) :
    (document.values o.segments).any (Node.holdsValue (.object storage multiValued children)) =
      (d.valuesBelow o).any document.hasValue := by
  have hcheck := d.check_node hnode
  have hbelow : ∀ q : FieldPath, d.node? (o.join q) =
      (Node.object storage multiValued children).below? (q.head :: q.tail) := by
    intro q
    rw [Definition.node?_join, hnode]
    rfl
  rw [Bool.eq_iff_iff, List.any_eq_true, List.any_eq_true]
  simp only [Node.holdsValue_iff _ hcheck, mem_valuesBelow_iff, Document.hasValue,
    List.any_eq_true, Bool.not_eq_true']
  constructor
  · rintro ⟨v, hv, rest, f, hf, w, hw, hnull⟩
    cases rest with
    | nil => cases hf
    | cons s rest =>
      refine ⟨o.join ⟨s, rest⟩, ⟨FieldPath.isAncestorOf_iff.mpr ⟨_, rfl⟩, f, ?_⟩, w, ?_, hnull⟩
      · exact (hbelow ⟨s, rest⟩).trans hf
      · rw [FieldPath.segments_join, Document.values_append]
        exact List.mem_flatMap.mpr ⟨v, hv, hw⟩
  · rintro ⟨p, ⟨hanc, f, hf⟩, w, hw, hnull⟩
    obtain ⟨q, rfl⟩ := FieldPath.isAncestorOf_iff.mp hanc
    rw [FieldPath.segments_join, Document.values_append] at hw
    obtain ⟨v, hv, hw⟩ := List.mem_flatMap.mp hw
    exact ⟨v, hv, q.head :: q.tail, f, (hbelow q).symm.trans hf, w, hw, hnull⟩

end Schema

/-! ## Searching for fields -/

/-- The default configuration with another limit for the number of leaves. -/
def CompilerConfig.withLimit (limit : Nat) : CompilerConfig :=
  { default with maxClauseCount := limit }

/-- Whether the field at a path exists. -/
def Predicate.exists (p : FieldPath) : Predicate := .leaf ⟨[p], .exists⟩

section Search

variable {i : TargetIndex} {config : CompilerConfig} {p : FieldPath} {node : Node}

/-- In a single index a node resolves as what it can be used for. -/
theorem fieldResolves_single {usage : Usage} (hnode : i.schema.node? p = some node)
    (hsupports : node.supports usage = true) :
    Placement.FieldResolves (.single i) config usage (i.schema.chainTo p) p := by
  refine ⟨_, SearchScope.resolve_single hnode, rfl, fun _ => ?_⟩
  simp [ScopedResolution.require, hsupports]

/-- A search for a node finds the documents that have a value at it. -/
theorem finds_exists (hlimit : 0 < config.maxClauseCount) (hnode : i.schema.node? p = some node)
    (hsupports : node.supports .exists = true) (c : Corpus) :
    ∃ hits, Finds (.single i) config c (.exists p) hits ∧
      ∀ entry ∈ (c.documents i.name).entries,
        ⟨i.name, entry.1⟩ ∈ hits ↔ (entry.2.values p.segments).any node.holdsValue = true := by
  obtain ⟨q, hq, hpredicate⟩ := compile_leaf_single (l := ⟨[p], .exists⟩) hlimit rfl rfl
    (List.cons_ne_nil p []) fun f hf => by
      cases List.mem_singleton.mp hf
      exact fieldResolves_single hnode hsupports
  have hpatterns : ∀ l ∈ q.predicate.leaves, l.kind.isPattern = false := by
    intro l hl
    rw [hpredicate, Placement.leaves_within] at hl
    cases List.mem_singleton.mp hl
    rfl
  obtain ⟨hits, hhits⟩ := exists_hits (c := c) hq (ensureScope_of_compile hq) hpatterns
  refine ⟨hits, ⟨q, hq, hhits⟩, fun entry hentry => ?_⟩
  have hverdict := Corpus.verdict_of_search hhits List.mem_cons_self hentry
  rw [hpredicate, verdict_leaf rfl rfl Schema.encloses_chainTo, Except.ok.injEq] at hverdict
  rw [← decide_eq_true_iff (p := _ ∈ hits), ← hverdict]
  have hseen : ((i.schema.chainTo p).valuesIn entry.2 p).any node.holdsValue =
      (entry.2.values p.segments).any node.holdsValue :=
    any_valuesIn hnode (show PredicateKind.exists.usage? = some .exists from rfl) hsupports rfl entry.2
  unfold Evaluation.passes Evaluation.admits
  simp only [List.any_cons, List.any_nil, hnode, Option.any_some, Bool.true_and, Bool.or_false,
    hseen]

/-- A disjunction of leaves has a derivation if each of them has a node that it can be used for. -/
theorem exists_derivation_any (config : CompilerConfig) {ps : List FieldPath}
    (h : ∀ p ∈ ps, ∃ node, i.schema.node? p = some node ∧ node.supports .exists = true) :
    ∃ r, Placement.Derivation (.single i) config .top (.bool .or (ps.map .exists)) r ∧
      r.predicate.leafCount = ps.length := by
  suffices hall : ∃ qs leaves scopes, Placement.Derivation (.single i) config .top
      (.bool .or (ps.map .exists)) ⟨.bool .or qs, leaves, scopes⟩ ∧
        (Predicate.bool .or qs).leafCount = ps.length by
    obtain ⟨qs, leaves, scopes, hr, hcount⟩ := hall
    exact ⟨_, hr, hcount⟩
  induction ps with
  | nil => exact ⟨[], [], [], .noClause, rfl⟩
  | cons p ps ih =>
    obtain ⟨⟨node, hnode, hsupports⟩, hrest⟩ := List.forall_mem_cons.mp h
    obtain ⟨qs, leaves, scopes, hqs, hcount⟩ := ih hrest
    have hfields : Placement.resolveFields (.single i) config none .exists none [p] =
        .ok ([p], i.schema.chainTo p) :=
      Placement.resolveFields_of_resolves (by simp) (by simp) fun f hf => by
        cases List.mem_singleton.mp hf
        exact fieldResolves_single hnode hsupports
    refine ⟨_, _, _, .clause (.leaf rfl rfl hfields) hqs, ?_⟩
    rw [Placement.leafCount_cons, Placement.leafCount_within, hcount, List.length_cons,
      Nat.add_comm]
    rfl

/-- A disjunction of leaves compiles if there is room for them. -/
theorem exists_compile_any {ps : List FieldPath} (hcount : ps.length ≤ config.maxClauseCount)
    (h : ∀ p ∈ ps, ∃ node, i.schema.node? p = some node ∧ node.supports .exists = true) :
    ∃ q, compile (.single i) config (.bool .or (ps.map .exists)) = .ok q := by
  obtain ⟨r, hr, hleaves⟩ := exists_derivation_any config h
  have hstays : Placement.Site.StaysWithin (.single i) config.maxExpansionDepth
      ⟨.top, .bool .or (ps.map .exists), 0⟩ := by
    refine Placement.Site.staysWithin_bool.mpr ⟨Nat.zero_le _, fun p hp => ?_⟩
    obtain ⟨f, -, rfl⟩ := List.mem_map.mp hp
    exact Placement.Site.staysWithin_leaf.mpr (Nat.zero_le _)
  have hplace := place_eq_ok_iff.mpr ⟨hr, hleaves.le.trans hcount, hstays⟩
  exact ⟨_, compile_eq_ok_iff.mpr ⟨r, hplace, [], rfl, rfl⟩⟩

/-- A search for any of some value fields finds the documents that have a value in one of them. -/
theorem finds_any {ps : List FieldPath} (hcount : ps.length ≤ config.maxClauseCount)
    (h : ∀ p ∈ ps, ∃ f, i.schema.node? p = some (.value f) ∧ f.searchable = true) (c : Corpus) :
    ∃ hits, Finds (.single i) config c (.bool .or (ps.map .exists)) hits ∧
      ∀ entry ∈ (c.documents i.name).entries,
        ⟨i.name, entry.1⟩ ∈ hits ↔ ps.any entry.2.hasValue = true := by
  have hsupports : ∀ f : ValueField, f.searchable = true →
      (Node.value f).supports .exists = true := by
    intro f hf
    simp [Node.supports, ValueField.supports, FieldType.allows, hf]
  have hone : ∀ p, p ∈ ps → ∃ hits, Finds (.single i) config c (.exists p) hits ∧
      ∀ entry ∈ (c.documents i.name).entries,
        ⟨i.name, entry.1⟩ ∈ hits ↔ entry.2.hasValue p = true := by
    intro p hp
    obtain ⟨f, hf, hsearchable⟩ := h p hp
    have hlimit := (List.length_pos_of_mem hp).trans_le hcount
    obtain ⟨hits, hhits, hmem⟩ := finds_exists hlimit hf (hsupports f hsearchable) c
    refine ⟨hits, hhits, fun entry hentry => ?_⟩
    rw [hmem entry hentry, Schema.any_holdsValue_value]
  choose! hits hfinds hmem using hone
  obtain ⟨q, hq⟩ := exists_compile_any hcount fun p hp => by
    obtain ⟨f, hf, hsearchable⟩ := h p hp
    exact ⟨_, hf, hsupports f hsearchable⟩
  have hall : List.Forall₂ (Finds (.single i) config c) (ps.map .exists) (ps.map hits) := by
    rw [List.forall₂_map_left_iff, List.forall₂_map_right_iff, List.forall₂_same]
    exact hfinds
  refine ⟨_, ⟨q, hq, search_bool hall hq⟩, fun entry hentry => ?_⟩
  have hin : ⟨i.name, entry.1⟩ ∈ c.hitsIn (.single i) :=
    Corpus.mem_hitsIn_single_iff.mpr ⟨entry, hentry, rfl⟩
  rw [List.mem_filter, BoolOperator.join, List.map_map, List.any_map]
  simp only [hin, true_and, List.any_eq_true, Function.comp, id, decide_eq_true_eq]
  exact exists_congr fun p => and_congr_right fun hp => hmem p hp entry hentry

/-- **An object exists where one of the value fields below it does.** If these are searchable and
    there is room for a leaf for each of them, and for one at all, the search for the object and the
    search for any of them both find the documents that have a value in one of these fields. -/
theorem search_exists_object {o : FieldPath} {storage : Storage} {multiValued : Bool}
    {children : Fields} {limit : Nat}
    (hnode : i.schema.node? o = some (.object storage multiValued children))
    (hsearchable : ∀ p f, (p, .value f) ∈ i.schema.walk → o.isAncestorOf p = true →
      f.searchable = true)
    (hcount : (i.schema.valuesBelow o).length ≤ limit) (hlimit : 0 < limit) (c : Corpus) :
    ∃ hits, Finds (.single i) (.withLimit limit) c (.exists o) hits ∧
      Finds (.single i) (.withLimit limit) c
        (.bool .or ((i.schema.valuesBelow o).map .exists)) hits ∧
      (i.schema.valuesBelow o = [] → hits = []) ∧
      ∀ hit, hit ∈ hits ↔ ∃ entry ∈ (c.documents i.name).entries, hit = ⟨i.name, entry.1⟩ ∧
        (i.schema.valuesBelow o).any entry.2.hasValue = true := by
  have hone : 0 < (CompilerConfig.withLimit limit).maxClauseCount := hlimit
  have hroom : (i.schema.valuesBelow o).length ≤ (CompilerConfig.withLimit limit).maxClauseCount :=
    hcount
  have hvalues : ∀ p ∈ i.schema.valuesBelow o,
      ∃ f, i.schema.node? p = some (.value f) ∧ f.searchable = true := by
    intro p hp
    obtain ⟨hbelow, f, hf⟩ := Schema.mem_valuesBelow_iff.mp hp
    exact ⟨f, hf, hsearchable p f (Schema.mem_walk_iff.mpr hf) hbelow⟩
  obtain ⟨hits, ⟨q, hq, hsearch⟩, hobject⟩ := finds_exists hone hnode rfl c
  simp only [Schema.any_holdsValue_object hnode] at hobject
  obtain ⟨hits', ⟨q', hq', hsearch'⟩, hany⟩ := finds_any hroom hvalues c
  have hsame : hits = hits' := by
    refine Corpus.hits_eq_of_search hsearch hsearch' rfl fun hit hhit => ?_
    obtain ⟨entry, hentry, rfl⟩ := Corpus.mem_hitsIn_single_iff.mp hhit
    rw [hobject entry hentry, hany entry hentry]
  have hmem : ∀ hit, hit ∈ hits ↔ ∃ entry ∈ (c.documents i.name).entries,
      hit = ⟨i.name, entry.1⟩ ∧ (i.schema.valuesBelow o).any entry.2.hasValue = true := by
    intro hit
    constructor
    · intro hhit
      have hin := Corpus.mem_hitsIn_of_search hsearch hhit
      obtain ⟨entry, hentry, rfl⟩ := Corpus.mem_hitsIn_single_iff.mp hin
      exact ⟨entry, hentry, rfl, (hobject entry hentry).mp hhit⟩
    · rintro ⟨entry, hentry, rfl, hvalue⟩
      exact (hobject entry hentry).mpr hvalue
  refine ⟨hits, ⟨q, hq, hsearch⟩, hsame ▸ ⟨q', hq', hsearch'⟩, fun hnone => ?_, hmem⟩
  refine List.eq_nil_iff_forall_not_mem.mpr fun hit hhit => ?_
  obtain ⟨entry, -, -, hvalue⟩ := (hmem hit).mp hhit
  rw [hnone] at hvalue
  cases hvalue

end Search

namespace Sample

def shopOnly : SearchScope := .single (.ofSchema shop)

/-- An index that declares an object without saying anything about what is in it. -/
def parcels : Schema where
  index := "parcels"
  fields := [("contents", .object .flattened false [])]
  valid := by decide +kernel

def contents : FieldPath := ⟨.literal "contents", []⟩

end Sample

/-- The hypotheses of `search_exists_object` can be met by an object with two value fields, each in
    scopes of its own. -/
theorem search_exists_object_sample :
    (Sample.shop.valuesBelow ⟨Sample.orders, []⟩).map FieldPath.toString =
        ["orders.lines.sku", "orders.lines.note.tag.label"] ∧
      Finds Sample.shopOnly (.withLimit 2) Sample.orderBook (.exists ⟨Sample.orders, []⟩)
        [⟨"shop", "s1"⟩] ∧
      Finds Sample.shopOnly (.withLimit 2) Sample.orderBook
        (.bool .or ((Sample.shop.valuesBelow ⟨Sample.orders, []⟩).map .exists))
        [⟨"shop", "s1"⟩] := by
  have hsearchable : (Sample.shop.walk.all fun x => x.2.value?.all fun f => f.searchable) = true := by
    decide +kernel
  obtain ⟨q, hq, hsearch⟩ : Finds Sample.shopOnly (.withLimit 2) Sample.orderBook
      (.exists ⟨Sample.orders, []⟩) [⟨"shop", "s1"⟩] := finds_of_toOption (by decide +kernel)
  obtain ⟨hits, ⟨q', hq', hsearch'⟩, hany, -, -⟩ :=
    search_exists_object (i := .ofSchema Sample.shop) (o := ⟨Sample.orders, []⟩) rfl
      (fun p f hmem _ => List.all_eq_true.mp hsearchable _ hmem) (by decide +kernel)
      Nat.two_pos Sample.orderBook
  cases hq.symm.trans hq'
  cases hsearch.symm.trans hsearch'
  exact ⟨by decide +kernel, ⟨q, hq, hsearch⟩, hany⟩

/-- Without room for a single leaf the object is refused, while there is still room for a disjunction
    of none. -/
theorem exists_refused_without_room :
    Sample.parcels.node? Sample.contents = some (.object .flattened false []) ∧
      (Sample.parcels.valuesBelow Sample.contents).length ≤ 0 ∧
      compile (.single (.ofSchema Sample.parcels)) (.withLimit 0) (.exists Sample.contents) =
        .error (.tooManyClauses 0) ∧
      Finds (.single (.ofSchema Sample.parcels)) (.withLimit 0) .empty
        (.bool .or ((Sample.parcels.valuesBelow Sample.contents).map .exists)) [] ∧
      ¬∃ hits, Finds (.single (.ofSchema Sample.parcels)) (.withLimit 0) .empty
        (.exists Sample.contents) hits := by
  have hrefused : compile (.single (.ofSchema Sample.parcels)) (.withLimit 0)
      (.exists Sample.contents) = .error (.tooManyClauses 0) := by
    rfl
  refine ⟨rfl, by decide +kernel, hrefused, finds_of_toOption (by decide +kernel), ?_⟩
  rintro ⟨hits, q, hq, -⟩
  rw [hrefused] at hq
  cases hq

end NestedSearch
