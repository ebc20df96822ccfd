import NestedSearch.Proofs.Corpus.Algebra
import NestedSearch.Proofs.Corpus.Declared
import NestedSearch.Proofs.Corpus.Lacking
import NestedSearch.Proofs.Corpus.Leaf
import NestedSearch.Proofs.Placement.Containment
import NestedSearch.Proofs.Placement.Reach

/-!
# Undeclared content

What a schema does not declare should have no influence on what is found. Leaves only look at
declared fields, but nested nodes do not ask the schema: in an index that lacks the object, a nested
node finds the instances of whatever a document has at the path. That is harmless as long as what
stands in the node cannot be met without a field (`Predicate.needsField`), since all fields in it
are lacking too. And a point may be read from an object field, if usages are not validated, although
its coordinates are no declared fields.

These are the only ways. In an index where nested nodes that could be met without a field open
declared objects, or find no object, and where objects are not taken for points, hits depend on the
declared part of the documents only (`undeclared_ignored`).
-/

namespace NestedSearch

/-! ## Tests of values -/

theorem compareWith_mapObjects (f : List (String × Document) → List (String × Document))
    (v : Document) (bound : ParamValue) :
    compareWith (v.mapObjects f) bound = compareWith v bound := by
  cases v <;> rfl

theorem isBeyond_mapObjects (f : List (String × Document) → List (String × Document))
    (v : Document) (side : Ordering) (bound : Option RangeBound) :
    isBeyond (v.mapObjects f) side bound = isBeyond v side bound := by
  unfold isBeyond
  simp only [compareWith_mapObjects]

namespace PredicateKind

/-- Whether the predicate reads points. -/
def isSpatial (kind : PredicateKind) : Bool := kind.usage?.any Usage.isSpatial

/-- **A test sees the declared part of a value only**, unless it takes an object for a point. -/
theorem valueTest?_declared {kind : PredicateKind} {test : Node → Document → Bool} {node : Node}
    {index : String} {path : FieldPath} (htest : kind.valueTest? = some test)
    (hcheck : node.check index path = .ok ())
    (hspatial : kind.isSpatial = true → node.kind = .value) (v : Document) :
    test node (node.declared v) = test node v := by
  cases node with
  | value f => rfl
  | object storage multiValued children =>
    cases kind with
    | «exists» =>
      cases htest
      exact Node.holdsValue_declared _ hcheck v
    | regexp pattern =>
      obtain ⟨r, -, rfl⟩ := Option.map_eq_some_iff.mp htest
      rfl
    | range lower upper =>
      cases htest
      simp only [Node.declared, isBeyond_mapObjects]
    | withinCircle center radius => cases hspatial rfl
    | withinPolygon points => cases hspatial rfl
    | withinBoundingBox topLeft bottomRight => cases hspatial rfl
    | simpleQueryString query operator analysis => cases htest
    | matchAll | matchNone | ids documents => cases htest
    | _ =>
      -- Objects have no analysis to look for a text with.
      cases htest
      rfl

end PredicateKind

/-! ## Parts of two documents -/

/-- The field that parts of documents at this place are values of. -/
def Definition.nodeOf? (d : Definition) : Option FieldPath → Option Node
  | none => some d.root
  | some p => d.node? p

/-- Going on from a part of a document is going down from its field. -/
theorem Definition.below?_nodeOf? {d : Definition} {base : Option FieldPath} {p : FieldPath}
    {node : Node} (hbase : d.nodeOf? base = some node) (hp : p.IsIn base) :
    node.below? (p.segments.drop ((base.map FieldPath.length).getD 0)) = d.node? p := by
  cases base with
  | none =>
    cases hbase
    rfl
  | some b =>
    have hnode : d.node? b = some node := hbase
    show node.below? (p.segments.drop b.length) = d.node? p
    rcases FieldPath.startsWith_iff_eq_or_join.mp (hp b rfl) with rfl | ⟨r, rfl⟩
    · rw [FieldPath.length, List.drop_length, hnode]
      rfl
    · rw [FieldPath.segments_join, FieldPath.length, List.drop_left, Definition.node?_join, hnode]
      rfl

/-- The schema declares the same of two parts of documents at one place. -/
def Alike (d : Definition) (base : Option FieldPath) (v v' : Document) : Prop :=
  ∃ node, d.nodeOf? base = some node ∧ node.declared v = node.declared v'

section Alike

variable {d : Definition} {base : Option FieldPath} {v v' : Document} {p : FieldPath} {node : Node}

/-- The values of a field in parts that are alike are alike, one by one. -/
theorem Alike.valuesAt (h : Alike d base v v') (hp : p.IsIn base) (hnode : d.node? p = some node) :
    (DocumentPart.valuesAt ⟨v, base⟩ p).map node.declared =
      (DocumentPart.valuesAt ⟨v', base⟩ p).map node.declared := by
  obtain ⟨place, hplace, hsame⟩ := h
  have hbelow := (Definition.below?_nodeOf? hplace hp).trans hnode
  unfold DocumentPart.valuesAt
  rw [← Node.values_declared hbelow, ← Node.values_declared hbelow, hsame]

theorem Alike.objectsAt (h : Alike d base v v') (hp : p.IsIn base)
    (hnode : d.node? p = some node) :
    List.Forall₂ (Alike d (some p)) (DocumentPart.objectsAt ⟨v, base⟩ p)
      (DocumentPart.objectsAt ⟨v', base⟩ p) := by
  have hobject : Document.isObject ∘ node.declared = Document.isObject :=
    funext Node.isObject_declared
  have hsame : (DocumentPart.objectsAt ⟨v, base⟩ p).map node.declared =
      (DocumentPart.objectsAt ⟨v', base⟩ p).map node.declared := by
    unfold DocumentPart.objectsAt
    rw [← hobject, ← List.filter_map, ← List.filter_map, h.valuesAt hp hnode]
  rw [← List.forall₂_eq_eq_eq, List.forall₂_map_left_iff, List.forall₂_map_right_iff] at hsame
  exact hsame.imp fun w w' hw => ⟨node, hnode, hw⟩

end Alike

/-- The part stands in the document at the place that it is said to stand at. -/
def DocumentPart.IsPartOf (part : DocumentPart) (document : Document) : Prop :=
  match part.base with
  | none => part.value = document
  | some b => part.value ∈ document.values b.segments

theorem DocumentPart.IsPartOf.valuesAt_subset {part : DocumentPart} {document : Document}
    (h : part.IsPartOf document) {p : FieldPath} (hp : p.IsIn part.base) :
    part.valuesAt p ⊆ document.values p.segments := by
  obtain ⟨v, base⟩ := part
  cases base with
  | none =>
    cases h
    exact List.Subset.refl _
  | some b =>
    have hmem : v ∈ document.values b.segments := h
    intro w hw
    change w ∈ v.values (p.segments.drop b.length) at hw
    rcases FieldPath.startsWith_iff_eq_or_join.mp (hp b rfl) with rfl | ⟨r, rfl⟩
    · rw [FieldPath.length, List.drop_length] at hw
      simp [Document.values, Document.atEnd, Document.instances_of_mem_values hmem] at hw
      rwa [hw]
    · rw [FieldPath.segments_join, FieldPath.length, List.drop_left] at hw
      rw [FieldPath.segments_join, Document.values_append]
      exact List.mem_flatMap.mpr ⟨v, hmem, hw⟩

theorem DocumentPart.IsPartOf.objectsAt_eq_nil {part : DocumentPart} {document : Document}
    (h : part.IsPartOf document) {p : FieldPath} (hp : p.IsIn part.base)
    (hnone : ∀ v ∈ document.values p.segments, v.isObject = false) : part.objectsAt p = [] := by
  refine List.filter_eq_nil_iff.mpr fun v hv => ?_
  simp [hnone v (h.valuesAt_subset hp hv)]

/-! ## Answers that concur -/

/-- If both outcomes are answers, they are the same answer. -/
def Concur (x x' : Except QueryError Bool) : Prop :=
  ∀ b b', x = .ok b → x' = .ok b' → b = b'

theorem Concur.refl (x : Except QueryError Bool) : Concur x x := by
  intro b b' hb hb'
  cases hb.symm.trans hb'
  rfl

theorem Concur.bind {x x' : Except QueryError Bool} {f f' : Bool → Except QueryError Bool}
    (h : Concur x x') (hf : ∀ b, Concur (f b) (f' b)) : Concur (x >>= f) (x' >>= f') := by
  intro b b' hb hb'
  obtain ⟨a, ha, hb⟩ := bind_eq_ok_iff.mp hb
  obtain ⟨a', ha', hb'⟩ := bind_eq_ok_iff.mp hb'
  cases h a a' ha ha'
  exact hf a b b' hb hb'

theorem Concur.anyAccepted {α : Type} {test test' : α → Except QueryError Bool}
    {related : α → α → Prop} {as as' : List α} (h : List.Forall₂ related as as')
    (htest : ∀ a ∈ as, ∀ a' ∈ as', related a a' → Concur (test a) (test' a')) :
    Concur (anyAccepted test as) (anyAccepted test' as') := by
  induction h with
  | nil => exact .refl _
  | cons hfirst hrest ih =>
    rw [NestedSearch.anyAccepted, NestedSearch.anyAccepted]
    refine (htest _ List.mem_cons_self _ List.mem_cons_self hfirst).bind fun b => ?_
    cases b with
    | true => exact .refl _
    | false =>
      exact ih fun a ha a' ha' =>
        htest a (List.mem_cons_of_mem _ ha) a' (List.mem_cons_of_mem _ ha')

theorem Concur.acceptsClauses {e e' : Evaluation} {part part' : DocumentPart}
    {operator : BoolOperator} {ps : List Predicate}
    (h : ∀ p ∈ ps, ∀ ordinal, Concur (e.accepts part ordinal p) (e'.accepts part' ordinal p))
    (ordinal : Nat) :
    Concur (e.acceptsClauses part operator ordinal ps)
      (e'.acceptsClauses part' operator ordinal ps) := by
  induction ps generalizing ordinal with
  | nil => exact .refl _
  | cons p ps ih =>
    rw [Evaluation.acceptsClauses, Evaluation.acceptsClauses]
    refine (h p List.mem_cons_self ordinal).bind fun b => ?_
    split
    · exact .refl _
    · exact ih (fun q hq => h q (List.mem_cons_of_mem p hq)) _

/-! ## Evaluations -/

/-- Whatever the predicate opens is declared, unless it needs a field there or the document has no
    object there. -/
def Predicate.OpensDeclared (p : Predicate) (d : Definition) (document : Document) : Prop :=
  ∀ n ∈ p.nestedNodes, d.node? n.1 = none →
    n.2.needsField = true ∨ ∀ v ∈ document.values n.1.segments, v.isObject = false

/-- Points are only looked for in value fields. -/
def Predicate.LocatesValues (p : Predicate) (d : Definition) : Prop :=
  ∀ l ∈ p.leaves, l.kind.isSpatial = true → ∀ f ∈ l.fields, ∀ node,
    d.node? f = some node → node.kind = .value

/-- What the predicate looks at in a document is declared. -/
structure Predicate.SeesDeclared (p : Predicate) (d : Definition) (document : Document) : Prop where
  opens : p.OpensDeclared d document
  locates : p.LocatesValues d

theorem Predicate.SeesDeclared.clause {d : Definition} {document : Document}
    {operator : BoolOperator} {ps : List Predicate}
    (h : (Predicate.bool operator ps).SeesDeclared d document) {p : Predicate} (hp : p ∈ ps) :
    p.SeesDeclared d document := by
  constructor
  · intro n hn
    refine h.opens n ?_
    rw [nestedNodes, nestedNodesOf_eq_flatMap]
    exact List.mem_flatMap.mpr ⟨p, hp, hn⟩
  · intro l hl
    refine h.locates l ?_
    rw [leaves, leavesOf_eq_flatMap]
    exact List.mem_flatMap.mpr ⟨p, hp, hl⟩

theorem Predicate.SeesDeclared.inside {d : Definition} {document : Document} {path : FieldPath}
    {inner : Predicate} (h : (Predicate.nested path inner).SeesDeclared d document) :
    inner.SeesDeclared d document :=
  ⟨fun n hn => h.opens n (List.mem_cons_of_mem _ hn), h.locates⟩

theorem Predicate.Contained.isIn_of_mem_leaves {base : Option FieldPath} {p : Predicate}
    (h : p.Contained base) : ∀ l ∈ p.leaves, ∀ f ∈ l.fields, f.IsIn base := by
  induction h with
  | leaf h =>
    intro l hl f hf
    cases List.mem_singleton.mp hl
    exact h f hf
  | bool h ih =>
    intro l hl
    rw [leaves, leavesOf_eq_flatMap] at hl
    obtain ⟨p, hp, hl⟩ := List.mem_flatMap.mp hl
    exact ih p hp l hl
  | nested hpath h ih =>
    intro l hl f hf
    exact hpath.trans (FieldPath.isIn_some.mp (ih l hl f hf))
  | not h ih | boosted h ih | constantScore h ih => exact ih

theorem Definition.node?_eq_none_of_isIn {d : Definition} {path f : FieldPath}
    (h : d.node? path = none) (hf : f.IsIn (some path)) : d.node? f = none := by
  rcases FieldPath.startsWith_iff_eq_or_join.mp (hf path rfl) with rfl | ⟨r, rfl⟩
  · exact h
  · rw [Definition.node?_join, h, Option.bind_none]

namespace Evaluation

variable {d : Schema} {hit : Hit} {near : List (List Hit)} {base : Option FieldPath}
  {v v' document document' : Document}

theorem targets_alike (h : Alike d.toDefinition base v v') (analysis : AnalysisOverride)
    {fields : List FieldPath} (hfields : ∀ f ∈ fields, f.IsIn base) :
    Evaluation.targets ⟨d.toDefinition, hit, near⟩ ⟨v, base⟩ analysis fields =
      Evaluation.targets ⟨d.toDefinition, hit, near⟩ ⟨v', base⟩ analysis fields := by
  induction fields with
  | nil => rfl
  | cons f rest ih =>
    have hf := hfields f List.mem_cons_self
    rw [targets, targets, ih fun g hg => hfields g (List.mem_cons_of_mem f hg)]
    cases hnode : d.node? f with
    | none => rfl
    | some node =>
      cases node with
      | object storage multiValued children => rfl
      | value field =>
        -- What a value field declares of a value is the value.
        have hvalues := h.valuesAt hf hnode
        have hid : (Node.value field).declared = id := rfl
        rw [hid, List.map_id, List.map_id] at hvalues
        have hencloses (w : Document) : DocumentPart.Encloses ⟨w, base⟩ f := hf
        rw [DocumentPart.values_eq _ (hencloses v), DocumentPart.values_eq _ (hencloses v'),
          hvalues]

theorem matchesLeaf_alike (h : Alike d.toDefinition base v v') {l : Leaf} {ordinal : Nat}
    (hfields : ∀ f ∈ l.fields, f.IsIn base)
    (hsees : (Predicate.leaf l).SeesDeclared d.toDefinition document) :
    Evaluation.matchesLeaf ⟨d.toDefinition, hit, near⟩ ⟨v, base⟩ ordinal l =
      Evaluation.matchesLeaf ⟨d.toDefinition, hit, near⟩ ⟨v', base⟩ ordinal l := by
  have hencloses (w : Document) : ∀ f ∈ l.fields, DocumentPart.Encloses ⟨w, base⟩ f := hfields
  by_cases hkind : l.kind.isSingleValue = true
  · cases htest : l.kind.valueTest? with
    | none => rw [matchesLeaf_of_noTest hkind htest, matchesLeaf_of_noTest hkind htest]
    | some test =>
      rw [matchesLeaf_eq hkind htest (hencloses v), matchesLeaf_eq hkind htest (hencloses v')]
      unfold passes
      refine congrArg (fun b => Except.ok (_ && b)) ?_
      refine any_congr_of_mem fun f hf => ?_
      cases hnode : d.node? f with
      | none => simp
      | some node =>
        have hspatial : l.kind.isSpatial = true → node.kind = .value :=
          fun hs => hsees.locates l (List.mem_singleton_self l) hs f hf node hnode
        have htest : test node ∘ node.declared = test node :=
          funext (PredicateKind.valueTest?_declared htest (d.check_node hnode) hspatial)
        simp only [Option.any_some]
        rw [← htest, ← List.any_map, ← List.any_map, h.valuesAt (hfields f hf) hnode]
  · obtain ⟨fields, kind⟩ := l
    cases kind with
    | matchAll | matchNone | ids documents => rfl
    | simpleQueryString query operator analysis =>
      unfold matchesLeaf
      simp only [targets_alike h analysis hfields]
    | _ => exact absurd rfl hkind

/-- In an undeclared object nothing is accepted that needs a field. -/
theorem eq_false_of_undeclared {path : FieldPath} {inner : Predicate} {part : DocumentPart}
    {ordinal : Nat} {accepted : Bool} (hpath : part.Encloses path)
    (hinner : inner.Contained (some path)) (hnone : d.node? path = none)
    (hempty : inner.needsField = true ∨ part.objectsAt path = [])
    (h : Evaluation.accepts ⟨d.toDefinition, hit, near⟩ part ordinal (.nested path inner) =
      .ok accepted) : accepted = false := by
  rw [accepts_nested hpath] at h
  rcases hempty with hneeds | hempty
  · cases accepted with
    | false => rfl
    | true =>
      obtain ⟨v, -, hv⟩ := (eq_true_iff_of_anyAccepted h).mp rfl
      refine absurd hv (accepts_ne_of_needsField inner hneeds fun l hl f hf => ?_)
      exact Definition.node?_eq_none_of_isIn hnone (hinner.isIn_of_mem_leaves l hl f hf)
  · rw [hempty] at h
    cases h
    rfl

/-- **Parts that are alike are evaluated alike**, by a predicate that keeps to them and looks at
    declared content. -/
theorem accepts_alike {p : Predicate} (hp : p.Contained base) :
    ∀ {v v' : Document} (ordinal : Nat), Alike d.toDefinition base v v' →
      DocumentPart.IsPartOf ⟨v, base⟩ document → DocumentPart.IsPartOf ⟨v', base⟩ document' →
      p.SeesDeclared d.toDefinition document → p.SeesDeclared d.toDefinition document' →
        Concur (Evaluation.accepts ⟨d.toDefinition, hit, near⟩ ⟨v, base⟩ ordinal p)
          (Evaluation.accepts ⟨d.toDefinition, hit, near⟩ ⟨v', base⟩ ordinal p) := by
  induction hp with
  | leaf h =>
    intro v v' ordinal halike _ _ hsees _
    rw [accepts, accepts, matchesLeaf_alike halike h hsees]
    exact .refl _
  | bool h ih =>
    intro v v' ordinal halike hpart hpart' hsees hsees'
    rw [accepts, accepts]
    exact .acceptsClauses (fun p hp ordinal =>
      ih p hp ordinal halike hpart hpart' (hsees.clause hp) (hsees'.clause hp)) ordinal
  | @nested base path inner hpath h ih =>
    intro v v' ordinal halike hpart hpart' hsees hsees'
    have hencloses (w : Document) : DocumentPart.Encloses ⟨w, base⟩ path := hpath
    cases hnode : d.node? path with
    | none =>
      -- Other objects may stand here in the one document than in the other, and in neither is
      -- anything accepted.
      have hempty := (hsees.opens _ List.mem_cons_self hnode).imp_right
        (hpart.objectsAt_eq_nil hpath)
      have hempty' := (hsees'.opens _ List.mem_cons_self hnode).imp_right
        (hpart'.objectsAt_eq_nil hpath)
      intro b b' hb hb'
      rw [eq_false_of_undeclared (hencloses v) h hnode hempty hb,
        eq_false_of_undeclared (hencloses v') h hnode hempty' hb']
    | some node =>
      rw [accepts_nested (hencloses v), accepts_nested (hencloses v')]
      refine .anyAccepted (halike.objectsAt hpath hnode) fun w hw w' hw' hsame => ?_
      exact ih ordinal hsame (hpart.valuesAt_subset hpath (List.mem_filter.mp hw).1)
        (hpart'.valuesAt_subset hpath (List.mem_filter.mp hw').1) hsees.inside hsees'.inside
  | not h ih =>
    intro v v' ordinal halike hpart hpart' hsees hsees'
    rw [accepts, accepts]
    exact (ih ordinal halike hpart hpart' ⟨hsees.opens, hsees.locates⟩
      ⟨hsees'.opens, hsees'.locates⟩).bind fun b => .refl _
  | boosted h ih | constantScore h ih =>
    intro v v' ordinal halike hpart hpart' hsees hsees'
    rw [accepts, accepts]
    exact ih ordinal halike hpart hpart' ⟨hsees.opens, hsees.locates⟩
      ⟨hsees'.opens, hsees'.locates⟩

end Evaluation

/-! ## Corpora -/

/-- What an index declares of its documents in a corpus. -/
def TargetIndex.declaredIn (i : TargetIndex) (c : Corpus) : List (String × Document) :=
  (c.documents i.name).entries.map fun entry =>
    (entry.1, i.schema.root.declared entry.2)

namespace Corpus

variable {c c' : Corpus} {scope : SearchScope}

theorem hitsIn_declared (h : ∀ i ∈ scope.indexes, i.declaredIn c = i.declaredIn c') :
    c.hitsIn scope = c'.hitsIn scope := by
  have hnames (c : Corpus) (i : TargetIndex) :
      (c.named i).map (fun x => x.2.1) = (i.declaredIn c).map fun entry => ⟨i.name, entry.1⟩ := by
    unfold named TargetIndex.declaredIn
    rw [List.map_map, List.map_map]
    rfl
  unfold hitsIn
  rw [List.map_flatMap, List.map_flatMap]
  refine List.flatMap_congr fun i hi => ?_
  rw [hnames, hnames, h i hi]

theorem candidatesIn_declared {i : TargetIndex} (h : i.declaredIn c = i.declaredIn c')
    (field : FieldPath) (query : List Float32) :
    c.candidatesIn field query i = c'.candidatesIn field query i := by
  cases hmetric : (i.schema.node? field).bind Node.metric? with
  | none =>
    unfold candidatesIn
    rw [hmetric]
  | some metric =>
    obtain ⟨node, hnode, hvector⟩ := Option.bind_eq_some_iff.mp hmetric
    cases node with
    | object storage multiValued children => cases hvector
    | value f =>
      -- Vectors are declared content, so it is enough to know that.
      have hbelow : i.schema.root.below? field.segments = some (.value f) := hnode
      have hranked (c : Corpus) : c.candidatesIn field query i =
          (i.declaredIn c).filterMap fun entry =>
            (nearestRank? metric query (entry.2.vectors field.segments)).map fun rank =>
              ⟨rank, ⟨i.name, entry.1⟩⟩ := by
        unfold candidatesIn TargetIndex.declaredIn
        rw [hmetric, List.filterMap_map]
        refine List.filterMap_congr fun entry _ => ?_
        simp only [Function.comp, Node.vectors_declared hbelow]
      rw [hranked, hranked, h]

theorem neighbours_declared (h : ∀ i ∈ scope.indexes, i.declaredIn c = i.declaredIn c')
    (l : Leaf) : c.neighbours scope l = c'.neighbours scope l := by
  have hcandidates (field : FieldPath) (query : List Float32) :
      c.candidates scope field query = c'.candidates scope field query :=
    List.flatMap_congr fun i hi => candidatesIn_declared (h i hi) field query
  unfold neighbours nearest
  simp only [hcandidates]

theorem verdict_declared (hdeclared : ∀ i ∈ scope.indexes, i.declaredIn c = i.declaredIn c')
    {p : Predicate} (hcontained : p.Contained none) {i : TargetIndex} {id : String}
    {document document' : Document}
    (hsame : i.schema.root.declared document = i.schema.root.declared document')
    (hsees : p.SeesDeclared i.schema.toDefinition document)
    (hsees' : p.SeesDeclared i.schema.toDefinition document') :
    Concur (c.verdict scope p i (id, document)) (c'.verdict scope p i (id, document')) := by
  unfold verdict
  rw [List.map_congr_left fun l _ => neighbours_declared hdeclared l]
  exact Evaluation.accepts_alike hcontained 0 ⟨_, rfl, hsame⟩ rfl rfl hsees hsees'

end Corpus

/-! ## Searches -/

section Search

variable {scope : SearchScope} {config : CompilerConfig} {p : Predicate} {q : CompiledQuery}

theorem locatesValues_of_compile (hvalidates : config.validateUsages = true)
    (hcompile : compile scope config p = .ok q) {i : TargetIndex} (hi : i ∈ scope.indexes) :
    q.predicate.LocatesValues i.schema.toDefinition := by
  obtain ⟨r, hr, hpredicate⟩ := derivation_of_compile hcompile
  intro l hl hspatial f hf node hnode
  rw [hpredicate] at hl
  rw [PredicateKind.isSpatial, Option.any_eq_true] at hspatial
  obtain ⟨usage, husage, hplace⟩ := hspatial
  have hsupports := hr.leaves_supported hvalidates l hl usage husage f hf i hi node hnode
  cases node with
  | value field => rfl
  | object storage multiValued children =>
    rw [PredicateKind.eq_exists_of_object husage hsupports] at husage
    cases husage
    cases hplace

/-- In a single index all nested nodes are declared. -/
theorem nestedNodes_declared (hcompile : compile scope config p = .ok q)
    (hsingle : scope.isMultiIndex = false) {i : TargetIndex} (hi : i ∈ scope.indexes)
    {n : FieldPath × Predicate} (hn : n ∈ q.predicate.nestedNodes) :
    ∃ node, i.schema.node? n.1 = some node := by
  obtain ⟨r, hr, hpredicate⟩ := derivation_of_compile hcompile
  obtain ⟨j, hj, node, hnode⟩ := hr.nestedNodes_known n (hpredicate ▸ hn)
  have hle : scope.indexes.length ≤ 1 := Nat.not_lt.mp (of_decide_eq_false hsingle)
  obtain ⟨one, hone⟩ : ∃ one, scope.indexes = [one] := by
    have hpos := List.length_pos_iff.mpr scope.nonempty
    exact List.length_eq_one_iff.mp (by omega)
  rw [hone] at hi hj
  cases List.mem_singleton.mp hi
  cases List.mem_singleton.mp hj
  exact ⟨node, hnode⟩

variable {c c' : Corpus} {hits hits' : List Hit}

/-- A document that is a hit stays one as long as its index declares the same of it, if the query
    sees declared content only. -/
theorem mem_hits_of_declared (hcompile : compile scope config p = .ok q)
    (hdeclared : ∀ i ∈ scope.indexes, i.declaredIn c = i.declaredIn c')
    (hsearch : c.search scope q = .ok hits) (hsearch' : c'.search scope q = .ok hits')
    {i : TargetIndex} (hi : i ∈ scope.indexes)
    (hsees : ∀ entry ∈ (c.documents i.name).entries,
      q.predicate.SeesDeclared i.schema.toDefinition entry.2)
    (hsees' : ∀ entry ∈ (c'.documents i.name).entries,
      q.predicate.SeesDeclared i.schema.toDefinition entry.2)
    {id : String} (h : ⟨i.name, id⟩ ∈ hits) : ⟨i.name, id⟩ ∈ hits' := by
  have hcontained : q.predicate.Contained none := by
    obtain ⟨r, hplace, hpredicate, -⟩ := compile_ok hcompile
    exact hpredicate ▸ contained_of_place hplace
  obtain ⟨document, hentry, hverdict⟩ := (Corpus.mem_iff_of_search hsearch hi).mp h
  have hmem : (id, i.schema.root.declared document) ∈ i.declaredIn c' := by
    rw [← hdeclared i hi]
    exact List.mem_map_of_mem hentry
  obtain ⟨⟨id', document'⟩, hentry', heq⟩ := List.mem_map.mp hmem
  obtain ⟨rfl, hsame⟩ := Prod.mk.inj heq
  obtain ⟨accepted, hverdict'⟩ := Corpus.exists_verdict_of_search hsearch' hi hentry'
  cases Corpus.verdict_declared hdeclared hcontained hsame.symm (hsees _ hentry)
    (hsees' _ hentry') _ _ hverdict hverdict'
  exact (Corpus.mem_iff_of_search hsearch' hi).mpr ⟨document', hentry', hverdict'⟩

/-- **Undeclared content has no influence**, except where a nested node opens an undeclared object
    or an object is taken for a point. Two corpora of which all indexes declare the same have the
    same hits in every index where neither happens, and all their hits are the same if usages are
    validated and nothing is opened in an undeclared object that can be met without a field; in a
    single index nothing is. -/
theorem undeclared_ignored (hcompile : compile scope config p = .ok q)
    (hdeclared : ∀ i ∈ scope.indexes, i.declaredIn c = i.declaredIn c')
    (hsearch : c.search scope q = .ok hits) (hsearch' : c'.search scope q = .ok hits') :
    (∀ i ∈ scope.indexes,
      (config.validateUsages = true ∨ q.predicate.LocatesValues i.schema.toDefinition) →
      (∀ entry ∈ (c.documents i.name).entries ++ (c'.documents i.name).entries,
        q.predicate.OpensDeclared i.schema.toDefinition entry.2) →
      ∀ id, ⟨i.name, id⟩ ∈ hits ↔ ⟨i.name, id⟩ ∈ hits') ∧
    (config.validateUsages = true →
      (scope.isMultiIndex = true → ∀ i ∈ scope.indexes, ∀ n ∈ q.predicate.nestedNodes,
        i.schema.node? n.1 = none → n.2.needsField = true) →
      hits = hits') := by
  have hagree : ∀ i ∈ scope.indexes,
      (config.validateUsages = true ∨ q.predicate.LocatesValues i.schema.toDefinition) →
      (∀ entry ∈ (c.documents i.name).entries ++ (c'.documents i.name).entries,
        q.predicate.OpensDeclared i.schema.toDefinition entry.2) →
      ∀ id, ⟨i.name, id⟩ ∈ hits ↔ ⟨i.name, id⟩ ∈ hits' := by
    intro i hi hlocates hopens id
    have hlocates : q.predicate.LocatesValues i.schema.toDefinition :=
      hlocates.elim (fun hvalidates => locatesValues_of_compile hvalidates hcompile hi) fun h => h
    have hsees : ∀ entry ∈ (c.documents i.name).entries,
        q.predicate.SeesDeclared i.schema.toDefinition entry.2 :=
      fun entry hentry => ⟨hopens entry (List.mem_append_left _ hentry), hlocates⟩
    have hsees' : ∀ entry ∈ (c'.documents i.name).entries,
        q.predicate.SeesDeclared i.schema.toDefinition entry.2 :=
      fun entry hentry => ⟨hopens entry (List.mem_append_right _ hentry), hlocates⟩
    have hback : ∀ i ∈ scope.indexes, i.declaredIn c' = i.declaredIn c :=
      fun i hi => (hdeclared i hi).symm
    exact ⟨mem_hits_of_declared hcompile hdeclared hsearch hsearch' hi hsees hsees',
      mem_hits_of_declared hcompile hback hsearch' hsearch hi hsees' hsees⟩
  refine ⟨hagree, fun hvalidates hneeds => ?_⟩
  refine Corpus.hits_eq_of_search hsearch hsearch' (Corpus.hitsIn_declared hdeclared).symm ?_
  intro hit hhit
  obtain ⟨i, hi, entry, -, rfl⟩ := Corpus.mem_hitsIn_iff.mp hhit
  refine hagree i hi (.inl hvalidates) (fun entry _ n hn hnone => .inl ?_) entry.1
  cases hmulti : scope.isMultiIndex with
  | true => exact hneeds hmulti i hi n hn hnone
  | false =>
    obtain ⟨node, hnode⟩ := nestedNodes_declared hcompile hmulti hi hn
    cases hnone.symm.trans hnode

end Search

namespace Sample

/-- Orders of which no line has a number. -/
def unnumbered : Predicate := .nested ⟨orders, []⟩ (.not (.leaf ⟨[⟨lines, [sku]⟩], .exists⟩))

def plainOrders : Corpus :=
  (Corpus.empty.insert ⟨"shop", "s1"⟩ (.object [("orders", .object [("lines", .null)])])).insert
    ⟨"blog", "b1"⟩ (.object [("title", .text "lean")])

/-- The documents of `plainOrders` with a member more, of an order of the shop and of the blog. -/
def annotatedOrders : Corpus :=
  (Corpus.empty.insert ⟨"shop", "s1"⟩
    (.object [("orders", .object [("gift", .bool true), ("lines", .null)])])).insert
      ⟨"blog", "b1"⟩ (.object [("title", .text "lean"), ("orders", .object [])])

end Sample

/-- The hypotheses of `undeclared_ignored` can be met. The order in the shop is found either way;
    the blog declares no orders, and there the member of that name makes a hit. -/
theorem undeclared_ignored_sample :
    ∃ q hits hits', compile Sample.scope .default Sample.unnumbered = .ok q ∧
      (∀ i ∈ Sample.scope.indexes,
        i.declaredIn Sample.plainOrders = i.declaredIn Sample.annotatedOrders) ∧
      Sample.plainOrders.search Sample.scope q = .ok hits ∧
      Sample.annotatedOrders.search Sample.scope q = .ok hits' ∧
      (∀ id, ⟨"shop", id⟩ ∈ hits ↔ ⟨"shop", id⟩ ∈ hits') ∧
      hits = [⟨"shop", "s1"⟩] ∧ hits' = [⟨"shop", "s1"⟩, ⟨"blog", "b1"⟩] := by
  obtain ⟨q, hq, hsearch⟩ : Finds Sample.scope .default Sample.plainOrders Sample.unnumbered
      [⟨"shop", "s1"⟩] := finds_of_toOption (by decide +kernel)
  obtain ⟨q', hq', hsearch'⟩ : Finds Sample.scope .default Sample.annotatedOrders Sample.unnumbered
      [⟨"shop", "s1"⟩, ⟨"blog", "b1"⟩] := finds_of_toOption (by decide +kernel)
  cases hq.symm.trans hq'
  have hdeclared : ∀ i ∈ Sample.scope.indexes,
      i.declaredIn Sample.plainOrders = i.declaredIn Sample.annotatedOrders := by
    intro i hi
    rcases List.mem_cons.mp hi with rfl | hi
    · rfl
    · cases List.mem_singleton.mp hi
      rfl
  have hnested : (compile Sample.scope .default Sample.unnumbered).toOption.map (fun q =>
      q.predicate.nestedNodes.all fun n => (Sample.shop.node? n.1).isSome) = some true := by
    decide +kernel
  rw [toOption_eq_some_iff.mpr hq, Option.map_some, Option.some.injEq, List.all_eq_true] at hnested
  refine ⟨q, _, _, hq, hdeclared, hsearch, hsearch', ?_, rfl, rfl⟩
  refine (undeclared_ignored hq hdeclared hsearch hsearch').1 _ List.mem_cons_self (.inl rfl) ?_
  intro entry _ n hn hnone
  have hsome := hnested n hn
  rw [show Sample.shop.node? n.1 = none from hnone] at hsome
  cases hsome

end NestedSearch
