import NestedSearch.Proofs.Corpus.Evaluation

/-!
# What a leaf looks at

All leaves on fields but the query strings test one value at a time: such a leaf matches if one of
the values of one of its fields passes a test that knows the field (`matchesLeaf_eq`). In the scopes
of its fields it looks at the values that these let through, and these are all values of a field, or
the objects among them if the field is the innermost scope itself (`valuesIn_eq`,
`valuesIn_self`).
-/

namespace NestedSearch

/-! ## Tests of values -/

namespace PredicateKind

/-- Whether the predicate is about single values of fields. -/
def isSingleValue : PredicateKind → Bool
  | .simpleQueryString .. | .matchAll | .matchNone | .ids _ => false
  | _ => true

theorem exists_usage_of_isSingleValue {kind : PredicateKind} (h : kind.isSingleValue = true) :
    ∃ usage, kind.usage? = some usage ∧ usage ≠ .nested := by
  cases kind <;> cases h <;> exact ⟨_, rfl, by decide⟩

/-- The test of a value of a field. There is none for a pattern that is no expression once it has to
    span a whole term. -/
def valueTest? : PredicateKind → Option (Node → Document → Bool)
  | .exists => some Node.holdsValue
  | .matching value analysis edits => some fun node v =>
    node.value?.any fun f => f.matchesValue value analysis edits v
  | .phrase text slop analysis => some fun node v =>
    node.value?.any fun f => v.text?.any fun t =>
      Text.containsPhrase slop ((f.queryAnalysis analysis).terms text) (f.indexTerms t)
  | .wildcard pattern => some (matchesTerm (Regex.wildcard pattern.toList))
  | .regexp pattern => (Regex.parseWhole? pattern.toList).map matchesTerm
  | .range lower upper => some fun _ v => isBeyond v .gt lower && isBeyond v .lt upper
  | .withinCircle center radius => some fun _ v =>
    v.point?.any fun p => center.distance p ≤ radius
  | .withinPolygon points => some fun _ v => v.point?.any (GeoPoint.inPolygon points)
  | .withinBoundingBox topLeft bottomRight => some fun _ v =>
    v.point?.any (GeoPoint.inBox topLeft bottomRight)
  | .knn .. => some fun _ _ => true
  | .simpleQueryString .. | .matchAll | .matchNone | .ids _ => none
where
  matchesTerm (r : Regex) (node : Node) (v : Document) : Bool :=
    node.value?.any fun f => v.text?.any fun t =>
      (f.indexTerms t).any fun term => r.matchesWhole term.toList.toArray

end PredicateKind

/-! ## Leaves -/

theorem any_congr_of_mem {α : Type} {test test' : α → Bool} {as : List α}
    (h : ∀ a ∈ as, test a = test' a) : as.any test = as.any test' := by
  rw [Bool.eq_iff_iff, List.any_eq_true, List.any_eq_true]
  exact exists_congr fun a => and_congr_right fun ha => by rw [h a ha]

theorem anyAccepted_of_ok {α : Type} {test : α → Except QueryError Bool} {accepts : α → Bool}
    {as : List α} (h : ∀ a ∈ as, test a = .ok (accepts a)) :
    anyAccepted test as = .ok (as.any accepts) := by
  induction as with
  | nil => rfl
  | cons a rest ih =>
    rw [anyAccepted, h a List.mem_cons_self, ih fun b hb => h b (List.mem_cons_of_mem a hb),
      List.any_cons]
    cases accepts a <;> rfl

namespace Evaluation

variable {e : Evaluation} {d : DocumentPart} {ordinal : Nat} {l : Leaf}
  {test : Node → Document → Bool}

/-- Whether the leaf may match the document at all: one that asks for neighbours matches no other
    documents. -/
def admits (e : Evaluation) (ordinal : Nat) : PredicateKind → Bool
  | .knn .. => (e.neighbours[ordinal]?.getD []).contains e.hit
  | _ => true

/-- Whether one of the values that a leaf sees in its fields passes its test. -/
def passes (e : Evaluation) (ordinal : Nat) (l : Leaf) (test : Node → Document → Bool)
    (seen : FieldPath → List Document) : Bool :=
  e.admits ordinal l.kind &&
    l.fields.any fun f => (e.schema.node? f).any fun node => (seen f).any (test node)

/-- Testing values with the value field, if there is one, is testing values with the node. -/
theorem anyFieldValue_eq (fields : List FieldPath) (test : ValueField → Document → Bool) :
    e.anyFieldValue d fields test =
      e.anyField d fields fun node values => values.any fun v =>
        node.value?.any fun f => test f v := by
  have hswap : ∀ (node : Node) (values : List Document),
      (node.value?.any fun f => values.any (test f)) =
        values.any fun v => node.value?.any fun f => test f v := by
    intro node values
    cases node with
    | value f => rfl
    | object storage multiValued children => simp [Node.value?]
  unfold anyFieldValue
  simp only [hswap]

theorem anyField_eq {fields : List FieldPath} (h : ∀ f ∈ fields, d.Encloses f) :
    e.anyField d fields (fun node values => values.any (test node)) =
      .ok (fields.any fun f => (e.schema.node? f).any fun node =>
        (d.valuesAt f).any (test node)) := by
  refine anyAccepted_of_ok fun f hf => ?_
  cases e.schema.node? f with
  | none => rfl
  | some node =>
    rw [d.values_eq (h f hf)]
    rfl

theorem matchesLeaf_of_noTest (hkind : l.kind.isSingleValue = true)
    (htest : l.kind.valueTest? = none) :
    e.matchesLeaf d ordinal l = .error (.invalidPredicate .unwrappablePattern) := by
  obtain ⟨fields, kind⟩ := l
  cases kind with
  | regexp pattern =>
    have hparse : Regex.parseWhole? pattern.toList = none := Option.map_eq_none_iff.mp htest
    unfold matchesLeaf
    simp only [hparse]
  | simpleQueryString query operator analysis => cases hkind
  | matchAll | matchNone | ids documents => cases hkind
  | _ => cases htest

/-- **A leaf about single values matches if one of them passes its test.** -/
theorem matchesLeaf_eq (hkind : l.kind.isSingleValue = true)
    (htest : l.kind.valueTest? = some test) (h : ∀ f ∈ l.fields, d.Encloses f) :
    e.matchesLeaf d ordinal l = .ok (e.passes ordinal l test d.valuesAt) := by
  have hany (test : Node → Document → Bool) :
      e.anyField d l.fields (fun node values => values.any (test node)) = _ := anyField_eq h
  obtain ⟨fields, kind⟩ := l
  unfold matchesLeaf passes admits
  simp only at hany ⊢
  cases kind with
  | simpleQueryString query operator analysis => cases hkind
  | matchAll | matchNone | ids documents => cases hkind
  | regexp pattern =>
    obtain ⟨r, hparse, rfl⟩ := Option.map_eq_some_iff.mp htest
    simp only [hparse, anyTerm, anyFieldValue_eq, Bool.true_and]
    exact hany _
  | knn vector k =>
    cases htest
    have hnonempty : ∀ values : List Document, (!values.isEmpty) = values.any fun _ => true := by
      intro values
      cases values <;> rfl
    simp only [hnonempty]
    split
    · rename_i hnear
      rw [hnear, Bool.true_and]
      exact hany fun _ _ => true
    · rename_i hnear
      rw [Bool.not_eq_true] at hnear
      rw [hnear, Bool.false_and]
  | _ =>
    cases htest
    simp only [anyTerm, anyPoint, anyValue, anyFieldValue_eq, Bool.true_and]
    exact hany _

end Evaluation

/-! ## Scopes -/

namespace NestingChain

/-- The scopes lie inside one another, and the fields inside all of them. -/
structure Encloses (c : NestingChain) (fields : List FieldPath) : Prop where
  inside : c.paths.Pairwise fun a b => a.isAncestorOf b = true
  startsWith : ∀ f ∈ fields, ∀ a ∈ c.paths, f.startsWith a = true

theorem encloses_empty (fields : List FieldPath) : empty.Encloses fields :=
  ⟨.nil, fun _ _ a ha => by cases ha⟩

/-- The values at a path that the scopes of a chain let through: those in objects at the innermost
    one. -/
def valuesIn (c : NestingChain) (d : Document) (p : FieldPath) : List Document :=
  match c.innermost? with
  | none => d.values p.segments
  | some s => (d.values s.path.segments |>.filter Document.isObject).flatMap fun v =>
    v.values (p.segments.drop s.path.length)

/-- **Scopes around a field hide none of its values.** -/
theorem valuesIn_eq {c : NestingChain} {p : FieldPath}
    (h : ∀ s, c.innermost? = some s → s.path.isAncestorOf p = true) (d : Document) :
    c.valuesIn d p = d.values p.segments := by
  unfold valuesIn
  cases hinner : c.innermost? with
  | none => rfl
  | some s =>
    obtain ⟨r, rfl⟩ := FieldPath.isAncestorOf_iff.mp (h s hinner)
    have hdrop : (s.path.join r).segments.drop s.path.length = r.head :: r.tail := by
      rw [FieldPath.segments_join, FieldPath.length, List.drop_left]
      rfl
    simp only [hdrop]
    rw [FieldPath.segments_join]
    exact (Document.values_append_objects d s.path.segments r.head r.tail).symm

/-- Of the innermost scope itself the objects are seen. -/
theorem valuesIn_self {c : NestingChain} {s : NestingScope} (h : c.innermost? = some s)
    (d : Document) : c.valuesIn d s.path = (d.values s.path.segments).filter Document.isObject := by
  have hdrop : s.path.segments.drop s.path.length = [] := List.drop_length
  have hself : ∀ v ∈ (d.values s.path.segments).filter Document.isObject, v.values [] = [v] := by
    intro v hv
    simp [Document.values, Document.atEnd,
      Document.instances_of_mem_values (List.mem_filter.mp hv).1]
  unfold valuesIn
  simp only [h, hdrop]
  rw [List.flatMap_congr hself, List.flatMap_singleton']

end NestingChain

/-- **A leaf in its scopes sees the values that these let through.** -/
theorem Evaluation.accepts_leaf_within {e : Evaluation} {ordinal : Nat} {l : Leaf}
    {test : Node → Document → Bool} {chain : NestingChain} (d : Document)
    (hkind : l.kind.isSingleValue = true) (htest : l.kind.valueTest? = some test)
    (hchain : chain.Encloses l.fields) :
    e.accepts ⟨d, none⟩ ordinal ((Predicate.leaf l).within chain.scopes) =
      .ok (e.passes ordinal l test (chain.valuesIn d)) := by
  obtain ⟨scopes⟩ := chain
  rcases List.eq_nil_or_concat scopes with rfl | ⟨outer, innermost, rfl⟩
  · refine matchesLeaf_eq hkind htest ?_
    intro f hf base hbase
    cases hbase
  · rw [List.concat_eq_append] at *
    have hinner : NestingChain.innermost? ⟨outer ++ [innermost]⟩ = some innermost := by
      simp [NestingChain.innermost?]
    have hencloses : ∀ v, ∀ f ∈ l.fields,
        DocumentPart.Encloses ⟨v, some innermost.path⟩ f := by
      intro v f hf base hbase
      cases hbase
      exact hchain.startsWith f hf _ (by simp [NestingChain.paths])
    have hleaf : ∀ v, e.accepts ⟨v, some innermost.path⟩ ordinal (.leaf l) = _ :=
      fun v => matchesLeaf_eq hkind htest (hencloses v)
    rw [accepts_within hchain.inside (by intro s _ base hbase; cases hbase),
      anyAccepted_of_ok fun v _ => hleaf v, Except.ok.injEq, Bool.eq_iff_iff]
    unfold passes NestingChain.valuesIn
    simp only [hinner, List.any_eq_true, Bool.and_eq_true, Option.any_eq_true, List.mem_flatMap]
    -- It does not matter whether first an object is chosen or first a field.
    constructor
    · rintro ⟨v, hv, hadmits, f, hf, node, hnode, w, hw, hpasses⟩
      exact ⟨hadmits, f, hf, node, hnode, w, ⟨v, hv, hw⟩, hpasses⟩
    · rintro ⟨hadmits, f, hf, node, hnode, w, ⟨v, hv, hw⟩, hpasses⟩
      exact ⟨v, hv, hadmits, f, hf, node, hnode, w, hw, hpasses⟩

end NestedSearch
