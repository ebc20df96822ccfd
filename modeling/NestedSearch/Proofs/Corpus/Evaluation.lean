import NestedSearch.Corpus.Evaluation
import NestedSearch.Placement
import NestedSearch.Proofs.Corpus.Document
import NestedSearch.Proofs.FieldPath
import NestedSearch.Proofs.Outcome

/-!
# Evaluation inside scopes

Placement wraps a leaf in one nested node for each scope of its chain, and evaluation enters them
one by one: instances of the outer object, in each of them those of the next one. `accepts_within`
says that all of this is one step. The predicate is tried on the instances of the innermost object
in the whole part of the document, in the same order, so that even the first error is the same.
-/

namespace NestedSearch

/-! ## Trying one after the other -/

section AnyAccepted

variable {α β : Type} {test : α → Except QueryError Bool}

theorem anyAccepted_append (as bs : List α) :
    anyAccepted test (as ++ bs) =
      (do if ← anyAccepted test as then return true else anyAccepted test bs) := by
  induction as with
  | nil => rfl
  | cons a rest ih =>
    rw [List.cons_append, anyAccepted, anyAccepted]
    cases test a with
    | error e => rfl
    | ok accepted =>
      cases accepted with
      | true => rfl
      | false => exact ih

theorem anyAccepted_flatMap (f : β → List α) (bs : List β) :
    anyAccepted test (bs.flatMap f) = anyAccepted (fun b => anyAccepted test (f b)) bs := by
  induction bs with
  | nil => rfl
  | cons b rest ih =>
    rw [List.flatMap_cons, anyAccepted_append, ih, anyAccepted]

theorem anyAccepted_congr {test' : α → Except QueryError Bool} {as : List α}
    (h : ∀ a ∈ as, test a = test' a) : anyAccepted test as = anyAccepted test' as := by
  induction as with
  | nil => rfl
  | cons a rest ih =>
    rw [anyAccepted, anyAccepted, h a List.mem_cons_self,
      ih fun b hb => h b (List.mem_cons_of_mem a hb)]

/-- If it ends at all, it says whether one is accepted. What comes after that one may be anything:
    it is not looked at. -/
theorem eq_true_iff_of_anyAccepted {as : List α} {accepted : Bool}
    (h : anyAccepted test as = .ok accepted) :
    accepted = true ↔ ∃ a ∈ as, test a = .ok true := by
  induction as with
  | nil =>
    cases h
    simp
  | cons a rest ih =>
    obtain ⟨first, hfirst, h⟩ := bind_eq_ok_iff.mp h
    cases first with
    | true =>
      cases h
      simp [hfirst]
    | false =>
      rw [ih h]
      simp [hfirst]

/-- To find that none is accepted, all of them have to be tried. -/
theorem anyAccepted_eq_false_iff {as : List α} :
    anyAccepted test as = .ok false ↔ ∀ a ∈ as, test a = .ok false := by
  induction as with
  | nil => simp [anyAccepted]
  | cons a rest ih =>
    rw [anyAccepted, List.forall_mem_cons, ← ih, bind_eq_ok_iff]
    constructor
    · rintro ⟨first, hfirst, h⟩
      cases first with
      | true => cases h
      | false => exact ⟨hfirst, h⟩
    · rintro ⟨hfirst, h⟩
      exact ⟨false, hfirst, h⟩

/-- If it fails, it is because of one of them. -/
theorem exists_of_anyAccepted_error {as : List α} {err : QueryError}
    (h : anyAccepted test as = .error err) : ∃ a ∈ as, test a = .error err := by
  induction as with
  | nil => cases h
  | cons a rest ih =>
    rw [anyAccepted] at h
    cases hfirst : test a with
    | error e =>
      rw [hfirst] at h
      cases h
      exact ⟨a, List.mem_cons_self, hfirst⟩
    | ok accepted =>
      rw [hfirst] at h
      cases accepted with
      | true => cases h
      | false =>
        obtain ⟨b, hb, herr⟩ := ih h
        exact ⟨b, List.mem_cons_of_mem a hb, herr⟩

end AnyAccepted

/-! ## Parts of documents -/

namespace DocumentPart

/-- Whether the path leads into this part. -/
def Encloses (d : DocumentPart) (p : FieldPath) : Prop :=
  ∀ base, d.base = some base → p.startsWith base = true

/-- The values at a path that leads into this part. -/
def valuesAt (d : DocumentPart) (p : FieldPath) : List Document :=
  d.value.values (p.segments.drop ((d.base.map FieldPath.length).getD 0))

/-- The instances of the object at a path that leads into this part. -/
def objectsAt (d : DocumentPart) (p : FieldPath) : List Document :=
  (d.valuesAt p).filter Document.isObject

theorem values_eq (d : DocumentPart) {p : FieldPath} (h : d.Encloses p) :
    d.values p = .ok (d.valuesAt p) := by
  unfold values valuesAt
  cases hbase : d.base with
  | none => rfl
  | some base =>
    simp only
    rw [if_pos (h base hbase)]
    rfl

/-- The objects further down are those inside each object on the way. -/
theorem objectsAt_join {d : DocumentPart} {p : FieldPath} (h : d.Encloses p) (r : FieldPath) :
    d.objectsAt (p.join r) =
      (d.objectsAt p).flatMap fun v => DocumentPart.objectsAt ⟨v, some p⟩ (p.join r) := by
  have hbelow : ∀ v, DocumentPart.valuesAt ⟨v, some p⟩ (p.join r) = v.values r.segments := by
    intro v
    simp [valuesAt, FieldPath.length]
  have hdrop : (p.join r).segments.drop ((d.base.map FieldPath.length).getD 0) =
      p.segments.drop ((d.base.map FieldPath.length).getD 0) ++ r.segments := by
    rw [FieldPath.segments_join]
    refine List.drop_append_of_le_length ?_
    cases hbase : d.base with
    | none => exact Nat.zero_le _
    | some base => exact FieldPath.length_le_of_startsWith (h base hbase)
  unfold objectsAt
  simp only [hbelow]
  rw [← List.filter_flatMap]
  congr 1
  unfold valuesAt
  rw [hdrop]
  exact Document.values_append_objects d.value _ r.head r.tail

end DocumentPart

/-! ## Scopes -/

namespace Evaluation

variable {e : Evaluation} {ordinal : Nat}

theorem accepts_nested {d : DocumentPart} {path : FieldPath} {p : Predicate}
    (h : d.Encloses path) :
    e.accepts d ordinal (.nested path p) =
      anyAccepted (fun v => e.accepts ⟨v, some path⟩ ordinal p) (d.objectsAt path) := by
  rw [accepts, d.values_eq h]
  rfl

/-- **Entering scopes one by one is entering the innermost one.** -/
theorem accepts_within {d : DocumentPart} {outer : List NestingScope} {innermost : NestingScope}
    {p : Predicate}
    (hchain : ((outer ++ [innermost]).map NestingScope.path).Pairwise
      fun a b => a.isAncestorOf b = true)
    (h : ∀ s ∈ outer ++ [innermost], d.Encloses s.path) :
    e.accepts d ordinal (p.within (outer ++ [innermost])) =
      anyAccepted (fun v => e.accepts ⟨v, some innermost.path⟩ ordinal p)
        (d.objectsAt innermost.path) := by
  induction outer generalizing d with
  | nil => exact accepts_nested (h innermost List.mem_cons_self)
  | cons s rest ih =>
    rw [List.cons_append, List.map_cons, List.pairwise_cons] at hchain
    have hs := h s List.mem_cons_self
    obtain ⟨r, hr⟩ := FieldPath.isAncestorOf_iff.mp (hchain.1 innermost.path (by simp))
    -- The other scopes lie inside the first one, so they lead into each of its instances.
    have hinside : ∀ v, ∀ t ∈ rest ++ [innermost],
        DocumentPart.Encloses ⟨v, some s.path⟩ t.path := by
      intro v t ht base hbase
      cases hbase
      obtain ⟨q, hq⟩ := FieldPath.isAncestorOf_iff.mp (hchain.1 t.path (List.mem_map_of_mem ht))
      rw [hq]
      exact FieldPath.startsWith_join s.path q
    have hcons : p.within (s :: rest ++ [innermost]) =
        .nested s.path (p.within (rest ++ [innermost])) := rfl
    rw [hcons, accepts_nested hs, hr, DocumentPart.objectsAt_join hs, anyAccepted_flatMap, ← hr]
    exact anyAccepted_congr fun v _ => ih hchain.2 (hinside v)

end Evaluation
end NestedSearch
