import NestedSearch.Proofs.Corpus.Document

/-!
# Vectors in documents

Where vectors are looked for, a list of numbers stands for itself. Which vectors a document has at the
end of a path is said here without the order in which the search comes upon them: those of the lists of
numbers that the path leads to, through any lists and objects on the way (`mem_vectors_iff`).

What is no list is seen at the end of the path by every leaf. A vector with at least one component
therefore always leaves a value to be seen (`values_ne_nil_of_holdsVector`).
-/

namespace NestedSearch

namespace Document

/-! ## Where a path leads -/

/-- A path leads from a document into an item of each list on the way, and into the member of each
    object that its next segment names. -/
inductive LeadsTo : Document → List Segment → Document → Prop
  | here (d : Document) : LeadsTo d [] d
  | item {items : List Document} {d v : Document} {path : List Segment} (mem : d ∈ items)
      (below : LeadsTo d path v) : LeadsTo (.list items) path v
  | member {members : List (String × Document)} {d v : Document} {s : Segment}
      {rest : List Segment} (mem : members.lookup s.name = some d) (below : LeadsTo d rest v) :
      LeadsTo (.object members) (s :: rest) v

/-- There is a list of numbers at the end of the path, with these as its components. -/
def HoldsVector (d : Document) (path : List Segment) (v : List Float32) : Prop :=
  ∃ items, d.LeadsTo path (.list items) ∧ vector? items = some v

/-! ## Lists of numbers -/

theorem vector?_cons_eq_some_iff {d : Document} {items : List Document} {v : List Float32} :
    vector? (d :: items) = some v ↔
      ∃ n w, d = .number n ∧ vector? items = some w ∧ v = Number.single n.toFloat :: w := by
  unfold vector?
  rw [List.mapM_cons, Option.bind_eq_bind, Option.bind_eq_some_iff]
  constructor
  · rintro ⟨x, hx, h⟩
    obtain ⟨w, hw, h⟩ := Option.bind_eq_some_iff.mp h
    cases h
    cases d with
    | number n =>
      cases hx
      exact ⟨n, w, rfl, hw, rfl⟩
    | _ => cases hx
  · rintro ⟨n, w, rfl, hw, rfl⟩
    exact ⟨_, rfl, Option.bind_eq_some_iff.mpr ⟨w, hw, rfl⟩⟩

/-- Only lists of numbers are vectors. -/
theorem exists_number_of_vector? {items : List Document} {v : List Float32} {d : Document}
    (h : vector? items = some v) (hd : d ∈ items) : ∃ n, d = .number n := by
  induction items generalizing v with
  | nil => cases hd
  | cons first items ih =>
    obtain ⟨n, w, rfl, hw, -⟩ := vector?_cons_eq_some_iff.mp h
    rcases List.mem_cons.mp hd with rfl | hd
    · exact ⟨n, rfl⟩
    · exact ih hw hd

theorem leadsTo_list_nil_iff {items : List Document} {v : Document} :
    LeadsTo (.list items) [] v ↔ v = .list items ∨ ∃ d ∈ items, LeadsTo d [] v := by
  constructor
  · intro h
    cases h with
    | here => exact .inl rfl
    | item mem below => exact .inr ⟨_, mem, below⟩
  · rintro (rfl | ⟨d, hd, h⟩)
    · exact .here _
    · exact .item hd h

mutual

theorem mem_numberLists_iff : ∀ (d : Document) {v : List Float32},
    v ∈ d.numberLists ↔ d.HoldsVector [] v
  | .null, v | .bool _, v | .number _, v | .text _, v | .object _, v => by
    refine iff_of_false List.not_mem_nil ?_
    rintro ⟨items, hleads, -⟩
    cases hleads
  | .list items, v => by
    have hitems := mem_numberListsOf_iff items (v := v)
    have hhere : (Document.list items).HoldsVector [] v ↔
        vector? items = some v ∨ ∃ d ∈ items, d.HoldsVector [] v := by
      unfold HoldsVector
      simp only [leadsTo_list_nil_iff]
      constructor
      · rintro ⟨inner, heq | ⟨d, hd, hleads⟩, hv⟩
        · cases heq
          exact .inl hv
        · exact .inr ⟨d, hd, inner, hleads, hv⟩
      · rintro (hv | ⟨d, hd, inner, hleads, hv⟩)
        · exact ⟨items, .inl rfl, hv⟩
        · exact ⟨inner, .inr ⟨d, hd, hleads⟩, hv⟩
    rw [hhere, numberLists]
    cases hvector : vector? items with
    | none => simp [hitems]
    | some w =>
      -- The items are numbers, so no vector is to be found in one of them.
      have hnone : ¬∃ d ∈ items, d.HoldsVector [] v := by
        rintro ⟨d, hd, inner, hleads, -⟩
        obtain ⟨n, rfl⟩ := exists_number_of_vector? hvector hd
        cases hleads
      simp [hnone, eq_comm]

theorem mem_numberListsOf_iff : ∀ (ds : List Document) {v : List Float32},
    v ∈ numberListsOf ds ↔ ∃ d ∈ ds, d.HoldsVector [] v
  | [], v => by simp [numberListsOf]
  | d :: ds, v => by
    rw [numberListsOf, List.mem_append, mem_numberLists_iff d, mem_numberListsOf_iff ds]
    simp

end

/-! ## Vectors and values -/

mutual

/-- A path leads from a list wherever it leads from one of its instances. -/
theorem leadsTo_of_mem_instances : ∀ (d : Document) {u v : Document} {path : List Segment},
    u ∈ d.instances → u.LeadsTo path v → d.LeadsTo path v
  | .null, u, _, _, hu, h | .bool _, u, _, _, hu, h | .number _, u, _, _, hu, h
  | .text _, u, _, _, hu, h | .object _, u, _, _, hu, h => by
    cases List.mem_singleton.mp hu
    exact h
  | .list items, _, _, _, hu, h => by
    obtain ⟨d, hd, hleads⟩ := exists_leadsTo_of_mem_instancesOf items hu h
    exact .item hd hleads

theorem exists_leadsTo_of_mem_instancesOf : ∀ (ds : List Document) {u v : Document}
    {path : List Segment}, u ∈ instancesOf ds → u.LeadsTo path v → ∃ d ∈ ds, d.LeadsTo path v
  | [], _, _, _, hu, _ => by cases hu
  | d :: ds, _, _, _, hu, h => by
    rcases List.mem_append.mp hu with hu | hu
    · exact ⟨d, List.mem_cons_self, leadsTo_of_mem_instances d hu h⟩
    · obtain ⟨d', hd', hleads⟩ := exists_leadsTo_of_mem_instancesOf ds hu h
      exact ⟨d', List.mem_cons_of_mem d hd', hleads⟩

end

theorem mem_instancesOf {ds : List Document} {d u : Document} (hd : d ∈ ds)
    (hu : u ∈ d.instances) : u ∈ instancesOf ds := by
  induction ds with
  | nil => cases hd
  | cons first ds ih =>
    rcases List.mem_cons.mp hd with rfl | hd
    · exact List.mem_append_left _ hu
    · exact List.mem_append_right _ (ih hd)

/-- A path that goes on begins at an instance with a member. -/
theorem leadsTo_cons_iff {d v : Document} {s : Segment} {rest : List Segment} :
    d.LeadsTo (s :: rest) v ↔
      ∃ u ∈ d.instances, ∃ child, u.get? s.name = some child ∧ child.LeadsTo rest v := by
  constructor
  · intro h
    generalize hpath : s :: rest = path at h
    induction h with
    | here => cases hpath
    | item hd _ ih =>
      obtain ⟨u, hu, hchild⟩ := ih hpath
      exact ⟨u, mem_instancesOf hd hu, hchild⟩
    | @member members d v _ _ hmember hbelow =>
      cases hpath
      exact ⟨.object members, List.mem_singleton_self _, d, hmember, hbelow⟩
  · rintro ⟨u, hu, child, hget, h⟩
    refine leadsTo_of_mem_instances d hu ?_
    cases u with
    | object members => exact .member hget h
    | _ => cases hget

/-- **The vectors at the end of a path** are the lists of numbers it leads to. -/
theorem mem_vectors_iff {d : Document} {path : List Segment} {v : List Float32} :
    v ∈ d.vectors path ↔ d.HoldsVector path v := by
  induction path generalizing d with
  | nil =>
    rw [vectors, atEnd, List.flatMap_singleton]
    exact mem_numberLists_iff d
  | cons s rest ih =>
    unfold HoldsVector at ih ⊢
    simp only [leadsTo_cons_iff]
    unfold vectors at ih ⊢
    rw [atEnd, List.flatMap_assoc, List.mem_flatMap]
    constructor
    · rintro ⟨u, hu, hv⟩
      cases hget : u.get? s.name with
      | none => simp [hget] at hv
      | some child =>
        rw [hget] at hv
        obtain ⟨items, hleads, hvector⟩ := ih.mp hv
        exact ⟨items, ⟨u, hu, child, hget, hleads⟩, hvector⟩
    · rintro ⟨items, ⟨u, hu, child, hget, hleads⟩, hvector⟩
      refine ⟨u, hu, ?_⟩
      rw [hget]
      exact ih.mpr ⟨items, hleads, hvector⟩

/-- Wherever a path leads, there are the values. -/
theorem mem_values_of_leadsTo {d v : Document} {path : List Segment} (h : d.LeadsTo path v)
    {u : Document} (hu : u ∈ v.instances) : u ∈ d.values path := by
  induction h with
  | here d => simpa [values, atEnd] using hu
  | @item items d v path hd _ ih =>
    have hvalue := ih hu
    rw [← flatMap_values_instances, List.mem_flatMap] at hvalue ⊢
    obtain ⟨x, hx, hvalue⟩ := hvalue
    exact ⟨x, mem_instancesOf hd hx, hvalue⟩
  | @member members d v s rest hmember _ ih =>
    exact mem_values_cons_iff.mpr
      ⟨.object members, List.mem_singleton_self _, d, hmember, ih hu⟩

/-- A vector with a component leaves a value to be seen. -/
theorem values_ne_nil_of_holdsVector {d : Document} {path : List Segment} {v : List Float32}
    (h : d.HoldsVector path v) (hv : v ≠ []) : d.values path ≠ [] := by
  obtain ⟨items, hleads, hvector⟩ := h
  cases items with
  | nil =>
    cases hvector
    exact absurd rfl hv
  | cons x items =>
    obtain ⟨n, w, rfl, -, -⟩ := vector?_cons_eq_some_iff.mp hvector
    have hx : Document.number n ∈ (Document.list (.number n :: items)).instances :=
      mem_instancesOf (d := .number n) List.mem_cons_self (List.mem_singleton_self _)
    exact List.ne_nil_of_mem (mem_values_of_leadsTo hleads hx)

end Document

end NestedSearch
