import Mathlib.Data.List.Nodup
import NestedSearch.Corpus.Search
import NestedSearch.Proofs.Outcome
import NestedSearch.Proofs.Scope

/-!
# The hits of a search

A search that succeeds has evaluated the query on every document of every index, and its hits are
those it accepts. What is left for proofs about searches is `Corpus.verdict`, the evaluation of one
document.
-/

namespace NestedSearch

section FilterAccepted

variable {α : Type} {test : α → Except QueryError Bool} {as found : List α}

/-- It ends well exactly if every test does, and then with the accepted elements. -/
theorem filterAccepted_eq_ok_iff :
    filterAccepted test as = .ok found ↔
      (∀ a ∈ as, ∃ accepted, test a = .ok accepted) ∧
        found = as.filter fun a => (test a).toOption = some true := by
  induction as generalizing found with
  | nil => simp [filterAccepted, eq_comm]
  | cons b rest ih =>
    rw [filterAccepted, List.forall_mem_cons, List.filter_cons, bind_eq_ok_iff]
    cases hb : test b with
    | error e => simp
    | ok accepted =>
      constructor
      · rintro ⟨accepted', haccepted, h⟩
        cases haccepted
        obtain ⟨others, hothers, h⟩ := bind_eq_ok_iff.mp h
        obtain ⟨hall, rfl⟩ := ih.mp hothers
        cases h
        exact ⟨⟨⟨accepted, rfl⟩, hall⟩, by cases accepted <;> rfl⟩
      · rintro ⟨⟨-, hall⟩, rfl⟩
        refine ⟨accepted, rfl, bind_eq_ok_iff.mpr ⟨_, ih.mpr ⟨hall, rfl⟩, ?_⟩⟩
        cases accepted <;> rfl

theorem exists_of_filterAccepted (h : filterAccepted test as = .ok found) {a : α} (ha : a ∈ as) :
    ∃ accepted, test a = .ok accepted :=
  (filterAccepted_eq_ok_iff.mp h).1 a ha

theorem mem_iff_of_filterAccepted (h : filterAccepted test as = .ok found) {a : α} :
    a ∈ found ↔ a ∈ as ∧ test a = .ok true := by
  rw [(filterAccepted_eq_ok_iff.mp h).2, List.mem_filter, decide_eq_true_eq]
  cases test a <;> simp [Except.toOption]

theorem exists_of_filterAccepted_error {err : QueryError}
    (h : filterAccepted test as = .error err) : ∃ a ∈ as, test a = .error err := by
  induction as with
  | nil => cases h
  | cons b rest ih =>
    rw [filterAccepted] at h
    cases hfirst : test b with
    | error e =>
      rw [hfirst] at h
      cases h
      exact ⟨b, List.mem_cons_self, hfirst⟩
    | ok accepted =>
      rw [hfirst] at h
      cases hrest : filterAccepted test rest with
      | error e =>
        rw [hrest] at h
        cases h
        obtain ⟨a, ha, herr⟩ := ih hrest
        exact ⟨a, List.mem_cons_of_mem b ha, herr⟩
      | ok others =>
        rw [hrest] at h
        cases h

end FilterAccepted

theorem NameMap.nodup_names {α : Type} (m : NameMap α) : (m.entries.map Prod.fst).Nodup := by
  refine List.pairwise_map.mpr (m.sorted.imp ?_)
  intro x y hlt heq
  exact String.lt_irrefl _ (heq ▸ hlt)

/-- A name stands for one value. -/
theorem NameMap.eq_of_mem {α : Type} {m : NameMap α} {name : String} {a b : α}
    (ha : (name, a) ∈ m.entries) (hb : (name, b) ∈ m.entries) : a = b :=
  congrArg Prod.snd (List.inj_on_of_nodup_map m.nodup_names ha hb rfl)

namespace Corpus

/-- The documents of a scope, in the order in which they are searched. -/
def hitsIn (c : Corpus) (scope : SearchScope) : List Hit :=
  (scope.indexes.flatMap c.named).map fun x => x.2.1

/-- What a search says about a document of an index. -/
def verdict (c : Corpus) (scope : SearchScope) (p : Predicate) (i : TargetIndex)
    (entry : String × Document) : Except QueryError Bool :=
  Evaluation.accepts
    ⟨i.schema.toDefinition, ⟨i.name, entry.1⟩, p.leaves.map (c.neighbours scope)⟩
    ⟨entry.2, none⟩ 0 p

variable {c : Corpus} {scope : SearchScope} {q : CompiledQuery} {hits : List Hit}

/-- The hits of a placed predicate in a scope. -/
def hitsOf (c : Corpus) (scope : SearchScope) (p : Predicate) : Except QueryError (List Hit) :=
  (filterAccepted (accepts (p.leaves.map (c.neighbours scope)) p)
    (scope.indexes.flatMap c.named)).map fun found => found.map fun f => f.2.1

/-- In the scope that it was compiled for, a query has the hits of its predicate. -/
theorem search_eq_hitsOf (h : q.ensureScope scope = .ok ()) :
    c.search scope q = c.hitsOf scope q.predicate := by
  unfold search
  rw [h]
  rfl

theorem search_ok (h : c.search scope q = .ok hits) :
    ∃ found, filterAccepted (accepts (q.predicate.leaves.map (c.neighbours scope)) q.predicate)
        (scope.indexes.flatMap c.named) = .ok found ∧ hits = found.map fun f => f.2.1 := by
  obtain ⟨⟨⟩, -, h⟩ := bind_eq_ok_iff.mp h
  obtain ⟨found, hfound, h⟩ := bind_eq_ok_iff.mp h
  cases h
  exact ⟨found, hfound, rfl⟩

theorem mem_named_iff {x : TargetIndex × Hit × Document} :
    x ∈ scope.indexes.flatMap c.named ↔
      ∃ i ∈ scope.indexes, ∃ entry ∈ (c.documents i.name).entries,
        x = (i, ⟨i.name, entry.1⟩, entry.2) := by
  rw [List.mem_flatMap]
  refine exists_congr fun i => and_congr_right fun _ => ?_
  unfold named
  rw [List.mem_map]
  refine exists_congr fun entry => and_congr_right fun _ => ?_
  exact eq_comm

theorem mem_hitsIn_iff {hit : Hit} :
    hit ∈ c.hitsIn scope ↔ ∃ i ∈ scope.indexes, ∃ entry ∈ (c.documents i.name).entries,
      hit = ⟨i.name, entry.1⟩ := by
  unfold hitsIn
  rw [List.mem_map]
  constructor
  · rintro ⟨x, hx, rfl⟩
    obtain ⟨i, hi, entry, hentry, rfl⟩ := mem_named_iff.mp hx
    exact ⟨i, hi, entry, hentry, rfl⟩
  · rintro ⟨i, hi, entry, hentry, rfl⟩
    exact ⟨_, mem_named_iff.mpr ⟨i, hi, entry, hentry, rfl⟩, rfl⟩

theorem mem_hitsIn_single_iff {i : TargetIndex} {hit : Hit} :
    hit ∈ c.hitsIn (.single i) ↔ ∃ entry ∈ (c.documents i.name).entries,
      hit = ⟨i.name, entry.1⟩ := by
  rw [mem_hitsIn_iff]
  constructor
  · rintro ⟨j, hj, h⟩
    cases List.mem_singleton.mp hj
    exact h
  · intro h
    exact ⟨i, List.mem_cons_self, h⟩

/-- Where there is a verdict on every document, the search succeeds, and the hits are the documents
    that are kept. -/
theorem search_eq_ok_of_verdicts (hscope : q.ensureScope scope = .ok ()) {keep : Hit → Bool}
    (h : ∀ i ∈ scope.indexes, ∀ entry ∈ (c.documents i.name).entries,
      c.verdict scope q.predicate i entry = .ok (keep ⟨i.name, entry.1⟩)) :
    c.search scope q = .ok ((c.hitsIn scope).filter keep) := by
  have htests : ∀ x ∈ scope.indexes.flatMap c.named,
      accepts (q.predicate.leaves.map (c.neighbours scope)) q.predicate x = .ok (keep x.2.1) := by
    intro x hx
    obtain ⟨i, hi, entry, hentry, rfl⟩ := mem_named_iff.mp hx
    exact h i hi entry hentry
  have hfound := filterAccepted_eq_ok_iff.mpr ⟨fun x hx => ⟨_, htests x hx⟩, rfl⟩
  rw [search_eq_hitsOf hscope, hitsOf, hfound, hitsIn, List.filter_map]
  have hsame : (scope.indexes.flatMap c.named).filter (fun x =>
        (accepts (q.predicate.leaves.map (c.neighbours scope)) q.predicate x).toOption = some true)
      = (scope.indexes.flatMap c.named).filter (keep ∘ fun x => x.2.1) :=
    List.filter_congr fun x hx => by simp [htests x hx, Except.toOption]
  rw [hsame]
  rfl

/-- A search that succeeds had a verdict on every document. -/
theorem exists_verdict_of_search (h : c.search scope q = .ok hits) {i : TargetIndex}
    (hi : i ∈ scope.indexes) {entry : String × Document}
    (hentry : entry ∈ (c.documents i.name).entries) :
    ∃ accepted, c.verdict scope q.predicate i entry = .ok accepted := by
  obtain ⟨found, hfound, -⟩ := search_ok h
  exact exists_of_filterAccepted hfound (mem_named_iff.mpr ⟨i, hi, entry, hentry, rfl⟩)

/-- A search whose indexes are the right ones can only fail at a document. -/
theorem exists_verdict_of_search_error {err : QueryError} (hscope : q.ensureScope scope = .ok ())
    (h : c.search scope q = .error err) :
    ∃ i ∈ scope.indexes, ∃ entry ∈ (c.documents i.name).entries,
      c.verdict scope q.predicate i entry = .error err := by
  rw [search_eq_hitsOf hscope] at h
  unfold hitsOf at h
  cases hfound : filterAccepted (accepts (q.predicate.leaves.map (c.neighbours scope)) q.predicate)
      (scope.indexes.flatMap c.named) with
  | ok found =>
    rw [hfound] at h
    cases h
  | error e =>
    rw [hfound] at h
    cases h
    obtain ⟨x, hx, herr⟩ := exists_of_filterAccepted_error hfound
    obtain ⟨i, hi, entry, hentry, rfl⟩ := mem_named_iff.mp hx
    exact ⟨i, hi, entry, hentry, herr⟩

/-- **The hits in an index are its documents that the query accepts.** -/
theorem mem_iff_of_search (h : c.search scope q = .ok hits) {i : TargetIndex}
    (hi : i ∈ scope.indexes) {id : String} :
    ⟨i.name, id⟩ ∈ hits ↔ ∃ d, (id, d) ∈ (c.documents i.name).entries ∧
      c.verdict scope q.predicate i (id, d) = .ok true := by
  obtain ⟨found, hfound, rfl⟩ := search_ok h
  rw [List.mem_map]
  constructor
  · rintro ⟨x, hx, hhit⟩
    obtain ⟨hmem, htest⟩ := (mem_iff_of_filterAccepted hfound).mp hx
    obtain ⟨j, hj, entry, hentry, rfl⟩ := mem_named_iff.mp hmem
    -- Names of indexes are distinct, so the hit was found in this index.
    obtain ⟨hname, rfl⟩ := Hit.mk.inj hhit
    cases SearchScope.eq_of_name_eq hj hi hname
    exact ⟨entry.2, hentry, htest⟩
  · rintro ⟨d, hentry, htest⟩
    exact ⟨(i, ⟨i.name, id⟩, d), (mem_iff_of_filterAccepted hfound).mpr
      ⟨mem_named_iff.mpr ⟨i, hi, (id, d), hentry, rfl⟩, htest⟩, rfl⟩

/-- The verdict on a document says whether it is a hit. -/
theorem verdict_of_search (h : c.search scope q = .ok hits) {i : TargetIndex}
    (hi : i ∈ scope.indexes) {entry : String × Document}
    (hentry : entry ∈ (c.documents i.name).entries) :
    c.verdict scope q.predicate i entry = .ok (decide (⟨i.name, entry.1⟩ ∈ hits)) := by
  obtain ⟨accepted, haccepted⟩ := exists_verdict_of_search h hi hentry
  have hhit : ⟨i.name, entry.1⟩ ∈ hits ↔ accepted = true := by
    rw [mem_iff_of_search h hi]
    constructor
    · rintro ⟨d, hd, hverdict⟩
      have hsame : (entry.1, d) = entry := by rw [NameMap.eq_of_mem hd hentry]
      rw [hsame, haccepted] at hverdict
      exact Except.ok.inj hverdict
    · rintro rfl
      exact ⟨entry.2, hentry, haccepted⟩
  rw [haccepted]
  cases accepted <;> simp [hhit]

/-- Hits come in the order of the documents. -/
theorem eq_filter_of_search (h : c.search scope q = .ok hits) :
    hits = (c.hitsIn scope).filter (· ∈ hits) := by
  have hscope : q.ensureScope scope = .ok () := by
    obtain ⟨⟨⟩, hscope, -⟩ := bind_eq_ok_iff.mp h
    exact hscope
  refine Except.ok.inj (h.symm.trans (search_eq_ok_of_verdicts hscope ?_))
  exact fun i hi entry hentry => verdict_of_search h hi hentry

/-- Only documents that there are can be hits. -/
theorem mem_hitsIn_of_search (h : c.search scope q = .ok hits) {hit : Hit} (hhit : hit ∈ hits) :
    hit ∈ c.hitsIn scope := by
  rw [eq_filter_of_search h] at hhit
  exact (List.mem_filter.mp hhit).1

/-- Two searches through the same documents that agree on each of them have the same hits. -/
theorem hits_eq_of_search {c' : Corpus} {scope' : SearchScope} {q' : CompiledQuery}
    {hits' : List Hit} (h : c.search scope q = .ok hits) (h' : c'.search scope' q' = .ok hits')
    (hin : c'.hitsIn scope' = c.hitsIn scope)
    (hagree : ∀ hit ∈ c.hitsIn scope, hit ∈ hits ↔ hit ∈ hits') : hits = hits' := by
  rw [eq_filter_of_search h, eq_filter_of_search h', hin]
  exact List.filter_congr fun hit hhit => decide_eq_decide.mpr (hagree hit hhit)

end Corpus
end NestedSearch
