import NestedSearch.Proofs.Corpus.Containment
import NestedSearch.Proofs.Corpus.Neighbours
import NestedSearch.Proofs.Restriction.Compile

/-!
# Searching a part of the indexes

The verdict on a document depends on the schema of its own index and on the neighbours that the
leaves of the query select. Where these are the same, the hits in a part of a scope are those of the
whole scope that lie there (`mem_search_part_iff`).

So the order of the indexes plays no part (`compile_perm`), and leaving indexes out takes away their
hits and nothing else (`compile_part`).
-/

namespace NestedSearch

namespace Corpus

variable {c : Corpus} {s s' : SearchScope} {q q' : CompiledQuery} {hits hits' : List Hit}

theorem index_of_search (h : c.search s q = .ok hits) {hit : Hit} (hhit : hit ∈ hits) :
    ∃ i ∈ s.indexes, i.name = hit.index := by
  obtain ⟨found, hfound, rfl⟩ := search_ok h
  obtain ⟨x, hx, rfl⟩ := List.mem_map.mp hhit
  obtain ⟨i, hi, entry, -, rfl⟩ := mem_named_iff.mp ((mem_iff_of_filterAccepted hfound).mp hx).1
  exact ⟨i, hi, rfl⟩

/-- The other indexes of a scope only matter for the neighbours that leaves select. -/
theorem verdict_congr {p : Predicate} (h : ∀ l ∈ p.leaves, c.neighbours s' l = c.neighbours s l)
    (i : TargetIndex) (entry : String × Document) :
    c.verdict s' p i entry = c.verdict s p i entry := by
  unfold verdict
  rw [List.map_congr_left h]

/-- **The hits in a part of a scope are those of the whole scope that lie there.** -/
theorem mem_search_part_iff (hpart : s.indexes ⊆ s'.indexes)
    (hpredicate : q'.predicate = q.predicate)
    (hneighbours : ∀ l ∈ q.predicate.leaves, c.neighbours s' l = c.neighbours s l)
    (h' : c.search s' q' = .ok hits') (h : c.search s q = .ok hits) {hit : Hit} :
    hit ∈ hits ↔ hit ∈ hits' ∧ hit.index ∈ s.indexNames := by
  have hsame {i : TargetIndex} (hi : i ∈ s.indexes) (id : String) :
      ⟨i.name, id⟩ ∈ hits ↔ ⟨i.name, id⟩ ∈ hits' := by
    rw [mem_iff_of_search h hi, mem_iff_of_search h' (hpart hi), hpredicate]
    simp only [verdict_congr hneighbours]
  obtain ⟨index, id⟩ := hit
  rw [SearchScope.mem_indexNames_iff]
  constructor
  · intro hhit
    obtain ⟨i, hi, rfl⟩ := index_of_search h hhit
    exact ⟨(hsame hi id).mp hhit, i, hi, rfl⟩
  · rintro ⟨hhit, i, hi, rfl⟩
    exact (hsame hi id).mpr hhit

end Corpus

/-- **The order of the indexes plays no part.** A query compiles for both orders or for none, and
    then for the same kind of reason; compiled, it is the same query, with the same hits. -/
theorem compile_perm {s₁ s₂ : SearchScope} (hperm : s₁.indexes.Perm s₂.indexes)
    (hkeys : s₁.KeysIdentify) (config : CompilerConfig) (p : Predicate) :
    (∃ q₁ q₂, compile s₁ config p = .ok q₁ ∧ compile s₂ config p = .ok q₂ ∧
        q₁.predicate = q₂.predicate ∧ q₁.leaves = q₂.leaves ∧ q₁.indexes = q₂.indexes ∧
        (q₁.diagnostics = [] ↔ q₂.diagnostics = []) ∧
        ∀ (c : Corpus) (hits₁ hits₂ : List Hit), c.search s₁ q₁ = .ok hits₁ →
          c.search s₂ q₂ = .ok hits₂ → ∀ hit, hit ∈ hits₁ ↔ hit ∈ hits₂) ∨
      ∃ e₁ e₂, compile s₁ config p = .error e₁ ∧ compile s₂ config p = .error e₂ ∧
        e₁.variant = e₂.variant := by
  have hcompiled := compile_restricted hperm.symm.subset hkeys config p
  generalize h₁ : compile s₁ config p = x₁ at hcompiled
  generalize h₂ : compile s₂ config p = x₂ at hcompiled
  cases hcompiled with
  | @both q₁ q₂ halike =>
    refine .inl ⟨q₁, q₂, rfl, rfl, halike.predicate_eq, halike.leaves_eq,
      halike.indexes_eq hperm.subset, halike.diagnostics_iff hperm.subset, ?_⟩
    intro c hits₁ hits₂ hsearch₁ hsearch₂ hit
    rw [Corpus.mem_search_part_iff hperm.symm.subset halike.predicate_eq
      (fun l _ => c.neighbours_eq_of_perm hperm l) hsearch₁ hsearch₂, iff_self_and]
    intro hhit
    obtain ⟨i, hi, hname⟩ := Corpus.index_of_search hsearch₁ hhit
    exact SearchScope.mem_indexNames_iff.mpr ⟨i, hperm.subset hi, hname⟩
  | @neither e₁ e₂ hvariant => exact .inr ⟨e₁, e₂, rfl, rfl, hvariant hperm.subset⟩
  | onlyPart hnot => exact absurd hperm.subset hnot
  | onlyWhole hnot => exact absurd hperm.subset hnot

namespace Sample

/-- A second shop, with the fields of the first. -/
def outlet : Schema where
  index := "outlet"
  fields := shop.fields
  valid := by decide +kernel

/-- A shop with the provider that shops share. -/
def shopIndex (schema : Schema) : TargetIndex :=
  ⟨schema, ⟨[⟨some ⟨orders, [lines, note]⟩, "labelled", labelled⟩]⟩⟩

def shops : SearchScope where
  indexes := [shopIndex shop, shopIndex outlet, .ofSchema blog]
  nonempty := by simp
  distinct := by decide +kernel

/-- The indexes of `Sample.shops` from the last to the first. -/
def shopsReversed : SearchScope where
  indexes := [.ofSchema blog, shopIndex outlet, shopIndex shop]
  nonempty := by simp
  distinct := by decide +kernel

/-- The indexes of `Sample.shops` without the first. -/
def outletScope : SearchScope where
  indexes := [shopIndex outlet, .ofSchema blog]
  nonempty := by simp
  distinct := by decide +kernel

/-- There is one provider. -/
theorem shops_keysIdentify : shops.KeysIdentify := by
  have honly : ∀ i ∈ shops.indexes, ∀ a ∈ i.named.registrations, a.provider = labelled := by
    simp [shops, shopIndex, TargetIndex.ofSchema, Registry.empty]
  intro i hi j hj a ha b hb _
  rw [honly i hi a ha, honly j hj b hb]

end Sample

/-- The hypotheses of `compile_perm` can be met where indexes share a provider, by a query that
    compiles and whose searches succeed. -/
theorem compile_perm_sample :
    Sample.shops.indexes.Perm Sample.shopsReversed.indexes ∧ Sample.shops.KeysIdentify ∧
      ∃ q₁ q₂ hits₁ hits₂, compile Sample.shops .default Sample.query = .ok q₁ ∧
        compile Sample.shopsReversed .default Sample.query = .ok q₂ ∧
        q₁.predicate = q₂.predicate ∧ Sample.orderCorpus.search Sample.shops q₁ = .ok hits₁ ∧
        Sample.orderCorpus.search Sample.shopsReversed q₂ = .ok hits₂ ∧
        ∀ hit, hit ∈ hits₁ ↔ hit ∈ hits₂ := by
  have hperm : Sample.shops.indexes.Perm Sample.shopsReversed.indexes :=
    List.reverse_perm Sample.shopsReversed.indexes
  have hpatterns : (compile Sample.shops .default Sample.query).toOption.map (fun q =>
      q.predicate.leaves.all fun l => !l.kind.isPattern) = some true := by decide +kernel
  refine ⟨hperm, Sample.shops_keysIdentify, ?_⟩
  obtain ⟨q₁, q₂, h₁, h₂, hpredicate, -, -, -, hhits⟩ | ⟨e, -, he, -⟩ :=
    compile_perm hperm Sample.shops_keysIdentify .default Sample.query
  · rw [h₁] at hpatterns
    have hno : ∀ l ∈ q₁.predicate.leaves, l.kind.isPattern = false := by
      simpa [Except.toOption] using hpatterns
    obtain ⟨hits₁, hsearch₁⟩ := exists_hits (c := Sample.orderCorpus) h₁ (ensureScope_of_compile h₁) hno
    obtain ⟨hits₂, hsearch₂⟩ :=
      exists_hits (c := Sample.orderCorpus) h₂ (ensureScope_of_compile h₂) (hpredicate ▸ hno)
    exact ⟨q₁, q₂, hits₁, hits₂, h₁, h₂, hpredicate, hsearch₁, hsearch₂,
      hhits Sample.orderCorpus hits₁ hits₂ hsearch₁ hsearch₂⟩
  · rw [he] at hpatterns
    cases hpatterns

/-- **Leaving indexes out takes away their hits and nothing else.** A query that compiles for a scope
    compiles to the same for a part of it, unless a field is not found there; and if it asks for no
    neighbours, its hits are those of the whole scope that lie in the part. -/
theorem compile_part {s s' : SearchScope} (hpart : s.indexes ⊆ s'.indexes)
    (hkeys : s'.KeysIdentify) {config : CompilerConfig} {p : Predicate} {q' : CompiledQuery}
    (h' : compile s' config p = .ok q') :
    (∃ index path missing,
        compile s config p = .error (.schema (.unknownField index path missing))) ∨
      ∃ q, compile s config p = .ok q ∧ q.predicate = q'.predicate ∧ q.leaves = q'.leaves ∧
        ((∀ l ∈ q.predicate.leaves, ∀ vector k, l.kind ≠ .knn vector k) →
          ∀ (c : Corpus) (hits hits' : List Hit), c.search s q = .ok hits →
            c.search s' q' = .ok hits' →
              ∀ hit, hit ∈ hits ↔ hit ∈ hits' ∧ hit.index ∈ s.indexNames) := by
  have hcompiled := compile_restricted hpart hkeys config p
  rw [h'] at hcompiled
  generalize h : compile s config p = x at hcompiled
  cases hcompiled with
  | onlyWhole hnot hunknown =>
    obtain ⟨index, path, missing, rfl⟩ := hunknown
    exact .inl ⟨index, path, missing, rfl⟩
  | @both _ q halike =>
    refine .inr ⟨q, rfl, halike.predicate_eq.symm, halike.leaves_eq.symm, ?_⟩
    intro hknn c hits hits' hsearch hsearch' hit
    refine Corpus.mem_search_part_iff hpart halike.predicate_eq (fun l hl => ?_) hsearch' hsearch
    rw [c.neighbours_eq_nil s' (hknn l hl), c.neighbours_eq_nil s (hknn l hl)]

/-- The hypotheses of `compile_part` can be met, by a query that compiles for the part as well and
    whose searches succeed. -/
theorem compile_part_sample :
    Sample.outletScope.indexes ⊆ Sample.shops.indexes ∧ Sample.shops.KeysIdentify ∧
      ∃ q q' hits hits', compile Sample.shops .default Sample.query = .ok q' ∧
        compile Sample.outletScope .default Sample.query = .ok q ∧
        q.predicate = q'.predicate ∧ Sample.orderCorpus.search Sample.outletScope q = .ok hits ∧
        Sample.orderCorpus.search Sample.shops q' = .ok hits' ∧
        ∀ hit, hit ∈ hits ↔ hit ∈ hits' ∧ hit.index ∈ Sample.outletScope.indexNames := by
  have hpart : Sample.outletScope.indexes ⊆ Sample.shops.indexes := List.subset_cons_self _ _
  have hleaves : (compile Sample.outletScope .default Sample.query).toOption.map (fun q =>
      q.predicate.leaves.all fun l => !l.kind.isPattern && l.kind.usage? ≠ some .knn) =
        some true := by decide +kernel
  have hshops : (compile Sample.shops .default Sample.query).toOption.isSome = true := by
    decide +kernel
  refine ⟨hpart, Sample.shops_keysIdentify, ?_⟩
  cases h' : compile Sample.shops .default Sample.query with
  | error e =>
    rw [h'] at hshops
    cases hshops
  | ok q' =>
    obtain ⟨index, path, missing, he⟩ | ⟨q, h, hpredicate, -, hhits⟩ :=
      compile_part hpart Sample.shops_keysIdentify h'
    · rw [he] at hleaves
      cases hleaves
    · rw [h] at hleaves
      have hall : ∀ l ∈ q.predicate.leaves,
          l.kind.isPattern = false ∧ l.kind.usage? ≠ some .knn := by
        simpa [Except.toOption] using hleaves
      have hno := fun l hl => (hall l hl).1
      have hknn : ∀ l ∈ q.predicate.leaves, ∀ vector k, l.kind ≠ .knn vector k := by
        intro l hl vector k hkind
        exact (hall l hl).2 (by rw [hkind]; rfl)
      obtain ⟨hits, hsearch⟩ :=
        exists_hits (c := Sample.orderCorpus) h (ensureScope_of_compile h) hno
      obtain ⟨hits', hsearch'⟩ :=
        exists_hits (c := Sample.orderCorpus) h' (ensureScope_of_compile h') (hpredicate ▸ hno)
      exact ⟨q, q', hits, hits', rfl, h, hpredicate, hsearch, hsearch',
        hhits hknn Sample.orderCorpus hits hits' hsearch hsearch'⟩

end NestedSearch
