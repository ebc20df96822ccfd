import NestedSearch.Proofs.Compile
import NestedSearch.Proofs.Corpus.Evaluation
import NestedSearch.Proofs.Corpus.Search
import NestedSearch.Proofs.Placement.Containment
import NestedSearch.Proofs.Placement.Scoping

/-!
# What can go wrong in an evaluation

A predicate that is contained in a part of a document can be evaluated there: every path leads
somewhere, if only to nothing. The one thing left that can go wrong is a regular expression that is
none once it has to span a whole term (`accepts_error`).

Placed predicates are contained, whatever the schemas of the indexes that are searched. So a
compiled query never leaves a scope, and without patterns its search always succeeds
(`search_contained`).
-/

namespace NestedSearch

/-- The leaf asks for a regular expression that is none once it has to span a whole term. -/
def Leaf.FailsToWrap (l : Leaf) : Prop :=
  ∃ pattern, l.kind = .regexp pattern ∧ Regex.parseWhole? pattern.toList = none

namespace Evaluation

variable {e : Evaluation} {d : DocumentPart} {fields : List FieldPath}

/-! ## Leaves -/

theorem exists_anyField (h : ∀ f ∈ fields, d.Encloses f) (test : Node → List Document → Bool) :
    ∃ accepted, e.anyField d fields test = .ok accepted := by
  cases hany : e.anyField d fields test with
  | ok accepted => exact ⟨accepted, rfl⟩
  | error err =>
    obtain ⟨f, hf, herr⟩ := exists_of_anyAccepted_error hany
    rw [d.values_eq (h f hf)] at herr
    split at herr <;> cases herr

theorem exists_targets (h : ∀ f ∈ fields, d.Encloses f) (analysis : AnalysisOverride) :
    ∃ targets, e.targets d analysis fields = .ok targets := by
  induction fields with
  | nil => exact ⟨[], rfl⟩
  | cons f rest ih =>
    obtain ⟨targets, htargets⟩ := ih fun g hg => h g (List.mem_cons_of_mem f hg)
    rw [Evaluation.targets, htargets, d.values_eq (h f List.mem_cons_self)]
    split
    · exact ⟨targets, rfl⟩
    · exact ⟨_, rfl⟩

/-- Where its fields can be looked at, a leaf only fails for a pattern. -/
theorem matchesLeaf_error {l : Leaf} (h : ∀ f ∈ l.fields, d.Encloses f) {ordinal : Nat}
    {err : QueryError} (herr : e.matchesLeaf d ordinal l = .error err) :
    err = .invalidPredicate .unwrappablePattern ∧ l.FailsToWrap := by
  obtain ⟨fields, kind⟩ := l
  have hany := exists_anyField (e := e) h
  cases kind with
  | matchAll | matchNone | ids documents => cases herr
  | simpleQueryString query operator analysis =>
    obtain ⟨targets, htargets⟩ := exists_targets (e := e) h analysis
    unfold matchesLeaf at herr
    simp only at herr htargets
    rw [htargets] at herr
    cases herr
  | regexp pattern =>
    unfold matchesLeaf at herr
    simp only at herr
    cases hparse : Regex.parseWhole? pattern.toList with
    | none =>
      rw [hparse] at herr
      cases herr
      exact ⟨rfl, pattern, rfl, hparse⟩
    | some r =>
      rw [hparse] at herr
      obtain ⟨accepted, haccepted⟩ := hany _
      cases haccepted.symm.trans herr
  | knn vector k =>
    unfold matchesLeaf at herr
    simp only at herr
    split at herr
    · obtain ⟨accepted, haccepted⟩ := hany _
      cases haccepted.symm.trans herr
    · cases herr
  | _ =>
    -- All other kinds test the values of their fields one way or the other.
    obtain ⟨accepted, haccepted⟩ := hany _
    cases haccepted.symm.trans herr

/-! ## Trees -/

/-- Clauses fail at one of them. -/
theorem acceptsClauses_cons_error {operator : BoolOperator} {ordinal : Nat} {p : Predicate}
    {ps : List Predicate} {err : QueryError}
    (h : e.acceptsClauses d operator ordinal (p :: ps) = .error err) :
    e.accepts d ordinal p = .error err ∨
      e.acceptsClauses d operator (ordinal + p.leafCount) ps = .error err := by
  rw [acceptsClauses] at h
  cases hfirst : e.accepts d ordinal p with
  | error e' =>
    rw [hfirst] at h
    cases h
    exact Or.inl rfl
  | ok accepted =>
    rw [hfirst] at h
    simp only [bind, Except.bind] at h
    split at h
    · cases h
    · exact Or.inr h

/-- **A predicate that keeps to a part of a document can be evaluated there**, but for patterns. -/
theorem accepts_error {base : Option FieldPath} {p : Predicate} (h : p.Contained base) :
    ∀ {value : Document} {ordinal : Nat} {err : QueryError},
      e.accepts ⟨value, base⟩ ordinal p = .error err →
        err = .invalidPredicate .unwrappablePattern ∧ ∃ l ∈ p.leaves, l.FailsToWrap := by
  induction h with
  | @leaf base l h =>
    intro value ordinal err herr
    obtain ⟨hfault, hwrap⟩ := matchesLeaf_error (d := ⟨value, base⟩) h herr
    exact ⟨hfault, l, List.mem_singleton_self l, hwrap⟩
  | @bool base operator clauses h ih =>
    intro value ordinal err herr
    rw [accepts] at herr
    rw [Predicate.leaves]
    clear h
    induction clauses generalizing ordinal with
    | nil => cases herr
    | cons p ps ihps =>
      rw [Predicate.leavesOf]
      rcases acceptsClauses_cons_error herr with herr | herr
      · obtain ⟨hfault, l, hl, hwrap⟩ := ih p List.mem_cons_self herr
        exact ⟨hfault, l, List.mem_append_left _ hl, hwrap⟩
      · obtain ⟨hfault, l, hl, hwrap⟩ := ihps (fun q hq => ih q (List.mem_cons_of_mem p hq)) herr
        exact ⟨hfault, l, List.mem_append_right _ hl, hwrap⟩
  | @not base inner h ih =>
    intro value ordinal err herr
    rw [accepts] at herr
    cases hinner : e.accepts ⟨value, base⟩ ordinal inner with
    | error e' =>
      rw [hinner] at herr
      cases herr
      exact ih hinner
    | ok accepted =>
      rw [hinner] at herr
      cases herr
  | @nested base path inner hpath h ih =>
    intro value ordinal err herr
    have hencloses : DocumentPart.Encloses ⟨value, base⟩ path := hpath
    rw [accepts_nested hencloses] at herr
    obtain ⟨v, -, herr⟩ := exists_of_anyAccepted_error herr
    exact ih herr
  | boosted h ih | constantScore h ih =>
    intro value ordinal err herr
    rw [accepts] at herr
    exact ih herr

end Evaluation

/-! ## Searches -/

/-- Whether what the leaf looks for is given as a pattern. -/
def PredicateKind.isPattern : PredicateKind → Bool
  | .wildcard _ | .regexp _ => true
  | _ => false

/-- A search only fails for a pattern that is no expression once it has to span a whole term. -/
theorem search_error {scope other : SearchScope} {config : CompilerConfig} {p : Predicate}
    {q : CompiledQuery} {c : Corpus} {err : QueryError} (hcompile : compile scope config p = .ok q)
    (hscope : q.ensureScope other = .ok ()) (h : c.search other q = .error err) :
    err = .invalidPredicate .unwrappablePattern ∧ ∃ l ∈ q.predicate.leaves, l.FailsToWrap := by
  obtain ⟨r, hplace, hpredicate, -⟩ := compile_ok hcompile
  obtain ⟨i, -, entry, -, herr⟩ := Corpus.exists_verdict_of_search_error hscope h
  refine Evaluation.accepts_error ?_ herr
  rw [hpredicate]
  exact contained_of_place hplace

/-- The search for a query without patterns succeeds. -/
theorem exists_hits {scope other : SearchScope} {config : CompilerConfig} {p : Predicate}
    {q : CompiledQuery} {c : Corpus} (hcompile : compile scope config p = .ok q)
    (hscope : q.ensureScope other = .ok ())
    (hpatterns : ∀ l ∈ q.predicate.leaves, l.kind.isPattern = false) :
    ∃ hits, c.search other q = .ok hits := by
  cases hsearch : c.search other q with
  | ok hits => exact ⟨hits, rfl⟩
  | error err =>
    obtain ⟨-, l, hl, pattern, hkind, -⟩ := search_error hcompile hscope hsearch
    have hno := hpatterns l hl
    rw [hkind] at hno
    cases hno

/-- **A compiled query never leaves a scope.** Whatever the schemas are of the indexes that are
    searched, every path in the query leads into the scope around it, so that no evaluation finds a
    path out of place or a name that is not expanded; and a query without patterns has hits. -/
theorem search_contained {scope other : SearchScope} {config : CompilerConfig} {p : Predicate}
    {q : CompiledQuery} (hcompile : compile scope config p = .ok q)
    (hnames : ∀ name, name ∈ other.indexNames ↔ name ∈ scope.indexNames) (c : Corpus) :
    q.predicate.Contained none ∧
      (∀ fault, c.search other q ≠ .error (.unsupportedEvaluation fault)) ∧
      ((∀ l ∈ q.predicate.leaves, l.kind.isPattern = false) →
        ∃ hits, c.search other q = .ok hits) := by
  obtain ⟨r, hplace, hpredicate, -, hindexes⟩ := compile_ok hcompile
  have hscope : q.ensureScope other = .ok () := by
    unfold CompiledQuery.ensureScope
    rw [if_pos (by rw [hindexes, SearchScope.indexNames_eq_of_mem_iff hnames])]
  refine ⟨hpredicate ▸ contained_of_place hplace, ?_, exists_hits hcompile hscope⟩
  intro fault h
  cases (search_error hcompile hscope h).1

namespace Sample

/-- A shop that knows its orders by their texts only. -/
def textShop : Schema where
  index := "shop"
  fields := [("orders", .value (.ofType .string))]
  valid := by decide +kernel

/-- The indexes of `Sample.scope`, in another order and with another schema. -/
def textScope : SearchScope where
  indexes := [.ofSchema blog, .ofSchema textShop]
  nonempty := by simp
  distinct := by decide +kernel

def orderCorpus : Corpus :=
  (Corpus.empty.insert ⟨"shop", "s1"⟩
    (.object [("orders", .list [.object [("lines", .object [("sku", .text "a")])], .text "b"])])).insert
      ⟨"blog", "b1"⟩ (.object [("title", .text "lean")])

end Sample

/-- The hypotheses of `search_contained` can be met where the schemas differ. -/
theorem search_contained_sample :
    ∃ q, compile Sample.scope .default Sample.query = .ok q ∧
      (∀ name, name ∈ Sample.textScope.indexNames ↔ name ∈ Sample.scope.indexNames) ∧
      q.predicate.Contained none ∧
      (∀ fault,
        Sample.orderCorpus.search Sample.textScope q ≠ .error (.unsupportedEvaluation fault)) ∧
      ∃ hits, Sample.orderCorpus.search Sample.textScope q = .ok hits := by
  have hpatterns : (compile Sample.scope .default Sample.query).toOption.map (fun q =>
      q.predicate.leaves.all fun l => !l.kind.isPattern) = some true := by decide +kernel
  have hnames : ∀ name, name ∈ Sample.textScope.indexNames ↔ name ∈ Sample.scope.indexNames := by
    intro name
    rw [SearchScope.mem_indexNames_iff, SearchScope.mem_indexNames_iff]
    simp [Sample.textScope, Sample.scope, TargetIndex.name, TargetIndex.ofSchema, Sample.shop,
      Sample.textShop, or_comm]
  cases hcompile : compile Sample.scope .default Sample.query with
  | error e =>
    rw [hcompile] at hpatterns
    cases hpatterns
  | ok q =>
    rw [hcompile] at hpatterns
    obtain ⟨hcontained, hfault, hhits⟩ := search_contained hcompile hnames Sample.orderCorpus
    refine ⟨q, rfl, hnames, hcontained, hfault, hhits ?_⟩
    simpa [Except.toOption] using hpatterns

end NestedSearch
