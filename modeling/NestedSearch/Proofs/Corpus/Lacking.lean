import NestedSearch.Proofs.Compile
import NestedSearch.Proofs.Corpus.Evaluation
import NestedSearch.Proofs.Corpus.Search
import NestedSearch.Proofs.Placement.Scoping

/-!
# Indexes without the field

An index that has none of the fields of a leaf should contribute nothing to its hits. Every kind of
leaf passes over fields that the schema lacks, and then finds nothing, with one exception: a query
string in which all words are excluded asks that nothing be found, and so it is satisfied.

`lacking_contributes_iff` is the exact extent of this: the documents of the index are among the
hits exactly if the leaf is such a query string and one of them has an object in the scope of the
leaf, for a leaf in a nested scope.
-/

namespace NestedSearch

/-! ## Leaves -/

/-- Whether the predicate only says what must not be found. -/
def PredicateKind.onlyExcludes : PredicateKind → Bool
  | .simpleQueryString query _ _ =>
    !(queryWords query).isEmpty && (queryWords query).all fun w => w.demand = .excluded
  | _ => false

/-- Where nothing is found only exclusions are satisfied. -/
theorem selects_nothing (operator : BoolOperator) (words : List QueryWord) :
    selects operator words (fun _ => false) =
      (!words.isEmpty && words.all fun w => w.demand = .excluded) := by
  have hall : ∀ ws : List QueryWord, (ws.all fun _ => false) = ws.isEmpty := by
    intro ws
    cases ws <;> simp
  have hany : ∀ ws : List QueryWord, (ws.any fun _ => false) = false := by
    intro ws
    simp
  have hexcluded : (words.all fun w => w.demand = .excluded) =
      ((words.filter fun w => w.demand = .required).isEmpty &&
        (words.filter fun w => w.demand = .optional).isEmpty) := by
    rw [Bool.eq_iff_iff]
    simp only [List.all_eq_true, Bool.and_eq_true, List.isEmpty_iff, List.filter_eq_nil_iff,
      decide_eq_true_eq, ← forall_and]
    refine forall_congr' fun w => forall_congr' fun _ => ?_
    cases w.demand <;> simp
  unfold selects
  simp only [hall, hany, hexcluded]
  cases operator <;> cases (words.filter fun w => w.demand = .required).isEmpty <;> simp

namespace Evaluation

variable {e : Evaluation} {fields : List FieldPath}

theorem anyField_of_lacks (h : ∀ f ∈ fields, e.schema.node? f = none) (d : DocumentPart)
    (test : Node → List Document → Bool) : e.anyField d fields test = .ok false := by
  unfold anyField
  induction fields with
  | nil => rfl
  | cons f rest ih =>
    rw [anyAccepted, h f List.mem_cons_self]
    exact ih fun g hg => h g (List.mem_cons_of_mem f hg)

theorem targets_of_lacks (h : ∀ f ∈ fields, e.schema.node? f = none) (d : DocumentPart)
    (analysis : AnalysisOverride) : e.targets d analysis fields = .ok [] := by
  induction fields with
  | nil => rfl
  | cons f rest ih =>
    rw [targets, h f List.mem_cons_self]
    exact ih fun g hg => h g (List.mem_cons_of_mem f hg)

/-- **A leaf whose fields the schema lacks matches exactly if it only excludes.** -/
theorem matchesLeaf_of_lacks {l : Leaf} (husage : l.kind.usage?.isSome = true)
    (h : ∀ f ∈ l.fields, e.schema.node? f = none) (d : DocumentPart) (ordinal : Nat) :
    e.matchesLeaf d ordinal l = .ok true ↔ l.kind.onlyExcludes = true := by
  have hany := anyField_of_lacks h d
  obtain ⟨fields, kind⟩ := l
  cases kind with
  | matchAll => cases husage
  | matchNone => cases husage
  | ids documents => cases husage
  | simpleQueryString query operator analysis =>
    -- The only kind that is decided by what is not found.
    have htargets := targets_of_lacks h d analysis
    have hfound : isFound [] = fun _ => false := rfl
    unfold matchesLeaf
    simp only at htargets
    simp only [htargets, PredicateKind.onlyExcludes]
    show Except.ok (selects operator (queryWords query) (isFound [])) = .ok true ↔ _
    rw [hfound, selects_nothing, Except.ok.injEq]
  | regexp pattern =>
    unfold matchesLeaf anyTerm anyFieldValue
    simp only
    cases Regex.parseWhole? pattern.toList with
    -- An error is no match either.
    | none => simp [PredicateKind.onlyExcludes]
    | some r => simp [hany, PredicateKind.onlyExcludes]
  | knn vector k =>
    unfold matchesLeaf
    simp only [hany]
    split <;> simp [PredicateKind.onlyExcludes]
  | _ =>
    simp [matchesLeaf, anyTerm, anyPoint, anyValue, anyFieldValue, hany, PredicateKind.onlyExcludes]

end Evaluation

/-! ## Trees -/

namespace Predicate

mutual

/-- Whether the predicate cannot be met where its fields are lacking, as far as that can be told
    without looking under a negation. -/
def needsField : Predicate → Bool
  | .leaf l =>
    match l.kind with
    | .matchAll | .ids _ => false
    | kind => !kind.onlyExcludes
  | .bool .and clauses => anyNeedsField clauses
  | .bool .or clauses => allNeedField clauses
  | .not _ => false
  | .named .. => true
  | .nested _ inner | .boosted inner _ | .constantScore inner => inner.needsField

def anyNeedsField : List Predicate → Bool
  | [] => false
  | p :: ps => p.needsField || anyNeedsField ps

def allNeedField : List Predicate → Bool
  | [] => true
  | p :: ps => p.needsField && allNeedField ps

end

end Predicate

namespace Evaluation

variable {e : Evaluation}

theorem matchesLeaf_ne_of_needsField {l : Leaf} (hneeds : (Predicate.leaf l).needsField = true)
    (hlacks : ∀ f ∈ l.fields, e.schema.node? f = none) (d : DocumentPart) (ordinal : Nat) :
    e.matchesLeaf d ordinal l ≠ .ok true := by
  rw [Predicate.needsField] at hneeds
  by_cases husage : l.kind.usage?.isSome = true
  · rw [Ne, matchesLeaf_of_lacks husage hlacks d ordinal]
    intro honly
    split at hneeds
    · cases hneeds
    · cases hneeds
    · rw [honly] at hneeds
      cases hneeds
  · obtain ⟨fields, kind⟩ := l
    cases kind with
    | matchAll | ids documents => cases hneeds
    | matchNone =>
      intro h
      cases h
    | _ => exact absurd rfl husage

mutual

/-- **A predicate that needs a field is not met where all of its fields are lacking.** -/
theorem accepts_ne_of_needsField : ∀ (p : Predicate) {d : DocumentPart} {ordinal : Nat},
    p.needsField = true → (∀ l ∈ p.leaves, ∀ f ∈ l.fields, e.schema.node? f = none) →
      e.accepts d ordinal p ≠ .ok true
  | .leaf l, d, ordinal, hneeds, hlacks =>
    matchesLeaf_ne_of_needsField hneeds (hlacks l (List.mem_singleton_self l)) d ordinal
  | .bool .and clauses, d, ordinal, hneeds, hlacks =>
    acceptsAll_ne_of_needsField clauses hneeds hlacks
  | .bool .or clauses, d, ordinal, hneeds, hlacks =>
    acceptsAny_ne_of_needsField clauses hneeds hlacks
  | .not inner, d, ordinal, hneeds, hlacks => by cases hneeds
  | .named name params, d, ordinal, hneeds, hlacks => by
    intro h
    cases h
  | .nested path inner, d, ordinal, hneeds, hlacks => by
    intro h
    obtain ⟨values, -, h⟩ := bind_eq_ok_iff.mp h
    obtain ⟨v, -, hv⟩ := (eq_true_iff_of_anyAccepted h).mp rfl
    exact accepts_ne_of_needsField inner hneeds hlacks hv
  | .boosted inner boost, d, ordinal, hneeds, hlacks =>
    accepts_ne_of_needsField inner hneeds hlacks
  | .constantScore inner, d, ordinal, hneeds, hlacks =>
    accepts_ne_of_needsField inner hneeds hlacks

/-- A conjunction is not met if one of its clauses needs a field. -/
theorem acceptsAll_ne_of_needsField : ∀ (ps : List Predicate) {d : DocumentPart} {ordinal : Nat},
    Predicate.anyNeedsField ps = true →
      (∀ l ∈ Predicate.leavesOf ps, ∀ f ∈ l.fields, e.schema.node? f = none) →
      e.acceptsClauses d .and ordinal ps ≠ .ok true
  | [], d, ordinal, hneeds, hlacks => by cases hneeds
  | p :: ps, d, ordinal, hneeds, hlacks => by
    intro h
    rw [acceptsClauses] at h
    obtain ⟨accepted, haccepted, h⟩ := bind_eq_ok_iff.mp h
    cases accepted with
    | false => cases h
    | true =>
      rcases Bool.or_eq_true_iff.mp hneeds with hfirst | hrest
      · exact accepts_ne_of_needsField p hfirst
          (fun l hl => hlacks l (List.mem_append_left _ hl)) haccepted
      · exact acceptsAll_ne_of_needsField ps hrest
          (fun l hl => hlacks l (List.mem_append_right _ hl)) h

/-- A disjunction is not met if all of its clauses need a field. -/
theorem acceptsAny_ne_of_needsField : ∀ (ps : List Predicate) {d : DocumentPart} {ordinal : Nat},
    Predicate.allNeedField ps = true →
      (∀ l ∈ Predicate.leavesOf ps, ∀ f ∈ l.fields, e.schema.node? f = none) →
      e.acceptsClauses d .or ordinal ps ≠ .ok true
  | [], d, ordinal, hneeds, hlacks => by
    intro h
    cases h
  | p :: ps, d, ordinal, hneeds, hlacks => by
    intro h
    rw [acceptsClauses] at h
    obtain ⟨accepted, haccepted, h⟩ := bind_eq_ok_iff.mp h
    obtain ⟨hfirst, hrest⟩ := Bool.and_eq_true_iff.mp hneeds
    cases accepted with
    | true =>
      exact accepts_ne_of_needsField p hfirst
        (fun l hl => hlacks l (List.mem_append_left _ hl)) haccepted
    | false =>
      exact acceptsAny_ne_of_needsField ps hrest
        (fun l hl => hlacks l (List.mem_append_right _ hl)) h

end

end Evaluation

/-! ## Documents -/

/-- Whether a document has something that a leaf of this chain can be evaluated in. -/
def Document.opens (d : Document) (chain : NestingChain) : Bool :=
  match chain.innermost? with
  | none => true
  | some s => (d.values s.path.segments).any Document.isObject

/-- In its chain, too, a leaf whose fields the schema lacks matches exactly if it only excludes,
    provided that there is an object to evaluate it in. -/
theorem Evaluation.accepts_of_lacks {e : Evaluation} {l : Leaf} {chain : NestingChain}
    {d : Document} {ordinal : Nat} {accepted : Bool} (husage : l.kind.usage?.isSome = true)
    (h : ∀ f ∈ l.fields, e.schema.node? f = none)
    (hchain : chain.paths.Pairwise fun a b => a.isAncestorOf b = true)
    (haccepts : e.accepts ⟨d, none⟩ ordinal ((Predicate.leaf l).within chain.scopes) =
      .ok accepted) :
    accepted = true ↔ l.kind.onlyExcludes = true ∧ d.opens chain = true := by
  obtain ⟨scopes⟩ := chain
  have hleaf := matchesLeaf_of_lacks husage h
  rcases List.eq_nil_or_concat scopes with rfl | ⟨outer, innermost, rfl⟩
  · have hopens : d.opens ⟨[]⟩ = true := rfl
    rw [hopens, ← hleaf ⟨d, none⟩ ordinal]
    have hbare : e.matchesLeaf ⟨d, none⟩ ordinal l = .ok accepted := haccepts
    simp [hbare]
  · rw [List.concat_eq_append] at *
    have hopens : d.opens ⟨outer ++ [innermost]⟩ =
        (d.values innermost.path.segments).any Document.isObject := by
      simp [Document.opens, NestingChain.innermost?]
    rw [accepts_within hchain (by intro s _ base hbase; cases hbase)] at haccepts
    rw [eq_true_iff_of_anyAccepted haccepts, hopens, List.any_eq_true]
    constructor
    · rintro ⟨v, hv, hmatches⟩
      obtain ⟨hmem, hobject⟩ := List.mem_filter.mp hv
      exact ⟨(hleaf _ ordinal).mp hmatches, v, hmem, hobject⟩
    · rintro ⟨honly, v, hmem, hobject⟩
      exact ⟨v, List.mem_filter.mpr ⟨hmem, hobject⟩, (hleaf _ ordinal).mpr honly⟩

/-- **An index without the fields of a leaf contributes no hits, unless the leaf only excludes** and
    a document of the index has an object in the leaf's scope. -/
theorem lacking_contributes_iff {scope : SearchScope} {config : CompilerConfig} {l : Leaf}
    {q : CompiledQuery} {c : Corpus} {hits : List Hit} {i : TargetIndex}
    (husage : l.kind.usage?.isSome = true) (hcompile : compile scope config (.leaf l) = .ok q)
    (hsearch : c.search scope q = .ok hits) (hi : i ∈ scope.indexes)
    (hlacks : ∀ f ∈ l.fields, i.schema.node? f = none) :
    (∀ hit ∈ hits, hit.index ≠ i.name) ↔
      ¬(l.kind.onlyExcludes = true ∧ ∃ resolved ∈ q.leaves,
        ∃ entry ∈ (c.documents i.name).entries, entry.2.opens resolved.chain = true) := by
  obtain ⟨usage, chain, hpredicate, hleaves, hchain⟩ := compile_leaf_ok husage hcompile
  have hverdict : ∀ entry ∈ (c.documents i.name).entries,
      c.verdict scope q.predicate i entry = .ok true ↔
        l.kind.onlyExcludes = true ∧ entry.2.opens chain = true := by
    intro entry hentry
    obtain ⟨accepted, haccepts⟩ := Corpus.exists_verdict_of_search hsearch hi hentry
    rw [haccepts, Except.ok.injEq]
    unfold Corpus.verdict at haccepts
    rw [hpredicate] at haccepts
    exact Evaluation.accepts_of_lacks husage hlacks hchain haccepts
  rw [hleaves]
  constructor
  · rintro hnone ⟨honly, resolved, hresolved, ⟨id, d⟩, hentry, hopens⟩
    cases List.mem_singleton.mp hresolved
    have hhit := (Corpus.mem_iff_of_search hsearch hi).mpr
      ⟨d, hentry, (hverdict _ hentry).mpr ⟨honly, hopens⟩⟩
    exact hnone _ hhit rfl
  · rintro hnot ⟨index, id⟩ hhit rfl
    obtain ⟨d, hentry, haccepts⟩ := (Corpus.mem_iff_of_search hsearch hi).mp hhit
    obtain ⟨honly, hopens⟩ := (hverdict _ hentry).mp haccepts
    exact hnot ⟨honly, _, List.mem_cons_self, _, hentry, hopens⟩

namespace Sample

def title : Segment := .literal "title"

/-- A query string about a field that only the blog has. -/
def notRust : Leaf := ⟨[⟨title, []⟩], .simpleQueryString "-rust" .or .none⟩

def corpus : Corpus :=
  ((Corpus.empty.insert ⟨"blog", "b1"⟩ (.object [("title", .text "rust")])).insert
    ⟨"blog", "b2"⟩ (.object [("title", .text "lean")])).insert
      ⟨"shop", "s1"⟩ (.object [("orders", .list [])])

end Sample

/-- The hypotheses of `lacking_contributes_iff` can be met, and a document without the field can be
    among the hits. -/
theorem lacking_contributes_sample :
    ∃ q hits, compile Sample.scope .default (.leaf Sample.notRust) = .ok q ∧
      Sample.corpus.search Sample.scope q = .ok hits ∧ hits = [⟨"shop", "s1"⟩, ⟨"blog", "b2"⟩] ∧
      ((∀ hit ∈ hits, hit.index ≠ "shop") ↔
        ¬(Sample.notRust.kind.onlyExcludes = true ∧ ∃ resolved ∈ q.leaves,
          ∃ entry ∈ (Sample.corpus.documents "shop").entries,
            entry.2.opens resolved.chain = true)) := by
  have hhits : (compile Sample.scope .default (.leaf Sample.notRust)).toOption.bind (fun q =>
      (Sample.corpus.hitsOf Sample.scope q.predicate).toOption) =
        some [⟨"shop", "s1"⟩, ⟨"blog", "b2"⟩] := by decide +kernel
  cases hcompile : compile Sample.scope .default (.leaf Sample.notRust) with
  | error e =>
    rw [hcompile] at hhits
    cases hhits
  | ok q =>
    have hsearch := Corpus.search_eq_hitsOf (c := Sample.corpus) (ensureScope_of_compile hcompile)
    rw [hcompile, Except.toOption, Option.bind_some, ← hsearch] at hhits
    cases hfound : Sample.corpus.search Sample.scope q with
    | error e =>
      rw [hfound] at hhits
      cases hhits
    | ok hits =>
      rw [hfound] at hhits
      have hlacks : ∀ f ∈ Sample.notRust.fields, Sample.shop.node? f = none := by decide +kernel
      exact ⟨q, hits, rfl, hfound, Option.some.inj hhits,
        lacking_contributes_iff rfl hcompile hfound List.mem_cons_self hlacks⟩

end NestedSearch
