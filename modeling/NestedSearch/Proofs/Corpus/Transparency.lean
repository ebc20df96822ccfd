import NestedSearch.Proofs.Compile
import NestedSearch.Proofs.Corpus.Algebra
import NestedSearch.Proofs.Corpus.Leaf
import NestedSearch.Proofs.Corpus.Search
import NestedSearch.Proofs.Placement.Reach
import NestedSearch.Proofs.Placement.Scoping
import NestedSearch.Proofs.Schema.Flat

/-!
# Scopes of single leaves

Scopes keep clauses together: those that stand in one scope are about one instance of its object. A
leaf on its own has nothing to be kept together with. If it tests single values, it selects the same
documents whether its objects are nested or flat (`scopes_transparent`).
-/

namespace NestedSearch

/-! ## Tests of values -/

/-- What is no object has no value below it. -/
theorem Node.holdsValue_of_not_object {storage : Storage} {multiValued : Bool}
    {children : Fields} {v : Document} (hself : v.instances = [v]) (h : v.isObject = false) :
    (Node.object storage multiValued children).holdsValue v = false := by
  have hnone : ∀ fields, holdsChild fields v = false := by
    intro fields
    induction fields with
    | nil => rfl
    | cons field rest ih =>
      have hget : v.get? field.1 = none := by cases v <;> first | rfl | cases h
      rw [holdsChild, hget, ih]
      rfl
  rw [Node.holdsValue, hself]
  simp [hnone]

/-- No test asks how an object is stored. -/
theorem PredicateKind.valueTest?_flat {kind : PredicateKind} {test : Node → Document → Bool}
    (h : kind.valueTest? = some test) (node : Node) : test node.flat = test node := by
  cases kind with
  | «exists» =>
    cases h
    funext v
    exact Node.holdsValue_flat v node
  | regexp pattern =>
    obtain ⟨r, -, rfl⟩ := Option.map_eq_some_iff.mp h
    funext v
    simp only [valueTest?.matchesTerm, Node.value?_flat]
  | simpleQueryString query operator analysis => cases h
  | matchAll | matchNone | ids documents => cases h
  | _ =>
    cases h
    funext v
    simp only [valueTest?.matchesTerm, Node.value?_flat]

/-! ## The scopes of a field -/

namespace Schema

variable {d : Schema} {f : FieldPath} {s : NestingScope}

theorem encloses_chainTo : (d.chainTo f).Encloses [f] := by
  refine ⟨Definition.paths_chainTo_pairwise _ f, fun g hg a ha => ?_⟩
  cases List.mem_singleton.mp hg
  exact Definition.startsWith_of_mem_chainTo ha

theorem isNested_of_innermost {node : Node} (hinner : (d.chainTo f).innermost? = some s)
    (hself : s.path = f) (hnode : d.node? f = some node) : node.isNested = true := by
  have hmem : s.path ∈ (d.chainTo f).paths := List.mem_map_of_mem (List.mem_of_getLast? hinner)
  rw [Definition.paths_chainTo, List.mem_filter, hself, hnode] at hmem
  exact hmem.2

/-- Where a field is no scope itself, its scopes hide none of its values. -/
theorem valuesIn_chainTo (h : ∀ s, (d.chainTo f).innermost? = some s → s.path ≠ f)
    (document : Document) :
    (d.chainTo f).valuesIn document f = document.values f.segments := by
  refine NestingChain.valuesIn_eq (fun s hinner => ?_) document
  have hmem : s.path ∈ (d.chainTo f).paths := List.mem_map_of_mem (List.mem_of_getLast? hinner)
  rcases FieldPath.startsWith_iff_eq_or_join.mp (Definition.startsWith_of_mem_chainTo hmem) with
    heq | hbelow
  · exact absurd heq.symm (h s hinner)
  · exact FieldPath.isAncestorOf_iff.mpr hbelow

end Schema

/-- **A field shows as much through its scopes as without them.** Only where the field is a scope
    itself is something hidden, and what is hidden there has no value. -/
theorem any_valuesIn {d : Schema} {f : FieldPath} {node : Node} {kind : PredicateKind}
    {usage : Usage} {test : Node → Document → Bool} (hnode : d.node? f = some node)
    (husage : kind.usage? = some usage) (hsupports : node.supports usage = true)
    (htest : kind.valueTest? = some test) (document : Document) :
    ((d.chainTo f).valuesIn document f).any (test node) =
      (document.values f.segments).any (test node) := by
  by_cases hself : ∃ s, (d.chainTo f).innermost? = some s ∧ s.path = f
  · obtain ⟨s, hinner, rfl⟩ := hself
    rw [NestingChain.valuesIn_self hinner, List.any_filter]
    refine any_congr_of_mem fun v hv => ?_
    -- The scope is an object, so the leaf asks whether there is a value in it.
    have hnested : node.isNested = true := Schema.isNested_of_innermost hinner rfl hnode
    cases node with
    | value field => cases hnested
    | object storage multiValued children =>
      cases PredicateKind.eq_exists_of_object husage hsupports
      cases htest
      cases hobject : v.isObject with
      | true => rw [Bool.true_and]
      | false =>
        rw [Node.holdsValue_of_not_object (Document.instances_of_mem_values hv) hobject,
          Bool.false_and]
  · rw [Schema.valuesIn_chainTo fun s hinner heq => hself ⟨s, hinner, heq⟩]

theorem verdict_leaf {c : Corpus} {scope : SearchScope} {l : Leaf}
    {test : Node → Document → Bool} {chain : NestingChain} {i : TargetIndex}
    {entry : String × Document} (hkind : l.kind.isSingleValue = true)
    (htest : l.kind.valueTest? = some test) (hchain : chain.Encloses l.fields) :
    c.verdict scope ((Predicate.leaf l).within chain.scopes) i entry =
      .ok (Evaluation.passes
        ⟨i.schema.toDefinition, ⟨i.name, entry.1⟩, [c.neighbours scope l]⟩ 0 l test
        (chain.valuesIn entry.2)) := by
  rw [Corpus.verdict, Placement.leaves_within]
  exact Evaluation.accepts_leaf_within entry.2 hkind htest hchain

/-! ## The flat index -/

section Flat

variable {d : Schema} {named named' : Registry} {c : Corpus}

theorem neighbours_flat (l : Leaf) :
    c.neighbours (.single ⟨d.flat, named'⟩) l = c.neighbours (.single ⟨d, named⟩) l := by
  have hcandidates (field : FieldPath) (query : List Float32) :
      c.candidatesIn field query ⟨d.flat, named'⟩ = c.candidatesIn field query ⟨d, named⟩ := by
    have hmetric : (d.flat.node? field).bind Node.metric? = (d.node? field).bind Node.metric? := by
      rw [Schema.node?_flat]
      cases d.node? field <;> simp
    unfold Corpus.candidatesIn
    rw [hmetric]
    rfl
  unfold Corpus.neighbours Corpus.nearest Corpus.candidates SearchScope.single
  simp only [List.flatMap_cons, List.flatMap_nil, hcandidates]

theorem hitsIn_flat :
    c.hitsIn (.single ⟨d.flat, named'⟩) = c.hitsIn (.single ⟨d, named⟩) := by
  unfold Corpus.hitsIn Corpus.named SearchScope.single
  simp only [List.flatMap_cons, List.flatMap_nil, List.append_nil, List.map_map]
  rfl

/-- In a single index the fields of a compiled leaf are nodes that support its usage. -/
theorem node_of_resolves {config : CompilerConfig} {usage : Usage} {chain : NestingChain}
    {f : FieldPath} (hvalidates : config.validateUsages = true)
    (h : Placement.FieldResolves (.single ⟨d, named⟩) config usage chain f) :
    ∃ node, d.node? f = some node ∧ node.supports usage = true ∧ d.chainTo f = chain := by
  obtain ⟨r, hr, rfl, hrequire⟩ := h
  have hagree := SearchScope.agreement hr
  obtain ⟨i, hi, node, hnode⟩ := hagree.some_index
  have hsupports := hagree.supports (hrequire hvalidates) hi hnode
  have hchain := hagree.chain_eq i hi node hnode
  cases List.mem_singleton.mp hi
  exact ⟨node, hnode, hsupports, hchain⟩

/-- Fields resolve in the flat index as well, and need no scope there. -/
theorem resolves_flat {config : CompilerConfig} {usage : Usage} {f : FieldPath} {node : Node}
    (hnode : d.node? f = some node) (husage : usage ≠ .nested)
    (hsupports : node.supports usage = true) :
    Placement.FieldResolves (.single ⟨d.flat, named'⟩) config usage .empty f := by
  refine ⟨_, SearchScope.resolve_single (Schema.node?_flat_of_node? hnode),
    Definition.chainTo_flat _ f, fun _ => ?_⟩
  simp [ScopedResolution.require, Node.supports_flat husage, hsupports]

theorem passes_flat {l : Leaf} {usage : Usage} {chain : NestingChain}
    {test : Node → Document → Bool} {hit : Hit} (document : Document)
    (husage : l.kind.usage? = some usage) (htest : l.kind.valueTest? = some test)
    (hfields : ∀ f ∈ l.fields, ∃ node, d.node? f = some node ∧ node.supports usage = true ∧
      d.chainTo f = chain) :
    Evaluation.passes
        ⟨d.flat.toDefinition, hit, [c.neighbours (.single ⟨d.flat, named'⟩) l]⟩ 0 l test
        (NestingChain.empty.valuesIn document) =
      Evaluation.passes ⟨d.toDefinition, hit, [c.neighbours (.single ⟨d, named⟩) l]⟩ 0 l test
        (chain.valuesIn document) := by
  rw [neighbours_flat]
  unfold Evaluation.passes
  refine congrArg₂ (· && ·) (by cases l.kind <;> rfl) ?_
  refine any_congr_of_mem fun f hf => ?_
  obtain ⟨node, hnode, hsupports, rfl⟩ := hfields f hf
  simp only [Schema.node?_flat_of_node? hnode, hnode, Option.any_some,
    PredicateKind.valueTest?_flat htest, any_valuesIn hnode husage hsupports htest]
  rfl

end Flat

/-- **Scopes make no difference to a leaf on its own** that tests single values. Where all objects
    are flat, it compiles too, and if both searches succeed they have the same hits, whatever the
    documents look like. -/
theorem scopes_transparent {d : Schema} {named named' : Registry} {l : Leaf} {q : CompiledQuery}
    (hkind : l.kind.isSingleValue = true)
    (hcompile : compile (.single ⟨d, named⟩) .default (.leaf l) = .ok q) :
    ∃ q', compile (.single ⟨d.flat, named'⟩) .default (.leaf l) = .ok q' ∧
      ∀ (c : Corpus) (hits hits' : List Hit), c.search (.single ⟨d, named⟩) q = .ok hits →
        c.search (.single ⟨d.flat, named'⟩) q' = .ok hits' → hits = hits' := by
  obtain ⟨usage, husage, hne⟩ := PredicateKind.exists_usage_of_isSingleValue hkind
  obtain ⟨chain, hpredicate, -, hcheck, hfields, hresolves⟩ :=
    compile_leaf_resolves husage hcompile
  have hnodes : ∀ f ∈ l.fields, ∃ node, d.node? f = some node ∧ node.supports usage = true ∧
      d.chainTo f = chain :=
    fun f hf => node_of_resolves rfl (hresolves f hf)
  have hflat : ∀ f ∈ l.fields,
      Placement.FieldResolves (.single ⟨d.flat, named'⟩) .default usage .empty f := by
    intro f hf
    obtain ⟨node, hnode, hsupports, -⟩ := hnodes f hf
    exact resolves_flat hnode hne hsupports
  obtain ⟨q', hcompile', hpredicate'⟩ :=
    compile_leaf_single (by decide) hcheck husage hfields hflat
  refine ⟨q', hcompile', fun c hits hits' hsearch hsearch' => ?_⟩
  refine Corpus.hits_eq_of_search hsearch hsearch' hitsIn_flat fun hit hhit => ?_
  obtain ⟨i, hi, entry, hentry, rfl⟩ := Corpus.mem_hitsIn_iff.mp hhit
  cases List.mem_singleton.mp hi
  have hverdict := Corpus.verdict_of_search hsearch List.mem_cons_self hentry
  have hverdict' := Corpus.verdict_of_search hsearch' List.mem_cons_self hentry
  rw [hpredicate] at hverdict
  rw [hpredicate'] at hverdict'
  cases htest : l.kind.valueTest? with
  | none =>
    -- The flat search has looked at the document, so it would have failed.
    have hfails : c.verdict (.single ⟨d.flat, named'⟩) (.leaf l) ⟨d.flat, named'⟩ entry = _ :=
      Evaluation.matchesLeaf_of_noTest hkind htest
    cases hfails.symm.trans hverdict'
  | some test =>
    have hchain : chain.Encloses l.fields := by
      obtain ⟨f, hf⟩ := List.exists_mem_of_ne_nil _ hfields
      obtain ⟨-, -, -, rfl⟩ := hnodes f hf
      refine ⟨Definition.paths_chainTo_pairwise _ f, fun g hg a ha => ?_⟩
      obtain ⟨-, -, -, hsame⟩ := hnodes g hg
      exact Definition.startsWith_of_mem_chainTo (hsame ▸ ha)
    rw [verdict_leaf hkind htest hchain] at hverdict
    rw [verdict_leaf hkind htest (NestingChain.encloses_empty _)] at hverdict'
    exact decide_eq_decide.mp ((Except.ok.inj hverdict).symm.trans
      ((passes_flat entry.2 husage htest hnodes).symm.trans (Except.ok.inj hverdict')))

namespace Sample

/-- Orders in lists of lists, lines that are no objects, a `null` and a text. -/
def orderBook : Corpus :=
  ((Corpus.empty.insert ⟨"shop", "s1"⟩
    (.object [("orders", .list [.null, .list [.object [("lines", .list [.text "a",
      .object [("sku", .list [.null, .text "b"])]])]]])])).insert
    ⟨"shop", "s2"⟩ (.object [("orders", .object [("lines", .text "b")])])).insert
      ⟨"shop", "s3"⟩ (.object [("orders", .object [("lines", .object [("sku", .null)])])])

def hasSku : Leaf := ⟨[⟨orders, [lines, sku]⟩], .exists⟩

end Sample

/-- The hypotheses of `scopes_transparent` can be met, by searches that have a hit. -/
theorem scopes_transparent_sample :
    ∃ q q' hits,
      compile (.single (.ofSchema Sample.shop)) .default (.leaf Sample.hasSku) = .ok q ∧
      compile (.single (.ofSchema Sample.shop.flat)) .default (.leaf Sample.hasSku) = .ok q' ∧
      Sample.orderBook.search (.single (.ofSchema Sample.shop)) q = .ok [⟨"shop", "s1"⟩] ∧
      Sample.orderBook.search (.single (.ofSchema Sample.shop.flat)) q' = .ok hits ∧
      [⟨"shop", "s1"⟩] = hits := by
  obtain ⟨q, hq, hsearch⟩ : Finds (.single (.ofSchema Sample.shop)) .default Sample.orderBook
      (.leaf Sample.hasSku) [⟨"shop", "s1"⟩] := finds_of_toOption (by decide +kernel)
  obtain ⟨hits, hhits⟩ := Option.isSome_iff_exists.mp (by decide +kernel :
    ((compile (.single (.ofSchema Sample.shop.flat)) .default (.leaf Sample.hasSku)).toOption.bind
      fun q => (Sample.orderBook.hitsOf (.single (.ofSchema Sample.shop.flat))
        q.predicate).toOption).isSome = true)
  obtain ⟨q', hq', hsearch'⟩ := finds_of_toOption hhits
  obtain ⟨q'', hq'', hsame⟩ := scopes_transparent rfl hq
  cases hq'.symm.trans hq''
  exact ⟨q, q', hits, hq, hq', hsearch, hsearch', hsame _ _ _ hsearch hsearch'⟩

end NestedSearch
