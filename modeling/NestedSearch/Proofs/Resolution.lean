import NestedSearch.Proofs.FieldPath
import NestedSearch.Schema.Resolution

/-!
# What following a path gives

`descend` carries along a chain, a place and the path it reports in errors. None of that is needed
to say what it answers. A path resolves exactly if the schema has a node there, and then the
chain is `chainTo`: the nested objects among the ancestors of the path (`resolve_eq_ok_iff`).

Relative resolution is two descents where absolute resolution is one; `descend_append` cuts one
descent in two at any segment, errors included, and so the two agree in every outcome
(`resolveFrom_eq_resolve`). After that nothing needs to know about relative paths.
-/

namespace NestedSearch

/-! ## Nodes and chains, said without a descent -/

/-- The nested objects on a path among these fields, which lie at `place`. -/
def Fields.scopesTo (fields : Fields) (place : Option FieldPath) (p : FieldPath) :
    List NestingScope :=
  (p.ancestors.filter fun q => (fields.nodeAt? q.head q.tail).any Node.isNested).map
    fun q => ⟨FieldPath.joinUnder place q, .nested⟩

/-- The nested objects among the ancestors of a path, itself included. -/
def Definition.chainTo (d : Definition) (p : FieldPath) : NestingChain :=
  ⟨d.fields.scopesTo none p⟩

namespace Fields

theorem nodeAt?_cons (fields : Fields) (s t : Segment) (rest : List Segment) :
    fields.nodeAt? s (t :: rest) =
      (fields.find? s.name).bind fun node => nodeAt? node.children t rest := by
  rw [nodeAt?]
  cases fields.find? s.name with
  | none => rfl
  | some node => rfl

theorem nodeAt?_append (fields : Fields) (s t : Segment) (more rest : List Segment) :
    fields.nodeAt? s (rest ++ t :: more) =
      (fields.nodeAt? s rest).bind fun node => nodeAt? node.children t more := by
  induction rest generalizing fields s with
  | nil => exact nodeAt?_cons fields s t more
  | cons next rest ih =>
    rw [List.cons_append, nodeAt?_cons, nodeAt?_cons, Option.bind_assoc]
    congr 1
    funext node
    exact ih node.children next

theorem scopesTo_single (fields : Fields) (place : Option FieldPath) (s : Segment) :
    fields.scopesTo place ⟨s, []⟩ =
      if (fields.find? s.name).any Node.isNested then [⟨.childOf place s, .nested⟩] else [] := by
  have hself : FieldPath.ancestors ⟨s, []⟩ = [⟨s, []⟩] := rfl
  have hnode : fields.find? s.name = fields.nodeAt? s [] := rfl
  rw [scopesTo, hself, hnode]
  cases h : (fields.nodeAt? s []).any Node.isNested <;> simp [h, FieldPath.childOf]

theorem scopesTo_cons (fields : Fields) (place : Option FieldPath) (s t : Segment)
    (rest : List Segment) {node : Node} (hn : fields.find? s.name = some node) :
    fields.scopesTo place ⟨s, t :: rest⟩ =
      fields.scopesTo place ⟨s, []⟩ ++
        scopesTo node.children (some (.childOf place s)) ⟨t, rest⟩ := by
  have hnode : ∀ q : FieldPath,
      fields.nodeAt? s (q.head :: q.tail) = nodeAt? node.children q.head q.tail := by
    intro q
    rw [nodeAt?_cons, hn, Option.bind_some]
  have hself : FieldPath.ancestors ⟨s, []⟩ = [⟨s, []⟩] := rfl
  unfold scopesTo
  rw [FieldPath.ancestors_cons, hself, ← List.singleton_append, List.filter_append,
    List.map_append, List.filter_map, List.map_map]
  congr 1
  -- Below the first segment the two sides differ only in where the paths are seen from.
  refine List.map_congr_left ?_ |>.trans (congrArg (List.map _) (List.filter_congr ?_))
  · intro q _
    simp only [Function.comp, FieldPath.joinUnder_some]
    rw [FieldPath.childOf_join]
  · intro q _
    exact congrArg (Option.any Node.isNested) (hnode q)

end Fields

/-! ## Descents -/

/-- One more scope if the segment leads to a nested object: what a descent adds to its chain. -/
private theorem push_scopes (fields : Fields) (chain : NestingChain) (place : Option FieldPath)
    (s : Segment) {node : Node} (hn : fields.find? s.name = some node) :
    (if node.isNested then chain.push ⟨.childOf place s, .nested⟩ else chain) =
      ⟨chain.scopes ++ fields.scopesTo place ⟨s, []⟩⟩ := by
  rw [Fields.scopesTo_single, hn, Option.any_some]
  by_cases h : node.isNested = true
  · rw [if_pos h, if_pos h]
    rfl
  · rw [if_neg h, if_neg h, List.append_nil]

/-- A descent succeeds exactly where there is a node, and nothing of what it carried along is
    left in its answer but the scopes it started with. -/
theorem descend_eq_ok_iff {index : String} {full : FieldPath} {fields : Fields}
    {chain : NestingChain} {place : Option FieldPath} {s : Segment} {rest : List Segment}
    {r : Resolution} :
    descend index full fields chain place s rest = .ok r ↔
      ∃ node, fields.nodeAt? s rest = some node ∧
        r = ⟨index, .joinUnder place ⟨s, rest⟩,
          ⟨chain.scopes ++ fields.scopesTo place ⟨s, rest⟩⟩, node⟩ := by
  induction rest generalizing fields chain place s with
  | nil =>
    unfold descend Fields.nodeAt?
    cases hn : fields.find? s.name with
    | none => simp
    | some node =>
      simp only [push_scopes fields chain place s hn, Except.ok.injEq, Option.some.injEq,
        exists_eq_left']
      exact eq_comm
  | cons next rest ih =>
    rw [Fields.nodeAt?_cons]
    unfold descend
    cases hn : fields.find? s.name with
    | none => simp
    | some node =>
      cases node with
      | value f =>
        have hnone : Fields.nodeAt? (Node.value f).children next rest = none := by
          cases rest <;> rfl
        simp [hnone]
      | object storage multiValued children =>
        have hplace : FieldPath.joinUnder (some (.childOf place s)) ⟨next, rest⟩ =
            FieldPath.joinUnder place ⟨s, next :: rest⟩ :=
          FieldPath.childOf_join place s ⟨next, rest⟩
        simp only [push_scopes fields chain place s hn, Option.bind_some]
        rw [ih, hplace, Fields.scopesTo_cons fields place s next rest hn, List.append_assoc]
        rfl

/-- A descent fails where there is no field, or where a value has no fields below it. -/
theorem descend_error {index : String} {full : FieldPath} {fields : Fields} {chain : NestingChain}
    {place : Option FieldPath} {s : Segment} {rest : List Segment} {e : SchemaError}
    (h : descend index full fields chain place s rest = .error e) :
    (∃ missing, e = .unknownField index full missing) ∨
      ∃ path, e = .wrongNodeKind index path .object .value := by
  induction rest generalizing fields chain place s with
  | nil =>
    unfold descend at h
    split at h
    · cases h
      exact .inl ⟨_, rfl⟩
    · cases h
  | cons next rest ih =>
    unfold descend at h
    split at h
    · cases h
      exact .inl ⟨_, rfl⟩
    · cases h
      exact .inr ⟨_, rfl⟩
    · exact ih h

/-- A descent in two halves: where the first half ends at an object the second one goes on from
    there, and every failure is the failure of the whole. -/
theorem descend_append {index : String} {full : FieldPath} {fields : Fields}
    {chain : NestingChain} {place : Option FieldPath} {s t : Segment}
    {rest more : List Segment} :
    descend index full fields chain place s (rest ++ t :: more) =
      match descend index full fields chain place s rest with
      | .error e => .error e
      | .ok start =>
        match start.node with
        | .value _ => .error (.wrongNodeKind index start.path .object .value)
        | .object _ _ children =>
          descend index full children start.chain (some start.path) t more := by
  induction rest generalizing fields chain place s with
  | nil =>
    rw [List.nil_append, descend, descend]
    cases fields.find? s.name with
    | none => rfl
    | some node => cases node <;> rfl
  | cons next rest ih =>
    rw [List.cons_append, descend, descend]
    cases fields.find? s.name with
    | none => rfl
    | some node =>
      cases node with
      | value f => rfl
      | object storage multiValued children => exact ih

theorem NestingChain.map_path_after (c : NestingChain) (opened : FieldPath) :
    (c.after (some opened)).map NestingScope.path =
      c.paths.dropWhile fun a => opened.startsWith a := by
  rw [after, paths, List.dropWhile_map]
  rfl

namespace Definition

/-- **A path resolves exactly if the schema has a node there**, and then with the nested objects
    among its ancestors. -/
theorem resolve_eq_ok_iff {d : Definition} {p : FieldPath} {r : Resolution} :
    d.resolve p = .ok r ↔
      ∃ node, d.node? p = some node ∧ r = ⟨d.index, p, d.chainTo p, node⟩ := by
  unfold resolve node? chainTo
  rw [descend_eq_ok_iff]
  simp [NestingChain.empty]

/-- There are two ways to fail, and one of them is that the field is unknown. -/
theorem ctorIdx_eq_of_resolve_error {d d' : Definition} {p p' : FieldPath} {e e' : SchemaError}
    (h : d.resolve p = .error e) (h' : d'.resolve p' = .error e')
    (hsame : e.isUnknownField = e'.isUnknownField) : e.ctorIdx = e'.ctorIdx := by
  rcases descend_error h with ⟨missing, rfl⟩ | ⟨path, rfl⟩ <;>
    rcases descend_error h' with ⟨missing', rfl⟩ | ⟨path', rfl⟩ <;> first | rfl | cases hsame

/-- Relative and absolute resolution agree, in success and in failure. -/
theorem resolveFrom_eq_resolve (d : Definition) (root : Option FieldPath) (p : FieldPath) :
    d.resolveFrom root p = d.resolve (.joinUnder root p) := by
  cases root with
  | none => rfl
  | some root =>
    have hjoin : d.resolve (.joinUnder (some root) p) =
        descend d.index (root.join p) d.fields .empty none root.head
          (root.tail ++ p.head :: p.tail) := rfl
    rw [hjoin, descend_append]
    unfold resolveFrom
    cases hstart : descend d.index (root.join p) d.fields .empty none root.head root.tail with
    | error e => simp only [hstart]
    | ok start =>
      obtain ⟨node, -, rfl⟩ := descend_eq_ok_iff.mp hstart
      simp only [hstart]
      cases node <;> rfl

/-! ## Going further down -/

theorem node?_join (d : Definition) (p q : FieldPath) :
    d.node? (p.join q) =
      (d.node? p).bind fun node => Fields.nodeAt? node.children q.head q.tail :=
  Fields.nodeAt?_append d.fields p.head q.head q.tail p.tail

/-- Whatever is above a node is a node. -/
theorem node?_of_node?_join {d : Definition} {p q : FieldPath} {node : Node}
    (h : d.node? (p.join q) = some node) : ∃ above, d.node? p = some above := by
  rw [node?_join] at h
  obtain ⟨above, habove, -⟩ := Option.bind_eq_some_iff.mp h
  exact ⟨above, habove⟩

/-! ## Chains -/

/-- **The chain of a path has exactly the nested objects among its ancestors.** -/
theorem paths_chainTo (d : Definition) (p : FieldPath) :
    (d.chainTo p).paths = p.ancestors.filter fun q => (d.node? q).any Node.isNested := by
  unfold NestingChain.paths chainTo Fields.scopesTo
  rw [List.map_map]
  exact List.map_id _

/-- A chain that a path needs is known by its paths, since all its scopes are nested objects. -/
theorem scopes_chainTo (d : Definition) (p : FieldPath) :
    (d.chainTo p).scopes = (d.chainTo p).paths.map fun q => ⟨q, .nested⟩ := by
  rw [paths_chainTo]
  rfl

theorem paths_chainTo_pairwise (d : Definition) (p : FieldPath) :
    (d.chainTo p).paths.Pairwise fun a b => a.isAncestorOf b = true := by
  rw [paths_chainTo]
  exact (FieldPath.ancestors_pairwise p).filter _

/-- The chain of a nested object ends with the object itself. -/
theorem getLast?_paths_chainTo {d : Definition} {p : FieldPath}
    (h : (d.node? p).any Node.isNested = true) : (d.chainTo p).paths.getLast? = some p := by
  obtain ⟨above, habove⟩ := FieldPath.ancestors_eq_concat p
  rw [paths_chainTo, habove, List.filter_append]
  simp [h]

theorem startsWith_of_mem_chainTo {d : Definition} {p a : FieldPath}
    (h : a ∈ (d.chainTo p).paths) : p.startsWith a = true := by
  rw [paths_chainTo] at h
  exact FieldPath.mem_ancestors_iff.mp (List.mem_filter.mp h).1

/-- The last object of a chain lies inside all of them. -/
theorem startsWith_of_getLast? {d : Definition} {p opened a : FieldPath}
    (hlast : (d.chainTo p).paths.getLast? = some opened) (ha : a ∈ (d.chainTo p).paths) :
    opened.startsWith a = true := by
  obtain ⟨above, habove⟩ := List.getLast?_eq_some_iff.mp hlast
  have hpair := paths_chainTo_pairwise d p
  rw [habove] at hpair ha
  rcases List.mem_append.mp ha with ha | ha
  · have hanc := (List.pairwise_append.mp hpair).2.2 a ha opened List.mem_cons_self
    obtain ⟨r, rfl⟩ := FieldPath.isAncestorOf_iff.mp hanc
    exact FieldPath.startsWith_join a r
  · rw [List.mem_singleton.mp ha]
    exact FieldPath.startsWith_self opened

/-- The chain of a longer path is the chain of the shorter one, then objects below it. -/
theorem paths_chainTo_join (d : Definition) (p q : FieldPath) :
    ∃ below, (d.chainTo (p.join q)).paths = (d.chainTo p).paths ++ below ∧
      ∀ a ∈ below, p.length < a.length := by
  refine ⟨(q.ancestors.map p.join).filter fun a => (d.node? a).any Node.isNested, ?_, ?_⟩
  · rw [paths_chainTo, paths_chainTo, FieldPath.ancestors_join, List.filter_append]
  · intro a ha
    obtain ⟨r, -, rfl⟩ := List.mem_map.mp (List.mem_filter.mp ha).1
    have hpos := r.length_pos
    rw [FieldPath.length_join]
    omega

/-- The nested objects that stand around whatever is relative to a root. -/
def enclosing (d : Definition) : Option FieldPath → List FieldPath
  | none => []
  | some root => (d.chainTo root).paths

/-- **Opening what `after` leaves over completes the chain**, provided that the scope that is open
    is the innermost one around the root: nothing is missing and nothing is opened twice. -/
theorem enclosing_append_after (d : Definition) (root : Option FieldPath) (p : FieldPath) :
    d.enclosing root ++
        ((d.chainTo (.joinUnder root p)).after (d.enclosing root).getLast?).map NestingScope.path =
      (d.chainTo (.joinUnder root p)).paths := by
  cases root with
  | none => rfl
  | some root =>
    show (d.chainTo root).paths ++
      ((d.chainTo (root.join p)).after (d.chainTo root).paths.getLast?).map NestingScope.path =
        (d.chainTo (root.join p)).paths
    cases hlast : (d.chainTo root).paths.getLast? with
    | none =>
      rw [List.getLast?_eq_none_iff.mp hlast]
      rfl
    | some opened =>
      obtain ⟨below, hbelow, hlonger⟩ := paths_chainTo_join d root p
      have hle : opened.length ≤ root.length :=
        FieldPath.length_le_of_startsWith (startsWith_of_mem_chainTo (List.mem_of_getLast? hlast))
      rw [NestingChain.map_path_after, hbelow,
        List.dropWhile_append_of_pos fun a ha => startsWith_of_getLast? hlast ha]
      congr 1
      -- What comes next is longer than the root, so the open scope does not lie inside it.
      cases below with
      | nil => rfl
      | cons next rest =>
        refine List.dropWhile_cons_of_neg fun hstart => ?_
        have hlen := FieldPath.length_le_of_startsWith hstart
        have hlong := hlonger next List.mem_cons_self
        omega

end Definition

end NestedSearch
