import NestedSearch.Proofs.Placement.Derivation
import NestedSearch.Proofs.Placement.Occurrence

/-!
# Every leaf in exactly its scopes

A frame says where a predicate stands; the tree that is built around it says the same thing a
second time, as the nodes that enclose it. `Frame.StandsIn` is what the two have in common, and it
is the invariant of placement: the scopes opened so far are the nested objects around the root, in
every index that has anything below the root.

From it follows the one fact that all cases share (`StandsIn.scopes_append_after`): the scopes that
are open and those that `after` leaves over are, together, the chain of the field.
-/

namespace NestedSearch

/-! ## Frames and contexts -/

/-- The frame is right about the nodes that enclose it. -/
structure Frame.StandsIn (scope : SearchScope) (context : List Enclosure) (frame : Frame) :
    Prop where
  /-- The open scopes are those that paths relative to the root need, in each index that has
      such a path. -/
  scopes_eq : ∀ i ∈ scope.indexes, ∀ p node,
    i.schema.node? (.joinUnder frame.root p) = some node →
      i.schema.enclosing frame.root = Enclosure.scopes context
  opened_eq : frame.opened = (Enclosure.scopes context).getLast?
  optional_eq : frame.optional = context.any Enclosure.isOr

namespace Frame

variable {scope : SearchScope} {context : List Enclosure} {frame : Frame}

theorem StandsIn.top (scope : SearchScope) : Frame.top.StandsIn scope [] := by
  refine ⟨?_, rfl, rfl⟩
  intro i _ p node _
  rfl

/-- A node that opens no scope and is no `or` leaves the frame as it is. -/
theorem StandsIn.enclose (h : frame.StandsIn scope context) {e : Enclosure}
    (hscope : e.scope? = none) (hor : e.isOr = false) :
    frame.StandsIn scope (context ++ [e]) := by
  have hscopes : Enclosure.scopes (context ++ [e]) = Enclosure.scopes context := by
    simp [Enclosure.scopes, hscope]
  refine ⟨?_, ?_, ?_⟩
  · rw [hscopes]
    exact h.scopes_eq
  · rw [hscopes]
    exact h.opened_eq
  · rw [List.any_append, h.optional_eq]
    simp [hor]

/-- Only an `or` makes its clauses optional. -/
theorem StandsIn.clause (h : frame.StandsIn scope context) (operator : BoolOperator) :
    (frame.clause operator).StandsIn scope (context ++ [.bool operator]) := by
  have hscopes : Enclosure.scopes (context ++ [.bool operator]) = Enclosure.scopes context := by
    simp [Enclosure.scopes, Enclosure.scope?]
  refine ⟨?_, ?_, ?_⟩
  · rw [hscopes]
    exact h.scopes_eq
  · rw [hscopes]
    exact h.opened_eq
  · rw [List.any_append, ← h.optional_eq]
    cases operator <;> simp [Frame.clause, Enclosure.isOr]

/-- **The open scopes and the ones to be opened are the chain**: nothing is missing between them
    and nothing is opened twice. -/
theorem StandsIn.scopes_append_after (h : frame.StandsIn scope context) {p : FieldPath}
    {r : ScopedResolution} (hr : scope.Agreement (.joinUnder frame.root p) r) :
    Enclosure.scopes context ++ (r.chain.after frame.opened).map NestingScope.path =
      r.chain.paths := by
  obtain ⟨i, hi, node, hnode, hchain⟩ := hr.exists_chain
  have hopen := h.scopes_eq i hi p node hnode
  rw [h.opened_eq, ← hchain, ← hopen]
  exact i.schema.enclosing_append_after frame.root p

/-- Going to an object through the scopes that are not open yet. -/
theorem StandsIn.expansion (h : frame.StandsIn scope context) {p : FieldPath}
    {r : ScopedResolution} (hr : scope.Agreement (.joinUnder frame.root p) r) :
    (frame.expansion (some r.path) (r.chain.after frame.opened)).StandsIn scope
      (context ++ Enclosure.ofScopes (r.chain.after frame.opened)) := by
  have hscopes := h.scopes_append_after hr
  refine ⟨?_, ?_, ?_⟩
  · intro i hi q node hnode
    obtain ⟨above, habove⟩ := Definition.node?_of_node?_join hnode
    rw [hr.path_eq] at habove
    rw [Enclosure.scopes_append, Enclosure.scopes_ofScopes, hscopes,
      ← hr.chain_eq i hi above habove, ← hr.path_eq]
    rfl
  · rw [Enclosure.scopes_append, Enclosure.scopes_ofScopes, List.getLast?_append,
      List.getLast?_map, ← h.opened_eq]
    rfl
  · rw [List.any_append, Enclosure.any_isOr_ofScopes, Bool.or_false]
    exact h.optional_eq

/-- Inside a nested object the object itself is the innermost open scope, whether it was open
    before or is opened on the way. -/
theorem StandsIn.nested (h : frame.StandsIn scope context) {p : FieldPath}
    {r : ScopedResolution} (hr : scope.Agreement (.joinUnder frame.root p) r)
    (hreq : r.require .nested = .ok ()) :
    { frame with root := some r.path, opened := some r.path }.StandsIn scope
      (context ++ Enclosure.ofScopes (r.chain.after frame.opened)) := by
  obtain ⟨i, hi, node, hnode, hchain⟩ := hr.exists_chain
  have hnested : (i.schema.node? (.joinUnder frame.root p)).any Node.isNested = true := by
    have hsupports := hr.supports hreq hi hnode
    rw [hnode]
    cases node with
    | value f => simp [Node.supports, ValueField.supports, FieldType.allows] at hsupports
    | object storage multiValued children => exact hsupports
  have hlast : r.chain.paths.getLast? = some r.path := by
    rw [← hchain, hr.path_eq]
    exact Definition.getLast?_paths_chainTo hnested
  obtain ⟨hscopes, hopened, hoptional⟩ := h.expansion hr
  refine ⟨hscopes, ?_, hoptional⟩
  rw [Enclosure.scopes_append, Enclosure.scopes_ofScopes, h.scopes_append_after hr, hlast]

end Frame

/-! ## The leaves that are listed -/

/-- What is listed about a leaf is what the leaf is and where it stands. -/
structure ResolvedLeaf.Describes (l : ResolvedLeaf) (o : Occurrence) : Prop where
  fields_eq : l.fields = o.leaf.fields
  usage_eq : o.leaf.kind.usage? = some l.usage
  analysis_eq : l.analysis = o.leaf.kind.analysis
  /-- The leaf is evaluated in the scopes that its fields need, and in no others. -/
  scopes_eq : l.chain.paths = o.scopes
  optional_eq : l.optional = o.isOptional

/-- The leaves of a part of a query, as seen from outside of these nodes. -/
def ListsLeaves (context : List Enclosure) (leaves : List ResolvedLeaf)
    (occurrences : List Occurrence) : Prop :=
  List.Forall₂ ResolvedLeaf.Describes leaves (occurrences.map (.within context))

theorem ListsLeaves.append {context : List Enclosure} {leaves more : List ResolvedLeaf}
    {os os' : List Occurrence} (h : ListsLeaves context leaves os)
    (hmore : ListsLeaves context more os') :
    ListsLeaves context (leaves ++ more) (os ++ os') := by
  unfold ListsLeaves
  rw [List.map_append]
  exact List.rel_append h hmore

/-- Nodes around a tree can be counted to its own or to those around it. -/
theorem ListsLeaves.within_iff {context inner : List Enclosure} {leaves : List ResolvedLeaf}
    {os : List Occurrence} :
    ListsLeaves context leaves (os.map (.within inner)) ↔
      ListsLeaves (context ++ inner) leaves os := by
  unfold ListsLeaves
  rw [Occurrence.map_within_map_within]

/-- Every leaf that occurs is listed. -/
theorem ListsLeaves.exists_leaf {context : List Enclosure} {leaves : List ResolvedLeaf}
    {os : List Occurrence} (h : ListsLeaves context leaves os) {o : Occurrence} (ho : o ∈ os) :
    ∃ l ∈ leaves, l.Describes (o.within context) := by
  induction os generalizing leaves with
  | nil => cases ho
  | cons first rest ih =>
    cases h with
    | @cons l _ more _ hfirst hrest =>
      rcases List.mem_cons.mp ho with rfl | ho
      · exact ⟨l, List.mem_cons_self, hfirst⟩
      · obtain ⟨other, hother, hdescribes⟩ := ih hrest ho
        exact ⟨other, List.mem_cons_of_mem l hother, hdescribes⟩

namespace Placement

variable {scope : SearchScope} {config : CompilerConfig} {frame : Frame} {p : Predicate}
  {r : Placed}

/-- A step that, wherever it places a predicate, lists its leaves as they stand. -/
def Step.Faithful (scope : SearchScope) (step : Step) : Prop :=
  ∀ frame context used p r, frame.StandsIn scope context → step frame used p = .ok r →
    ListsLeaves context r.leaves r.predicate.fieldOccurrences

/-- What is listed about a leaf is where the leaf stands. -/
theorem leaf_describes {l : Leaf} {usage : Usage} {fields : List FieldPath}
    {chain : NestingChain} {context : List Enclosure} (hstands : frame.StandsIn scope context)
    (hcheck : l.check = .ok ()) (husage : l.kind.usage? = some usage)
    (hfields : resolveFields scope config frame.root usage none l.fields = .ok (fields, chain)) :
    ResolvedLeaf.Describes ⟨fields, usage, l.kind.analysis, chain, frame.optional⟩
      (Occurrence.within (context ++ Enclosure.ofScopes (chain.after frame.opened))
        ⟨[], ⟨fields, l.kind⟩⟩) := by
  refine ⟨rfl, husage, rfl, ?_, ?_⟩
  · obtain ⟨rfl, hall, -⟩ := resolveFields_ok hfields
    obtain ⟨p, rest, hcons⟩ := List.exists_cons_of_ne_nil (fields_ne_nil_of_check hcheck husage)
    obtain ⟨r, hr, rfl, -⟩ := hall (.joinUnder frame.root p) (by simp [hcons])
    have hscopes := hstands.scopes_append_after (SearchScope.agreement hr)
    rw [← hscopes]
    simp [Occurrence.scopes, Occurrence.within]
  · rw [hstands.optional_eq]
    simp [Occurrence.isOptional, Occurrence.within]

/-- The leaves of a placed predicate are listed as they stand, seen from outside of all nodes that
    the frame stands in. -/
theorem Derivation.lists (h : Derivation scope config frame p r) :
    ∀ {context : List Enclosure}, frame.StandsIn scope context →
      ListsLeaves context r.leaves r.predicate.fieldOccurrences := by
  induction h with
  | @bare _ l hcheck husage =>
    intro context hstands
    -- A leaf without fields is not listed, and does not occur among those with fields.
    have hnone : (Predicate.leaf l).fieldOccurrences = [] := by
      simp [Predicate.fieldOccurrences, Predicate.occurrences, Occurrence.targetsFields, husage]
    rw [hnone]
    exact List.Forall₂.nil
  | @leaf _ l usage fields chain hcheck husage hfields =>
    intro context hstands
    have hone : (Predicate.leaf ⟨fields, l.kind⟩).fieldOccurrences =
        [⟨[], ⟨fields, l.kind⟩⟩] := by
      simp [Predicate.fieldOccurrences, Predicate.occurrences, Occurrence.targetsFields, husage]
    rw [Predicate.fieldOccurrences_within, hone, ListsLeaves.within_iff]
    exact List.Forall₂.cons (leaf_describes hstands hcheck husage hfields) List.Forall₂.nil
  | noClause =>
    intro context hstands
    exact List.Forall₂.nil
  | clause hfirst hrest ihfirst ihrest =>
    intro context hstands
    -- The other clauses are one combination in the frame, and the first one stands beside them.
    have hothers := ihrest hstands
    rw [Predicate.fieldOccurrences_bool, ListsLeaves.within_iff] at hothers ⊢
    rw [Predicate.fieldOccurrencesOf_cons]
    exact (ihfirst (hstands.clause _)).append hothers
  | nested houter hrequire hinner ih =>
    intro context hstands
    rw [SearchScope.resolve_joinUnder] at houter
    rw [Predicate.fieldOccurrences_within, ListsLeaves.within_iff]
    exact ih (hstands.nested (SearchScope.agreement houter) hrequire)
  | named hfull htarget hprovider hproduced hinner ih =>
    intro context hstands
    rw [Predicate.fieldOccurrences_within, ListsLeaves.within_iff]
    refine ih ?_
    obtain ⟨-, rfl, rfl⟩ | ⟨place, r, -, hr, rfl, rfl⟩ := target_ok htarget
    · -- The name alone leads nowhere, so the frame stays.
      simpa [Frame.expansion, Enclosure.ofScopes] using hstands
    · rw [SearchScope.resolve_joinUnder] at hr
      exact hstands.expansion (SearchScope.agreement hr)
  | not hinner ih | boosted hboost hinner ih | constantScore hinner ih =>
    intro context hstands
    rw [Predicate.fieldOccurrences_enclosed rfl, ListsLeaves.within_iff]
    exact ih (hstands.enclose rfl rfl)

/-- However deeply named predicates stand inside one another. -/
theorem expanding_faithful (scope : SearchScope) (config : CompilerConfig) (depth : Nat) :
    (expanding scope config depth).Faithful scope :=
  fun _ _ _ _ _ hstands h => (expanding_derives h).lists hstands

end Placement

/-- **Every leaf of a placed predicate stands in exactly the scopes that its fields need**, and is
    listed in its place with its fields, its usage, its analysis, these scopes and whether an `or`
    encloses it. -/
theorem place_describes {scope : SearchScope} {config : CompilerConfig} {p : Predicate}
    {r : Placed} (h : place scope config p = .ok r) :
    List.Forall₂ ResolvedLeaf.Describes r.leaves r.predicate.fieldOccurrences := by
  have hlists := Placement.expanding_faithful scope config config.maxExpansionDepth _ _ 0 p r
    (Frame.StandsIn.top scope) h
  unfold ListsLeaves at hlists
  rwa [Occurrence.within_nil, List.map_id] at hlists

/-! ## A shop and a blog -/

namespace Sample

def orders : Segment := .literal "orders"
def lines : Segment := .literal "lines"
def note : Segment := .literal "note"
def tag : Segment := .literal "tag"
def label : Segment := .literal "label"
def sku : Segment := .literal "sku"

/-- Orders have lines. A line has a note, which is no scope, and a note has tags, which are. -/
def shop : Schema where
  index := "shop"
  fields :=
    [("orders", .object .nested true
      [("lines", .object .nested true
        [("sku", .value (.ofType .string)),
          ("note", .object .flattened false
            [("tag", .object .nested true [("label", .value (.ofType .string))])])])])]
  valid := by decide +kernel

/-- An index without orders. -/
def blog : Schema where
  index := "blog"
  fields := [("title", .value (.ofType .string))]
  valid := by decide +kernel

/-- Whether a note has a tag with a label. -/
def labelled : Provider :=
  ⟨"labelled", fun _ => .ok (.leaf ⟨[⟨tag, [label]⟩], .exists⟩)⟩

def scope : SearchScope where
  indexes := [⟨shop, ⟨[⟨some ⟨orders, [lines, note]⟩, "labelled", labelled⟩]⟩⟩, .ofSchema blog]
  nonempty := by simp
  distinct := by decide +kernel

/-- Scopes left unsaid, said in part, and said in part around a named predicate. -/
def query : Predicate :=
  .bool .or
    [.leaf ⟨[⟨orders, [lines, sku]⟩], .exists⟩,
      .nested ⟨orders, []⟩ (.not (.leaf ⟨[⟨lines, [note, tag, label]⟩], .exists⟩)),
      .leaf ⟨[], .matchAll⟩,
      .named "orders.lines.note.labelled" .empty,
      .nested ⟨orders, [lines]⟩ (.named "note.labelled" .empty)]

end Sample

/-- The hypothesis of `place_describes` can be met. -/
theorem place_describes_sample :
    ∃ r, place Sample.scope .default Sample.query = .ok r ∧
      r.leaves.map (fun l => (l.chain.paths.length, l.optional)) =
        [(2, true), (3, true), (3, true), (3, true)] ∧
      List.Forall₂ ResolvedLeaf.Describes r.leaves r.predicate.fieldOccurrences := by
  have hleaves : (place Sample.scope .default Sample.query).toOption.map (fun r =>
      r.leaves.map fun l => (l.chain.paths.length, l.optional)) =
        some [(2, true), (3, true), (3, true), (3, true)] := by decide +kernel
  cases hplace : place Sample.scope .default Sample.query with
  | error e =>
    rw [hplace] at hleaves
    cases hleaves
  | ok r =>
    rw [hplace] at hleaves
    exact ⟨r, rfl, Option.some.inj hleaves, place_describes hplace⟩

end NestedSearch
