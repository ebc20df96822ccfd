import NestedSearch.Proofs.Json.Decode
import NestedSearch.Proofs.Json.Text
import NestedSearch.Schema.Codec

/-!
# Schemas are read back

A schema that is written as a text is the schema that the text defines (`Schema.parse_render`): the
same fields in the same order, with all that they declare.

Each type writes members of its own, and the members of a field are those of its type and its own
side by side. What is decoded from such a list is settled by the names in it, so the lemmas below
say of each type which names it writes and what stands under them.
-/

namespace NestedSearch

open Json (Origin Record bind_eq_some)

/-! ## Types -/

theorem DistanceMetric.carries (origin : Origin) (m : DistanceMetric) :
    m.toJson.Carries (ofJson? origin) m := by
  cases m <;> exact ⟨rfl, rfl⟩

theorem Storage.carries (origin : Origin) (s : Storage) : s.toJson.Carries (ofJson? origin) s := by
  cases s <;> exact ⟨rfl, rfl⟩

theorem ExistsStrategy.carries (origin : Origin) (s : ExistsStrategy) :
    s.toJson.Carries (ofJson? origin) s := by
  cases s <;> exact ⟨rfl, rfl⟩

/-- Whether the dimension of a vector fits in 64 bits, as the numbers that are read do. -/
def FieldType.isEncodable : FieldType → Bool
  | .vector dimension _ => dimension < 2 ^ 64
  | _ => true

theorem FieldType.carries {t : FieldType} (h : t.isEncodable = true) :
    (Json.ofMembers t.members).Carries (ofJson? .copy) t := by
  cases t with
  | vector dimension metric =>
    have hdimension := Json.carries_nat64 (show dimension < 2 ^ 64 by simpa [isEncodable] using h)
    have hcontent := Json.carries_pair (by simp : "dimension" ≠ "metric") FieldType.vector
      hdimension (DistanceMetric.carries .copy metric)
    exact ⟨Json.isSound_ofMembers_cons rfl hcontent.sound,
      bind_eq_some (Json.tagged?_ofMembers (by simp) (by decide) hcontent.sound) hcontent.decoded⟩
  | _ => exact ⟨rfl, rfl⟩

/-! ## Value fields -/

/-- A member that is written only if there is a value. -/
def memberOf {α : Type} (key : String) (encode : α → Json) (x : Option α) :
    List (String × Json) :=
  x.toList.map fun a => (key, encode a)

theorem map_fst_memberOf_sublist {α : Type} (key : String) (encode : α → Json) (x : Option α) :
    ((memberOf key encode x).map (·.1)).Sublist [key] := by
  cases x <;> simp [memberOf]

theorem lookup_memberOf {α : Type} (key : String) (encode : α → Json) (x : Option α)
    (name : String) :
    (memberOf key encode x).lookup name = if name = key then x.map encode else none := by
  cases x with
  | none => simp [memberOf]
  | some a =>
    by_cases hname : name = key
    · simp [memberOf, hname]
    · have hbeq : (name == key) = false := beq_eq_false_iff_ne.mpr hname
      simp [memberOf, List.lookup_cons, hbeq, hname]

theorem isSound_memberOf {α : Type} {key : String} {encode : α → Json} {x : Option α}
    (h : ∀ a, (encode a).isSound = true) : ∀ m ∈ memberOf key encode x, m.2.isSound = true := by
  intro m hm
  obtain ⟨a, -, rfl⟩ := List.mem_map.mp hm
  exact h a

namespace ValueField

/-- The members of a value field besides those of its type. -/
def ownMembers (f : ValueField) : List (String × Json) :=
  memberOf "analyzer" .ofString f.analyzer ++
    (memberOf "search_analyzer" .ofString f.searchAnalyzer ++
      (memberOf "normalizer" .ofString f.normalizer ++
        ([("searchable", .bool f.searchable), ("sortable", .bool f.sortable),
          ("projectable", .bool f.projectable), ("aggregable", .bool f.aggregable),
          ("multi_valued", .bool f.multiValued)] ++
            memberOf "exists_strategy" ExistsStrategy.toJson f.existsStrategy)))

theorem nameMember_eq (key : String) (name : Option String) :
    nameMember key name = memberOf key .ofString name := by
  cases name <;> rfl

theorem members_eq (f : ValueField) : f.members = f.type.members ++ f.ownMembers := by
  cases hstrategy : f.existsStrategy <;>
    simp only [members, ownMembers, nameMember_eq, hstrategy, List.append_assoc] <;> rfl

/-- The names are written in order, each at most once. -/
theorem map_fst_ownMembers_sublist (f : ValueField) :
    (f.ownMembers.map (·.1)).Sublist fieldNames := by
  simp only [ownMembers, List.map_append]
  exact (map_fst_memberOf_sublist _ _ _).append ((map_fst_memberOf_sublist _ _ _).append
    ((map_fst_memberOf_sublist _ _ _).append
      ((List.Sublist.refl _).append (map_fst_memberOf_sublist _ _ _))))

theorem notMem_fieldNames {t : FieldType} : ∀ m ∈ t.members, m.1 ∉ fieldNames := by
  cases t <;> simp [FieldType.members, fieldNames]

theorem isSound_ownMembers (f : ValueField) : ∀ m ∈ f.ownMembers, m.2.isSound = true := by
  have hname : ∀ text, (Json.ofString text).isSound = true := fun _ => rfl
  have hstrategy : ∀ strategy : ExistsStrategy, strategy.toJson.isSound = true :=
    fun strategy => (ExistsStrategy.carries .copy strategy).sound
  simp only [ownMembers, List.forall_mem_append]
  exact ⟨isSound_memberOf hname, isSound_memberOf hname, isSound_memberOf hname,
    by simp [Json.isSound], isSound_memberOf hstrategy⟩

/-- What stands under each name. -/
theorem lookup_ownMembers (f : ValueField) :
    f.ownMembers.lookup "analyzer" = f.analyzer.map .ofString ∧
    f.ownMembers.lookup "search_analyzer" = f.searchAnalyzer.map .ofString ∧
    f.ownMembers.lookup "normalizer" = f.normalizer.map .ofString ∧
    f.ownMembers.lookup "searchable" = some (.bool f.searchable) ∧
    f.ownMembers.lookup "sortable" = some (.bool f.sortable) ∧
    f.ownMembers.lookup "projectable" = some (.bool f.projectable) ∧
    f.ownMembers.lookup "aggregable" = some (.bool f.aggregable) ∧
    f.ownMembers.lookup "multi_valued" = some (.bool f.multiValued) ∧
    f.ownMembers.lookup "exists_strategy" = f.existsStrategy.map ExistsStrategy.toJson := by
  simp [ownMembers, List.lookup_append, lookup_memberOf, List.lookup_cons]

theorem carries {f : ValueField} (h : f.type.isEncodable = true) :
    (Json.ofMembers f.members).Carries (ofJson? .copy) f := by
  have htype := FieldType.carries h
  have hnames := f.map_fst_ownMembers_sublist
  have hknown : ∀ m ∈ f.ownMembers, m.1 ∈ fieldNames :=
    fun m hm => hnames.subset (List.mem_map_of_mem hm)
  have hflat := Json.flattened?_ofMembers hknown notMem_fieldNames (.inr f.members_eq)
    (hnames.nodup (by decide)) htype.sound
  have hname : ∀ {key : String} {name : Option String},
      f.ownMembers.lookup key = name.map Json.ofString →
        Record.optional? ⟨f.ownMembers, false⟩ key Json.text? = some name :=
    fun hget => Record.optional?_eq_of_map rfl hget (by simp [Json.ofString])
      fun text _ => Json.carries_ofString text
  have hflag : ∀ {key : String} {b default : Bool}, f.ownMembers.lookup key = some (.bool b) →
      Record.defaulted? ⟨f.ownMembers, false⟩ key default Json.bool? = some b :=
    fun hget => Record.defaulted?_eq hget (Json.carries_bool _)
  obtain ⟨hanalyzer, hsearchAnalyzer, hnormalizer, hsearchable, hsortable, hprojectable,
    haggregable, hmultiValued, hexistsStrategy⟩ := f.lookup_ownMembers
  have hstrategy : Record.optional? ⟨f.ownMembers, false⟩ "exists_strategy"
      (ExistsStrategy.ofJson? .copy) = some f.existsStrategy :=
    Record.optional?_eq_of_map rfl hexistsStrategy
      (by rintro (_ | _) <;> simp [ExistsStrategy.toJson, Json.ofString])
      fun strategy _ => ExistsStrategy.carries .copy strategy
  refine ⟨?_, bind_eq_some hflat ?_⟩
  · rw [members_eq, Json.isSound_ofMembers, List.forall_mem_append]
    exact ⟨Json.isSound_ofMembers.mp htype.sound, f.isSound_ownMembers⟩
  · refine bind_eq_some (hname hanalyzer) (bind_eq_some (hname hsearchAnalyzer) ?_)
    refine bind_eq_some (hname hnormalizer) (bind_eq_some (hflag hsearchable) ?_)
    refine bind_eq_some (hflag hsortable) (bind_eq_some (hflag hprojectable) ?_)
    refine bind_eq_some (hflag haggregable) (bind_eq_some (hflag hmultiValued) ?_)
    exact bind_eq_some hstrategy (bind_eq_some htype.decoded rfl)

/-- No member of a field has the name under which the kind of a node is written. -/
theorem ne_kind_of_mem_members (f : ValueField) : ∀ m ∈ f.members, m.1 ≠ "kind" := by
  rw [members_eq, List.forall_mem_append]
  constructor
  · cases f.type <;> simp [FieldType.members]
  · intro m hm heq
    have hmem := f.map_fst_ownMembers_sublist.subset (List.mem_map_of_mem hm)
    rw [heq] at hmem
    exact absurd hmem (by decide)

end ValueField

/-! ## Nodes -/

mutual

/-- Whether the dimensions of all vectors in the node fit in 64 bits. -/
def Node.isEncodable : Node → Bool
  | .value f => f.type.isEncodable
  | .object _ _ children => areEncodable children

def areEncodable : List (String × Node) → Bool
  | [] => true
  | (_, node) :: rest => node.isEncodable && areEncodable rest

end

theorem areEncodable_iff {children : List (String × Node)} :
    areEncodable children = true ↔ ∀ c ∈ children, c.2.isEncodable = true := by
  induction children with
  | nil => simp [areEncodable]
  | cons c rest ih => rw [areEncodable, Bool.and_eq_true, ih, List.forall_mem_cons]

namespace Node

theorem obj_membersOf (children : Fields) :
    Json.obj (membersOf children) = .ofMembers (children.map fun c => (c.1, c.2.toJson)) := by
  unfold Json.ofMembers
  rw [List.map_map]
  congr 1
  induction children with
  | nil => rfl
  | cons c rest ih => rw [membersOf, ih, List.map_cons]; rfl

/-- The fields of an object are decoded in their order. -/
theorem carries_membersOf {decode : Json → Option Node} {children : Fields}
    (h : ∀ c ∈ children, c.2.toJson.Carries decode c.2) :
    (Json.obj (membersOf children)).Carries (Fields.ofJson? decode) children := by
  rw [obj_membersOf]
  refine ⟨Json.isSound_ofMembers.mpr (List.forall_mem_map.mpr fun c hc => (h c hc).sound), ?_⟩
  refine bind_eq_some (Json.members?_ofMembers _) (Json.mapM_map_eq_some fun c hc => ?_)
  exact bind_eq_some (h c hc).decoded rfl

theorem objectOfJson?_eq {storage : Storage} {multiValued : Bool} {children : Fields}
    {decode : Json → Option Node}
    (h : (Json.obj (membersOf children)).Carries (Fields.ofJson? decode) children) :
    objectOfJson? .copy decode (objectToJson storage multiValued children) =
      some (.object storage multiValued children) := by
  have hstorage := Storage.carries .copy storage
  refine bind_eq_some (Record.ofJson?_ofMembers (by simp [objectNames]) (by simp)) ?_
  refine bind_eq_some (Record.required?_eq rfl hstorage) ?_
  refine bind_eq_some (Record.defaulted?_eq rfl (Json.carries_bool multiValued)) ?_
  exact bind_eq_some (Record.defaulted?_eq rfl h) rfl

mutual

/-- **A node is decoded from what is written for it**, if its nesting stays within the depth. -/
theorem carries : ∀ (node : Node) {depth : Nat} {origin : Origin}, node.isEncodable = true →
    node.toJson.nesting ≤ depth → node.toJson.Carries (decode depth origin) node
  | .value f, depth, origin, h, hdepth => by
    have hf := ValueField.carries h
    rw [toJson] at hdepth ⊢
    obtain ⟨depth, rfl⟩ := Json.exists_succ_of_nesting_le hdepth
    refine ⟨Json.isSound_ofMembers_cons rfl hf.sound, ?_⟩
    refine bind_eq_some (Json.tagged?_ofMembers f.ne_kind_of_mem_members (by simp) hf.sound) ?_
    simp only [if_true, hf.decoded]
    rfl
  | .object storage multiValued children, depth, origin, h, hdepth => by
    rw [toJson] at hdepth ⊢
    obtain ⟨depth, rfl⟩ := Json.exists_succ_of_nesting_le hdepth
    have hchildren : ∀ c ∈ children, c.2.toJson.nesting ≤ depth := by
      have hobject : (Json.obj (membersOf children)).nesting ≤ depth :=
        Json.nesting_member_le hdepth (List.mem_cons_of_mem _ (List.mem_cons_of_mem _
          (List.mem_cons_of_mem ("multi_valued", _) List.mem_cons_self)))
      rw [obj_membersOf] at hobject
      exact fun c hc =>
        Json.nesting_member_le (Nat.le_succ_of_le hobject) (List.mem_map_of_mem hc)
    have hfields : (Json.obj (membersOf children)).Carries
        (Fields.ofJson? (decode depth .copy)) children :=
      carries_membersOf (carries_children children h hchildren)
    have hcontent : (objectToJson storage multiValued children).isSound = true :=
      Json.isSound_ofMembers_cons (Storage.carries .copy storage).sound
        (Json.isSound_ofMembers_cons rfl (Json.isSound_ofMembers_cons hfields.sound rfl))
    refine ⟨Json.isSound_ofMembers_cons rfl hcontent, ?_⟩
    refine bind_eq_some (Json.tagged?_ofMembers (by simp) (by simp) hcontent) ?_
    exact objectOfJson?_eq hfields

theorem carries_children : ∀ (children : List (String × Node)) {depth : Nat} {origin : Origin},
    areEncodable children = true → (∀ c ∈ children, c.2.toJson.nesting ≤ depth) →
      ∀ c ∈ children, c.2.toJson.Carries (decode depth origin) c.2
  | [], _, _, _, _ => by simp
  | (name, node) :: rest, depth, origin, h, hdepth => by
    obtain ⟨hnode, hrest⟩ := Bool.and_eq_true_iff.mp h
    obtain ⟨hdepth, hmore⟩ := List.forall_mem_cons.mp hdepth
    exact List.forall_mem_cons.mpr
      ⟨carries node hnode hdepth, carries_children rest hrest hmore⟩

end

end Node

/-! ## Schemas -/

/-- Whether the dimensions of all vectors in the definition fit in 64 bits. -/
def Definition.isEncodable (d : Definition) : Bool := areEncodable d.fields

theorem Definition.carries {d : Definition} (h : d.isEncodable = true) :
    d.toJson.Carries ofJson? d := by
  have hfields : (Json.obj (Node.membersOf d.fields)).Carries
      (Fields.ofJson? (Node.ofJson? .text)) d.fields := by
    refine Node.carries_membersOf fun c hc => ?_
    have hnode : c.2.toJson.Carries (Node.decode c.2.toJson.nesting .text) c.2 :=
      Node.carries c.2 (areEncodable_iff.mp h c hc) (Nat.le_refl _)
    exact ⟨hnode.sound, hnode.decoded⟩
  exact Json.carries_pair (by simp) Definition.mk (Json.carries_ofString d.index) hfields

namespace Schema

theorem ofDefinition_toDefinition (s : Schema) : ofDefinition s.toDefinition = .ok s := by
  unfold ofDefinition
  split
  · rfl
  · next e he => cases s.valid.symm.trans he

/-- **A schema is read back**: the text that it is written as defines the same schema, with the
    children of every object in the same order. The text must not nest more deeply than what is
    read, and dimensions must be numbers of 64 bits. -/
theorem parse_render {s : Schema} (h : s.isEncodable = true)
    (hnesting : s.toJson.nesting ≤ Json.nestingLimit) : parse s.render = .ok s := by
  have hcarries := Definition.carries h
  rw [parse, Definition.render, Json.parse?_pretty hcarries.sound hnesting]
  show ofJson s.toJson = .ok s
  rw [ofJson, hcarries.decoded]
  exact s.ofDefinition_toDefinition

end Schema

namespace Sample

/-- Names that need escapes, members that are written only at times, and objects in objects. -/
def archive : Schema where
  index := "archive \"α\"\t\x01"
  fields :=
    [("größe", .value { ValueField.ofType .long with sortable := true, multiValued := true }),
      ("entries", .object .nested true
        [("zeile", .value { ValueField.text "simple\\fold" with
            searchAnalyzer := some "\"exact\"", existsStrategy := some .norms }),
          ("code", .value { ValueField.ofType .string with normalizer := some "lower\n" }),
          ("empty", .object .flattened false []),
          ("embedding", .value (.ofType (.vector 384 .cosine)))])]
  valid := by decide +kernel

end Sample

/-- The hypotheses of `parse_render` can be met. -/
theorem Schema.parse_render_sample : Sample.archive.isEncodable = true ∧
    Sample.archive.toJson.nesting ≤ Json.nestingLimit ∧
    Schema.parse Sample.archive.render = .ok Sample.archive := by
  have hencodable : Sample.archive.isEncodable = true := by decide +kernel
  have hnesting : Sample.archive.toJson.nesting ≤ Json.nestingLimit := by decide +kernel
  exact ⟨hencodable, hnesting, Schema.parse_render hencodable hnesting⟩

end NestedSearch
