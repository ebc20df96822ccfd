import NestedSearch.Proofs.FieldPath
import NestedSearch.Proofs.Outcome
import NestedSearch.Schema.Basic

/-!
# What a valid schema guarantees

A schema is a definition that passed its check, and the check visits every node. Whoever follows a
path to a node may therefore rely on that node's own check (`Schema.check_node`); for a value field
this leaves only a few ways to declare its analysis (`WellDeclared`).
-/

namespace NestedSearch

/-! ## Value fields -/

/-- The rules for what a value field declares. -/
structure ValueField.WellDeclared (f : ValueField) : Prop where
  /-- A vector has a component. -/
  not_vector_zero : ∀ metric, f.type ≠ .vector 0 metric
  /-- Only text is analysed. -/
  isText : f.analyzer.isSome ∨ f.searchAnalyzer.isSome ∨ f.normalizer.isSome → f.type = .string
  /-- Text is either taken apart into terms or normalised. -/
  not_both : f.analyzer.isSome → f.normalizer = none
  /-- A search analyzer takes the place of an analyzer. -/
  analyzer_of_search : f.searchAnalyzer.isSome → f.analyzer.isSome

theorem ValueField.check_eq_ok_iff {index : String} {path : FieldPath} {f : ValueField} :
    f.check index path = .ok () ↔ f.WellDeclared := by
  unfold check
  simp only [refuse_eq_ok_iff, Bool.and_eq_true, Bool.or_eq_true, decide_eq_true_eq]
  constructor
  · rintro ⟨hdimension, htext, hboth, hsearch, -⟩
    refine ⟨?_, ?_, ?_, ?_⟩
    · intro metric h
      simp [h] at hdimension
    · intro hany
      by_cases htype : f.type = .string
      · exact htype
      · exact absurd ⟨or_assoc.mpr hany, htype⟩ htext
    · intro hanalyzer
      cases hnormalizer : f.normalizer with
      | none => rfl
      | some name => exact absurd ⟨hanalyzer, by simp [hnormalizer]⟩ hboth
    · intro hsome
      cases hanalyzer : f.analyzer with
      | none => exact absurd ⟨hsome, by simp [hanalyzer]⟩ hsearch
      | some name => rfl
  · rintro ⟨hdimension, htext, hboth, hsearch⟩
    refine ⟨?_, ?_, ?_, ?_, trivial⟩
    · cases htype : f.type with
      | vector dimension metric =>
        intro h
        exact hdimension metric (of_decide_eq_true h ▸ htype)
      | _ => simp
    · rintro ⟨hany, hne⟩
      exact hne (htext (or_assoc.mp hany))
    · rintro ⟨hanalyzer, hnormalizer⟩
      simp [hboth hanalyzer] at hnormalizer
    · rintro ⟨hsome, hnone⟩
      simp [Option.isNone_iff_eq_none.mp hnone] at hsearch
      simp [hsearch] at hsome

/-! ## Nodes -/

theorem checkFields_cons_ok {index name : String} {parent : Option FieldPath} {seen : List String}
    {node : Node} {rest : Fields}
    (h : checkFields index parent seen ((name, node) :: rest) = .ok ()) :
    ∃ s, Segment.ofName name = .ok s ∧ name ∉ seen ∧
      node.check index (.childOf parent s) = .ok () ∧
        checkFields index parent (name :: seen) rest = .ok () := by
  rw [checkFields] at h
  cases hs : Segment.ofName name with
  | error cause =>
    rw [hs] at h
    cases h
  | ok s =>
    rw [hs] at h
    simp only at h
    by_cases hseen : name ∈ seen
    · rw [if_pos hseen] at h
      cases h
    · rw [if_neg hseen] at h
      cases hnode : node.check index (.childOf parent s) with
      | error e =>
        rw [hnode] at h
        cases h
      | ok _ =>
        rw [hnode] at h
        exact ⟨s, rfl, hseen, hnode, h⟩

theorem check_of_find? {index : String} {parent : Option FieldPath} {seen : List String}
    {fields : Fields} {s : Segment} {node : Node}
    (h : checkFields index parent seen fields = .ok ()) (hnode : fields.find? s.name = some node) :
    node.check index (.childOf parent s) = .ok () := by
  induction fields generalizing seen with
  | nil => cases hnode
  | cons field rest ih =>
    obtain ⟨name, first⟩ := field
    obtain ⟨s', hs', -, hfirst, hrest⟩ := checkFields_cons_ok h
    unfold Fields.find? at hnode ih
    rw [List.lookup_cons] at hnode
    by_cases hname : s.name = name
    · subst hname
      rw [Segment.ofName_name] at hs'
      cases hs'
      simp at hnode
      rwa [← hnode]
    · have hbeq : (s.name == name) = false := by simpa using hname
      rw [hbeq] at hnode
      exact ih hrest hnode

theorem notMem_seen_of_check {index : String} {parent : Option FieldPath} {seen : List String}
    {fields : Fields} (h : checkFields index parent seen fields = .ok ()) {name : String}
    {node : Node} (hmem : (name, node) ∈ fields) : name ∉ seen := by
  induction fields generalizing seen with
  | nil => cases hmem
  | cons field rest ih =>
    obtain ⟨s, -, hseen, -, hrest⟩ := checkFields_cons_ok h
    rcases List.mem_cons.mp hmem with rfl | hmem
    · exact hseen
    · exact fun hin => ih hrest hmem (List.mem_cons_of_mem field.1 hin)

/-- Each of the fields is found by its name. -/
theorem find?_of_check {index : String} {parent : Option FieldPath} {seen : List String}
    {fields : Fields} (h : checkFields index parent seen fields = .ok ()) {name : String}
    {node : Node} (hmem : (name, node) ∈ fields) : fields.find? name = some node := by
  unfold Fields.find?
  induction fields generalizing seen with
  | nil => cases hmem
  | cons field rest ih =>
    obtain ⟨s, -, -, -, hrest⟩ := checkFields_cons_ok h
    rw [List.lookup_cons]
    rcases List.mem_cons.mp hmem with rfl | hmem
    · simp
    · have hne : name ≠ field.1 := by
        rintro rfl
        exact notMem_seen_of_check hrest hmem List.mem_cons_self
      have hbeq : (name == field.1) = false := by simpa using hne
      rw [hbeq]
      exact ih hrest hmem

theorem check_of_nodeAt? {index : String} {parent : Option FieldPath} {seen : List String}
    {fields : Fields} {s : Segment} {rest : List Segment} {node : Node}
    (h : checkFields index parent seen fields = .ok ())
    (hnode : fields.nodeAt? s rest = some node) :
    node.check index (.joinUnder parent ⟨s, rest⟩) = .ok () := by
  induction rest generalizing fields parent seen s with
  | nil => exact check_of_find? h hnode
  | cons next rest ih =>
    rw [Fields.nodeAt?] at hnode
    cases hfirst : fields.find? s.name with
    | none =>
      rw [hfirst] at hnode
      cases hnode
    | some first =>
      rw [hfirst] at hnode
      have hcheck := check_of_find? h hfirst
      cases first with
      | value f => cases rest <;> cases hnode
      | object storage multiValued children =>
        rw [Node.check] at hcheck
        have hplace : FieldPath.joinUnder (some (.childOf parent s)) ⟨next, rest⟩ =
            FieldPath.joinUnder parent ⟨s, next :: rest⟩ :=
          FieldPath.childOf_join parent s ⟨next, rest⟩
        rw [← hplace]
        exact ih hcheck hnode

/-- The fields of a schema passed the check. -/
theorem Schema.checkFields_eq (d : Schema) : checkFields d.index none [] d.fields = .ok () := by
  have hvalid := d.valid
  unfold Definition.check at hvalid
  by_cases hblank : Text.isBlank d.index = true
  · rw [if_pos hblank] at hvalid
    cases hvalid
  · rwa [if_neg hblank] at hvalid

/-- **Every node of a schema passed its check.** -/
theorem Schema.check_node (d : Schema) {p : FieldPath} {node : Node} (h : d.node? p = some node) :
    node.check d.index p = .ok () :=
  check_of_nodeAt? d.checkFields_eq h

theorem Schema.wellDeclared (d : Schema) {p : FieldPath} {f : ValueField}
    (h : d.node? p = some (.value f)) : f.WellDeclared := by
  have hcheck := d.check_node h
  rw [Node.check] at hcheck
  cases hfield : f.check d.index p with
  | error fault =>
    rw [hfield] at hcheck
    cases hcheck
  | ok _ => exact ValueField.check_eq_ok_iff.mp hfield

end NestedSearch
