import NestedSearch.Compatibility
import NestedSearch.Proofs.Resolution
import NestedSearch.Proofs.Schema.Field
import NestedSearch.Proofs.Schema.Validity

/-!
# Compatibility and query analysis

Two indexes may share a textual query if its text goes through the same analysis in both. The
comparison does not ask for that analysis. It compares what the fields declare, attribute by
attribute, and most attributes as they are shown, where an absent name is shown as a text of its
own.

For the fields of valid schemas the two come to the same (`text_agrees_iff`), but for that text: a
normalizer of the very name by which an absent one is shown is taken for an absent one, and the
comparison lets the fields pass although their analyses differ.
-/

namespace NestedSearch

/-! ## Two schemas -/

namespace Verdict

@[simp] theorem isConflicting_compatible : isConflicting .compatible = false := rfl

@[simp] theorem isConflicting_ignoring (ignored : List Attribute) :
    isConflicting (.compatibleIgnoring ignored) = false := rfl

@[simp] theorem isConflicting_conflicting (report : ConflictReport) :
    isConflicting (.conflicting report) = true := rfl

end Verdict

open Compatibility in
/-- Where the first that takes part has the field, there is a verdict: a conflict, unless none of the
    others differs from it. -/
theorem exists_verdict_of_found {request : CompatibilityRequest} {path : FieldPath}
    {schemas : List Definition} {first : Resolution} {others : List Presence}
    (h : (presences path schemas).1 = .found first :: others) :
    ∃ v, checkCompatibility path request schemas = .ok v ∧
      (v.isConflicting = false ↔
        ∃ ignored, compareAll path request (.found first) others = .ok ignored) := by
  unfold checkCompatibility
  simp only [h, List.findSome?_cons, Presence.found?]
  cases hall : compareAll path request (.found first) others with
  | error report => exact ⟨_, rfl, by simp⟩
  | ok ignored =>
    by_cases hempty : ignored.isEmpty = true
    · exact ⟨.compatible, by simp [hempty], by simp⟩
    · exact ⟨.compatibleIgnoring (Attribute.all.filter ignored.contains), by simp [hempty], by simp⟩

/-- Where two schemas have a field, there is a verdict, and it is the comparison of the two. -/
theorem exists_verdict_of_resolve (request : CompatibilityRequest) {path : FieldPath}
    {d₁ d₂ : Definition} {r₁ r₂ : Resolution} (h₁ : d₁.resolve path = .ok r₁)
    (h₂ : d₂.resolve path = .ok r₂) :
    ∃ v, checkCompatibility path request [d₁, d₂] = .ok v ∧
      (v.isConflicting = false ↔
        ∃ ignored, Compatibility.compare request r₁ r₂ = .ok ignored) := by
  have hpresent : (Compatibility.presences path [d₁, d₂]).1 = [.found r₁, .found r₂] := by
    simp [Compatibility.presences, h₁, h₂]
  obtain ⟨v, hv, hverdict⟩ := exists_verdict_of_found hpresent
  refine ⟨v, hv, hverdict.trans ?_⟩
  simp only [Compatibility.compareAll, Compatibility.comparePresences]
  cases Compatibility.compare request r₁ r₂ <;> simp [Except.map]

namespace Compatibility

/-! ## Two value fields -/

theorem settle_eq_ok_iff {matters : Attribute → Bool} {differences : List Difference} :
    (∃ ignored, settle matters differences = .ok ignored) ↔
      ∀ d ∈ differences, matters d.attr = false := by
  unfold settle
  cases hfind : differences.find? fun d => matters d.attr with
  | none => simpa using List.find?_eq_none.mp hfind
  | some d =>
    have hmem := List.mem_of_find?_eq_some hfind
    have hmatters := List.find?_some hfind
    constructor
    · rintro ⟨ignored, h⟩
      cases h
    · intro h
      rw [h d hmem] at hmatters
      cases hmatters

/-- A textual usage depends on the type and, unless the predicate brings its own analysis, on the
    normalizer, besides the analyzers. -/
theorem relevant_of_textual {request : CompatibilityRequest} (h : request.usage.isTextual = true) :
    relevant request =
      if request.analysis.bypasses then [.fieldType] else [.fieldType, .normalizer] := by
  unfold relevant
  cases husage : request.usage <;> first | rfl | simp [husage, Usage.isTextual] at h

/-- No analyzers are in conflict: they are the same, or the predicate brings its own analysis. -/
theorem analysisConflict?_eq_none_iff {request : CompatibilityRequest} {f g : ValueField}
    (h : request.usage.isTextual = true) :
    analysisConflict? request f g = none ↔
      (request.analysis.bypasses = false →
        f.effectiveSearchAnalyzer = g.effectiveSearchAnalyzer) := by
  unfold analysisConflict?
  rw [h]
  cases request.analysis.bypasses <;> simp

/-- **When textual usages pass**: the types agree, and, unless the predicate brings its own
    analysis, so do the analyzers and, as they are shown, the normalizers. -/
theorem compare_values_iff {request : CompatibilityRequest} {r₁ r₂ : Resolution}
    {f g : ValueField} (hf : r₁.node = .value f) (hg : r₂.node = .value g)
    (hchain : r₁.chain = r₂.chain) (husage : request.usage.isTextual = true) :
    (∃ ignored, compare request r₁ r₂ = .ok ignored) ↔
      f.type = g.type ∧ (request.analysis.bypasses = false →
        f.effectiveSearchAnalyzer = g.effectiveSearchAnalyzer ∧
          shown f.normalizer = shown g.normalizer) := by
  have hanalyzers := analysisConflict?_eq_none_iff (f := f) (g := g) husage
  cases hconflict : analysisConflict? request f g with
  | some d =>
    have hcompare : compare request r₁ r₂ = .error d := by
      unfold compare
      rw [hf, hg]
      simp only [hconflict]
    rw [hcompare]
    rw [hconflict] at hanalyzers
    constructor
    · rintro ⟨ignored, h⟩
      cases h
    · rintro ⟨-, h⟩
      cases hanalyzers.mpr fun hdeclared => (h hdeclared).1
  | none =>
    have hcompare : compare request r₁ r₂ =
        settle (fun a => a = .nestedPathHierarchy || (relevant request).contains a)
          (valueDifferences f g) := by
      unfold compare
      rw [hf, hg, if_pos hchain]
      simp only [hconflict, List.nil_append]
    rw [hcompare, settle_eq_ok_iff, relevant_of_textual husage, ← FieldType.describe_inj]
    have hsame := hanalyzers.mp hconflict
    -- Of the nine attributes only the relevant ones are left.
    cases hbypasses : request.analysis.bypasses with
    | true => simp [valueDifferences]
    | false => simp [valueDifferences, hsame hbypasses]

/-! ## The analysis itself -/

/-- Two names, absent or not, that are shown alike: they are the same, unless one of them is the
    text by which the absence of the other is shown. -/
theorem shown_eq_iff {a b : Option String} :
    shown a = shown b ↔ a = b ∨ (a = none ∧ b = some absent) ∨ (a = some absent ∧ b = none) := by
  cases a <;> cases b <;> simp [shown, eq_comm]

/-- A field that declares an analyzer declares no normalizer. -/
theorem normalizer_eq_none {f : ValueField} (h : f.WellDeclared) {name : String}
    (hname : f.effectiveSearchAnalyzer = some name) : f.normalizer = none := by
  refine h.not_both ?_
  unfold ValueField.effectiveSearchAnalyzer at hname
  cases hsearch : f.searchAnalyzer with
  | some _ => exact h.analyzer_of_search (by simp [hsearch])
  | none =>
    rw [hsearch] at hname
    simp [hname]

/-- In a well declared field the analysis of query text is determined by the analyzer and, in its
    absence, the normalizer. -/
theorem queryAnalysis_none_eq_iff {f g : ValueField} (hf : f.WellDeclared) (hg : g.WellDeclared) :
    f.queryAnalysis .none = g.queryAnalysis .none ↔
      f.effectiveSearchAnalyzer = g.effectiveSearchAnalyzer ∧ f.normalizer = g.normalizer := by
  unfold ValueField.queryAnalysis
  cases hfa : f.effectiveSearchAnalyzer with
  | some a =>
    have hfn := normalizer_eq_none hf hfa
    cases hga : g.effectiveSearchAnalyzer with
    | some b => simp [hfn, normalizer_eq_none hg hga]
    | none => cases g.normalizer <;> simp
  | none =>
    cases hga : g.effectiveSearchAnalyzer with
    | some b => cases f.normalizer <;> simp
    | none => cases f.normalizer <;> cases g.normalizer <;> simp

/-- One field has no normalizer, and the other one has the normalizer that is shown like that;
    otherwise their texts are analysed alike. -/
structure Confused (f g : ValueField) : Prop where
  type_eq : f.type = g.type
  analyzer_eq : f.effectiveSearchAnalyzer = g.effectiveSearchAnalyzer
  normalizers : (f.normalizer = none ∧ g.normalizer = some absent) ∨
    (f.normalizer = some absent ∧ g.normalizer = none)

end Compatibility

open Compatibility in
/-- **A textual usage passes exactly if type and query analysis agree**, but for fields whose
    normalizers are confused. -/
theorem text_agrees_iff {d₁ d₂ : Schema} {path : FieldPath} {request : CompatibilityRequest}
    {r₁ r₂ : Resolution} {f g : ValueField} (h₁ : d₁.resolve path = .ok r₁)
    (h₂ : d₂.resolve path = .ok r₂) (hf : r₁.node = .value f) (hg : r₂.node = .value g)
    (hchain : r₁.chain = r₂.chain) (husage : request.usage.isTextual = true) :
    ∃ v, checkCompatibility path request [d₁.toDefinition, d₂.toDefinition] = .ok v ∧
      ((v.isConflicting = false ↔ f.type = g.type ∧
          f.queryAnalysis request.analysis = g.queryAnalysis request.analysis) ↔
        ¬(request.analysis = .none ∧ Confused f g)) := by
  obtain ⟨v, hv, hverdict⟩ := exists_verdict_of_resolve request h₁ h₂
  obtain ⟨_, hnode₁, rfl⟩ := Definition.resolve_eq_ok_iff.mp h₁
  obtain ⟨_, hnode₂, rfl⟩ := Definition.resolve_eq_ok_iff.mp h₂
  cases hf
  cases hg
  refine ⟨v, hv, ?_⟩
  rw [hverdict, compare_values_iff rfl rfl hchain husage]
  cases hanalysis : request.analysis with
  | analyzer name => simp [AnalysisOverride.bypasses, ValueField.queryAnalysis]
  | skip => simp [AnalysisOverride.bypasses, ValueField.queryAnalysis]
  | none =>
    rw [queryAnalysis_none_eq_iff (d₁.wellDeclared hnode₁) (d₂.wellDeclared hnode₂), shown_eq_iff]
    -- Names that are only shown alike are not the same name.
    constructor
    · rintro hsame ⟨-, htype, hanalyzer, hnormalizers⟩
      obtain ⟨-, -, hnormalizer⟩ :=
        hsame.mp ⟨htype, fun _ => ⟨hanalyzer, Or.inr hnormalizers⟩⟩
      rcases hnormalizers with ⟨hf, hg⟩ | ⟨hf, hg⟩ <;> simp [hf, hg] at hnormalizer
    · intro hnot
      constructor
      · rintro ⟨htype, hdeclared⟩
        obtain ⟨hanalyzer, hnormalizer | hnormalizers⟩ := hdeclared rfl
        · exact ⟨htype, hanalyzer, hnormalizer⟩
        · exact absurd ⟨rfl, htype, hanalyzer, hnormalizers⟩ hnot
      · rintro ⟨htype, hanalyzer, hnormalizer⟩
        exact ⟨htype, fun _ => ⟨hanalyzer, Or.inl hnormalizer⟩⟩

namespace Sample

def color : Segment := .literal "color"

/-- A field that is normalised, by a normalizer with an unlucky name. -/
def unlucky : ValueField := { ValueField.keyword with normalizer := some "<none>" }

def normalised : Schema where
  index := "a"
  fields := [("color", .value unlucky)]
  valid := by decide +kernel

def plain : Schema where
  index := "b"
  fields := [("color", .value .keyword)]
  valid := by decide +kernel

end Sample

/-- The hypotheses of `text_agrees_iff` can be met, and so can its exception: a text that one index
    normalises and the other does not passes as compatible. -/
theorem text_agrees_sample :
    let path : FieldPath := ⟨Sample.color, []⟩
    let schemas := [Sample.normalised.toDefinition, Sample.plain.toDefinition]
    (∃ v, checkCompatibility path ⟨.matching, .none⟩ schemas = .ok v ∧
      ((v.isConflicting = false ↔ Sample.unlucky.type = ValueField.keyword.type ∧
          Sample.unlucky.queryAnalysis .none = ValueField.keyword.queryAnalysis .none) ↔
        ¬(AnalysisOverride.none = .none ∧ Compatibility.Confused Sample.unlucky .keyword))) ∧
      (checkCompatibility path ⟨.matching, .none⟩ schemas).toOption = some .compatible := by
  intro path schemas
  have hnormalised : Sample.normalised.resolve path =
      .ok ⟨"a", path, ⟨[]⟩, .value Sample.unlucky⟩ := rfl
  have hplain : Sample.plain.resolve path = .ok ⟨"b", path, ⟨[]⟩, .value .keyword⟩ := rfl
  exact ⟨text_agrees_iff hnormalised hplain rfl rfl rfl rfl, by decide +kernel⟩

end NestedSearch
