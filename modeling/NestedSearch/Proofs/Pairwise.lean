import Mathlib.Data.List.Nodup
import NestedSearch.Proofs.Reports

/-!
# Two indexes at a time

The comparison looks at every index beside the first one only. One would like to read its answer as
a statement about any two indexes, with no order among them, and one may (`verdict_pairwise`):
indexes are compared by a print of either, so agreeing is an equivalence, and what a compatible pair
differs in is what the two show differently, so the differences from the first index are all there
are.
-/

namespace NestedSearch
namespace Compatibility

variable {request : CompatibilityRequest} {path : FieldPath}

/-! ## All indexes -/

/-- What a pair without a conflict shows differently are fields of both. -/
theorem found_of_shows_ne {l r : Presence} {a : Attribute}
    (hprint : l.print? request = r.print? request) (h : l.shows a ≠ r.shows a) :
    (∃ found, l = .found found) ∧ ∃ found, r = .found found := by
  cases l with
  | found found =>
    cases r with
    | found found' => exact ⟨⟨found, rfl⟩, found', rfl⟩
    | blocked index e => cases hprint
  | blocked index e =>
    cases r with
    | found found => cases hprint
    | blocked index' e' => exact absurd rfl h

/-- **There is a conflict exactly if a usage can tell two of those that take part apart.** -/
theorem conflicting_iff {schemas : List Definition} :
    (∃ report, checkCompatibility path request schemas = .ok (.conflicting report)) ↔
      ∃ l ∈ (presences path schemas).1, ∃ r ∈ (presences path schemas).1,
        l.print? request ≠ r.print? request := by
  rcases checkCompatibility_cases path request schemas with ⟨hnone, e, he⟩ |
    ⟨-, hprints, differing, hok, -⟩ | ⟨baseline, before, other, after, d, hpresent, -, herror, hok⟩
  · refine iff_of_false (by rw [he]; rintro ⟨report, h⟩; cases h) ?_
    rintro ⟨l, hl, r, hr, hne⟩
    have hnofound : ∀ found, Presence.found found ∉ (presences path schemas).1 := by
      intro found hmem
      obtain ⟨d, hd, hpresence⟩ := mem_presences_iff.mp hmem
      exact hnone d hd (has_iff_presence?.mpr ⟨found, hpresence⟩)
    rcases exists_found_of_print?_ne hne with ⟨found, rfl⟩ | ⟨found, rfl⟩
    · exact hnofound found hl
    · exact hnofound found hr
  · refine iff_of_false ?_ ?_
    · rintro ⟨report, h⟩
      rw [hok] at h
      exact Verdict.ofIgnored_ne_conflicting differing report (Except.ok.inj h)
    · rintro ⟨l, hl, r, hr, hne⟩
      exact hne (hprints l hl r hr)
  · refine iff_of_true ⟨_, hok⟩ ⟨baseline, ?_, other, ?_, print?_ne_of_comparePresences herror⟩
    · simp [hpresent]
    · simp [hpresent]

theorem mem_ignored_iff {schemas : List Definition} {v : Verdict}
    (h : checkCompatibility path request schemas = .ok v) (hv : v.isConflicting = false)
    (a : Attribute) :
    a ∈ v.ignored ↔ ∃ l ∈ (presences path schemas).1, ∃ r ∈ (presences path schemas).1,
      l.shows a ≠ r.shows a := by
  rcases checkCompatibility_cases path request schemas with ⟨-, e, he⟩ |
    ⟨-, -, differing, hok, hdiffering⟩ | ⟨_, _, _, _, _, -, -, -, hok⟩
  · cases h.symm.trans he
  · cases h.symm.trans hok
    rw [Verdict.mem_ignored_ofIgnored]
    exact hdiffering a
  · cases h.symm.trans hok
    cases hv

theorem exists_verdict_of_has (request : CompatibilityRequest) {schemas : List Definition}
    (h : ∃ d ∈ schemas, d.Has path) :
    ∃ v, checkCompatibility path request schemas = .ok v := by
  rcases checkCompatibility_cases path request schemas with ⟨hnone, -⟩ |
    ⟨-, -, differing, hok, -⟩ | ⟨_, _, _, _, _, -, -, -, hok⟩
  · obtain ⟨d, hd, hfield⟩ := h
    exact absurd hfield (hnone d hd)
  · exact ⟨_, hok⟩
  · exact ⟨_, hok⟩

theorem nodup_ignored {schemas : List Definition} {v : Verdict}
    (h : checkCompatibility path request schemas = .ok v) : v.ignored.Nodup := by
  rcases checkCompatibility_cases path request schemas with ⟨-, e, he⟩ |
    ⟨-, -, differing, hok, -⟩ | ⟨_, _, _, _, _, -, -, -, hok⟩
  · cases h.symm.trans he
  · cases h.symm.trans hok
    rw [Verdict.ignored_ofIgnored]
    exact Attribute.nodup_all.filter _
  · cases h.symm.trans hok
    exact List.nodup_nil

end Compatibility

open Compatibility

variable {path : FieldPath} {request : CompatibilityRequest}

/-! ## Pairs -/

/-- Two indexes on their own are in conflict. -/
def Conflicts (path : FieldPath) (request : CompatibilityRequest) (a b : Definition) : Prop :=
  ∃ report, checkCompatibility path request [a, b] = .ok (.conflicting report)

theorem mem_presences_pair {a b : Definition} {p : Presence} :
    p ∈ (presences path [a, b]).1 ↔ presence? path a = some p ∨ presence? path b = some p := by
  simp [mem_presences_iff]

theorem conflicts_iff {a b : Definition} :
    Conflicts path request a b ↔ ∃ l r, presence? path a = some l ∧ presence? path b = some r ∧
      l.print? request ≠ r.print? request := by
  unfold Conflicts
  rw [conflicting_iff]
  simp only [mem_presences_pair]
  constructor
  · rintro ⟨l, hl | hl, r, hr | hr, hne⟩
    · cases hl.symm.trans hr
      exact absurd rfl hne
    · exact ⟨l, r, hl, hr, hne⟩
    · exact ⟨r, l, hr, hl, hne.symm⟩
    · cases hl.symm.trans hr
      exact absurd rfl hne
  · rintro ⟨l, r, hl, hr, hne⟩
    exact ⟨l, .inl hl, r, .inr hr, hne⟩

theorem Conflicts.symm {a b : Definition} (h : Conflicts path request a b) :
    Conflicts path request b a := by
  obtain ⟨l, r, hl, hr, hne⟩ := conflicts_iff.mp h
  exact conflicts_iff.mpr ⟨r, l, hr, hl, hne.symm⟩

/-- There is a conflict among indexes exactly if two of them are in conflict. -/
theorem conflicting_iff_conflicts {schemas : List Definition} :
    (∃ report, checkCompatibility path request schemas = .ok (.conflicting report)) ↔
      ∃ a ∈ schemas, ∃ b ∈ schemas, a ≠ b ∧ Conflicts path request a b := by
  rw [conflicting_iff]
  constructor
  · rintro ⟨l, hl, r, hr, hne⟩
    obtain ⟨a, ha, hpa⟩ := mem_presences_iff.mp hl
    obtain ⟨b, hb, hpb⟩ := mem_presences_iff.mp hr
    refine ⟨a, ha, b, hb, ?_, conflicts_iff.mpr ⟨l, r, hpa, hpb, hne⟩⟩
    rintro rfl
    cases hpa.symm.trans hpb
    exact hne rfl
  · rintro ⟨a, ha, b, hb, -, h⟩
    obtain ⟨l, r, hl, hr, hne⟩ := conflicts_iff.mp h
    exact ⟨l, mem_presences_iff.mpr ⟨a, ha, hl⟩, r, mem_presences_iff.mpr ⟨b, hb, hr⟩, hne⟩

/-- What compatible indexes differ in is what two of them that have the field differ in. -/
theorem mem_ignored_iff_pair {schemas : List Definition} {v : Verdict}
    (h : checkCompatibility path request schemas = .ok v) (hv : v.isConflicting = false)
    (attr : Attribute) :
    attr ∈ v.ignored ↔ ∃ a ∈ schemas, ∃ b ∈ schemas, a ≠ b ∧ a.Has path ∧ b.Has path ∧
      ∃ w, checkCompatibility path request [a, b] = .ok w ∧ attr ∈ w.ignored := by
  have hnoconflict : ∀ a ∈ schemas, ∀ b ∈ schemas, ¬ Conflicts path request a b := by
    intro a ha b hb hconflicts
    have hne : a ≠ b := by
      rintro rfl
      obtain ⟨l, r, hl, hr, hne⟩ := conflicts_iff.mp hconflicts
      cases hl.symm.trans hr
      exact hne rfl
    obtain ⟨report, hreport⟩ := conflicting_iff_conflicts.mpr ⟨a, ha, b, hb, hne, hconflicts⟩
    cases h.symm.trans hreport
    cases hv
  rw [mem_ignored_iff h hv]
  constructor
  · rintro ⟨l, hl, r, hr, hne⟩
    obtain ⟨a, ha, hpa⟩ := mem_presences_iff.mp hl
    obtain ⟨b, hb, hpb⟩ := mem_presences_iff.mp hr
    have hprint : l.print? request = r.print? request := by
      by_contra hprint
      exact hnoconflict a ha b hb (conflicts_iff.mpr ⟨l, r, hpa, hpb, hprint⟩)
    obtain ⟨⟨fa, rfl⟩, fb, rfl⟩ := found_of_shows_ne hprint hne
    have hfa : a.Has path := has_iff_presence?.mpr ⟨fa, hpa⟩
    have hpair : ∃ d ∈ [a, b], d.Has path := ⟨a, List.mem_cons_self, hfa⟩
    obtain ⟨w, hw⟩ := exists_verdict_of_has request hpair
    refine ⟨a, ha, b, hb, ?_, hfa, has_iff_presence?.mpr ⟨fb, hpb⟩, w, hw, ?_⟩
    · rintro rfl
      cases hpa.symm.trans hpb
      exact hne rfl
    · have hcompatible : w.isConflicting = false := by
        cases w with
        | conflicting report => exact absurd ⟨report, hw⟩ (hnoconflict a ha b hb)
        | compatible | compatibleIgnoring ignored => rfl
      exact (mem_ignored_iff hw hcompatible attr).mpr
        ⟨_, mem_presences_pair.mpr (.inl hpa), _, mem_presences_pair.mpr (.inr hpb), hne⟩
  · rintro ⟨a, ha, b, hb, -, -, -, w, hw, hmem⟩
    have hcompatible : w.isConflicting = false := by
      cases w with
      | conflicting report => cases hmem
      | compatible | compatibleIgnoring ignored => rfl
    obtain ⟨l, hl, r, hr, hne⟩ := (mem_ignored_iff hw hcompatible attr).mp hmem
    have hsub : ∀ p ∈ (presences path [a, b]).1, p ∈ (presences path schemas).1 := by
      intro p hp
      rcases mem_presences_pair.mp hp with hp | hp
      · exact mem_presences_iff.mpr ⟨a, ha, hp⟩
      · exact mem_presences_iff.mpr ⟨b, hb, hp⟩
    exact ⟨l, hsub l hl, r, hsub r hr, hne⟩

/-! ## Order, and indexes that lack the field -/

/-- The same outcome, whichever conflict is reported and whichever index an error names. -/
inductive SameOutcome : Except SchemaError Verdict → Except SchemaError Verdict → Prop
  | error {e e' : SchemaError} (h : e.ctorIdx = e'.ctorIdx) : SameOutcome (.error e) (.error e')
  | conflicting (report report' : ConflictReport) :
      SameOutcome (.ok (.conflicting report)) (.ok (.conflicting report'))
  | compatible {v : Verdict} (h : v.isConflicting = false) : SameOutcome (.ok v) (.ok v)

theorem mem_presences_of_perm {schemas schemas' : List Definition} (h : schemas.Perm schemas')
    {p : Presence} : p ∈ (presences path schemas).1 ↔ p ∈ (presences path schemas').1 := by
  simp only [mem_presences_iff, h.mem_iff]

theorem conflicting_of_perm {schemas schemas' : List Definition} (h : schemas.Perm schemas')
    (hconflict : ∃ report, checkCompatibility path request schemas = .ok (.conflicting report)) :
    ∃ report, checkCompatibility path request schemas' = .ok (.conflicting report) := by
  rw [conflicting_iff] at hconflict ⊢
  simpa only [mem_presences_of_perm h] using hconflict

/-- **The order of the indexes does not matter.** -/
theorem checkCompatibility_perm {schemas schemas' : List Definition} (h : schemas.Perm schemas') :
    SameOutcome (checkCompatibility path request schemas)
      (checkCompatibility path request schemas') := by
  rcases checkCompatibility_cases path request schemas with ⟨hnone, -⟩ |
    ⟨hhas, hprints, differing, hok, hdiffering⟩ | ⟨_, _, _, _, _, -, -, -, hok⟩
  · have hnone' : ∀ d ∈ schemas', ¬ d.Has path := fun d hd => hnone d (h.mem_iff.mpr hd)
    obtain ⟨e, he, hcause⟩ := error_of_not_has request hnone
    obtain ⟨e', he', hcause'⟩ := error_of_not_has request hnone'
    rw [he, he']
    refine .error ?_
    rcases hcause with ⟨rfl, rfl⟩ | ⟨⟨d, hd, hr⟩, hunknown⟩
    · rcases hcause' with ⟨-, rfl⟩ | ⟨⟨d, hd, -⟩, -⟩
      · rfl
      · cases h.mem_iff.mpr hd
    · rcases hcause' with ⟨rfl, -⟩ | ⟨⟨d', hd', hr'⟩, hunknown'⟩
      · cases h.mem_iff.mp hd
      · refine Definition.ctorIdx_eq_of_resolve_error hr hr' ?_
        rw [Bool.eq_iff_iff, hunknown, hunknown']
        simp only [h.mem_iff]
  · rcases checkCompatibility_cases path request schemas' with ⟨hnone', -⟩ |
      ⟨-, -, differing', hok', hdiffering'⟩ | ⟨_, _, _, _, _, -, -, -, hok'⟩
    · obtain ⟨d, hd, hfield⟩ := hhas
      exact absurd hfield (hnone' d (h.mem_iff.mp hd))
    · have hsame : Verdict.ofIgnored differing = Verdict.ofIgnored differing' := by
        refine Verdict.ofIgnored_congr fun a => ?_
        rw [hdiffering, hdiffering']
        simp only [mem_presences_of_perm h]
      rw [hok, hok', hsame]
      exact .compatible (Verdict.isConflicting_ofIgnored differing')
    · obtain ⟨report, hreport⟩ := conflicting_of_perm h.symm ⟨_, hok'⟩
      rw [hok] at hreport
      exact absurd (Except.ok.inj hreport) (Verdict.ofIgnored_ne_conflicting differing report)
  · obtain ⟨report, hreport⟩ := conflicting_of_perm h ⟨_, hok⟩
    rw [hok, hreport]
    exact .conflicting _ report

/-- **Indexes that lack the field play no part.** -/
theorem checkCompatibility_congr {schemas schemas' : List Definition}
    (h : schemas'.filter (fun d => !d.lacks path) = schemas.filter fun d => !d.lacks path)
    (hhas : ∃ d ∈ schemas, d.Has path) :
    checkCompatibility path request schemas' = checkCompatibility path request schemas := by
  have hpresences : ∀ ds : List Definition, (presences path ds).1 =
      (ds.filter fun d => !d.lacks path).filterMap (presence? path) := by
    intro ds
    rw [presences_fst, List.filterMap_filter]
    refine List.filterMap_congr fun d _ => ?_
    cases hlacks : d.lacks path with
    | false => rfl
    | true => exact presence?_eq_none_iff.mpr hlacks
  obtain ⟨d, hd, hfield⟩ := hhas
  obtain ⟨r, hr⟩ := has_iff_presence?.mp hfield
  have hmem : Presence.found r ∈ (presences path schemas).1 := mem_presences_iff.mpr ⟨d, hd, hr⟩
  obtain ⟨baseline, others, hpresent⟩ := List.exists_cons_of_ne_nil (List.ne_nil_of_mem hmem)
  have hpresent' : (presences path schemas').1 = baseline :: others := by
    rw [hpresences, h, ← hpresences, hpresent]
  rw [checkCompatibility_eq request hpresent ⟨r, hpresent ▸ hmem⟩,
    checkCompatibility_eq request hpresent' ⟨r, hpresent ▸ hmem⟩]

/-! ## What is reported -/

/-- The report is about these two indexes: the first that does not lack the field, and the first
    that is in conflict with it. -/
structure IsReported (path : FieldPath) (request : CompatibilityRequest)
    (schemas : List Definition) (report : ConflictReport) (left right : Definition) : Prop where
  left_iff : ∀ d ∈ schemas, d.index = report.leftIndex ↔ d = left
  right_iff : ∀ d ∈ schemas, d.index = report.rightIndex ↔ d = right
  /-- On their own the two are in the same conflict. -/
  verdict_eq : checkCompatibility path request [left, right] = .ok (.conflicting report)
  not_lacks : left.lacks path = false
  first : ∃ before between after, schemas = before ++ left :: (between ++ right :: after) ∧
    (∀ d ∈ before, d.lacks path = true) ∧
    ∀ d ∈ before ++ left :: between, ¬ Conflicts path request left d

theorem exists_reported {schemas : List Definition}
    (hnames : (schemas.map Definition.index).Nodup) {report : ConflictReport}
    (h : checkCompatibility path request schemas = .ok (.conflicting report)) :
    ∃ left right, IsReported path request schemas report left right := by
  rcases checkCompatibility_cases path request schemas with ⟨-, e, he⟩ |
    ⟨-, -, differing, hok, -⟩ | ⟨baseline, before, other, after, d, hpresent, hbefore, herror, hok⟩
  · cases h.symm.trans he
  · rw [hok] at h
    exact absurd (Except.ok.inj h) (Verdict.ofIgnored_ne_conflicting differing report)
  · cases h.symm.trans hok
    rw [presences_fst, List.filterMap_eq_cons_iff] at hpresent
    obtain ⟨lacking, left, rest, rfl, hlacking, hleft, hrest⟩ := hpresent
    obtain ⟨m, n, rfl, hm, hn⟩ := List.filterMap_eq_append_iff.mp hrest
    obtain ⟨skipped, right, rest, rfl, hskipped, hright, -⟩ := List.filterMap_eq_cons_iff.mp hn
    have hne := print?_ne_of_comparePresences herror
    have hleftMem : left ∈ lacking ++ left :: (m ++ (skipped ++ right :: rest)) := by simp
    have hrightMem : right ∈ lacking ++ left :: (m ++ (skipped ++ right :: rest)) := by simp
    have hunique := List.inj_on_of_nodup_map hnames
    refine ⟨left, right, ?_, ?_, ?_, ?_, lacking, m ++ skipped, rest, by simp, ?_, ?_⟩
    · intro d hd
      rw [index_of_presence? hleft]
      exact ⟨hunique hd hleftMem, congrArg Definition.index⟩
    · intro d hd
      rw [index_of_presence? hright]
      exact ⟨hunique hd hrightMem, congrArg Definition.index⟩
    · have hpair : (presences path [left, right]).1 = [baseline, other] := by
        simp [presences_fst, hleft, hright]
      have hfound : ∃ r, Presence.found r ∈ [baseline, other] := by
        rcases exists_found_of_print?_ne hne with ⟨r, rfl⟩ | ⟨r, rfl⟩ <;> exact ⟨r, by simp⟩
      rw [checkCompatibility_eq request hpair hfound, compareAll, herror]
    · cases hlacks : left.lacks path with
      | false => rfl
      | true =>
        rw [presence?_eq_none_iff.mpr hlacks] at hleft
        cases hleft
    · intro d hd
      exact presence?_eq_none_iff.mp (hlacking d hd)
    · intro d hd hconflicts
      obtain ⟨l, r, hl, hr, hdiffers⟩ := conflicts_iff.mp hconflicts
      cases hleft.symm.trans hl
      simp only [List.mem_append, List.mem_cons] at hd
      rcases hd with hd | rfl | hd | hd
      · cases (hlacking d hd).symm.trans hr
      · cases hl.symm.trans hr
        exact hdiffers rfl
      · exact hdiffers (hbefore r (hm ▸ List.mem_filterMap.mpr ⟨d, hd, hr⟩))
      · cases (hskipped d hd).symm.trans hr

/-- **The verdict on many indexes is about any two of them.** Where some index has the field, there
    is a conflict exactly if two indexes are in conflict, which is a symmetric matter, and otherwise
    what is ignored is what is ignored between two that have the field. The order of the indexes
    does not matter, nor do indexes that lack the field. A conflict that is reported is the one of
    the two indexes that it names. -/
theorem verdict_pairwise {schemas : List Definition} (path : FieldPath)
    (request : CompatibilityRequest) (hnames : (schemas.map Definition.index).Nodup) :
    ((∃ d ∈ schemas, d.Has path) → ∃ v, checkCompatibility path request schemas = .ok v ∧
      (v.isConflicting = true ↔
        ∃ a ∈ schemas, ∃ b ∈ schemas, a ≠ b ∧ Conflicts path request a b) ∧
      (v.isConflicting = false → v.ignored.Nodup ∧ ∀ attr, attr ∈ v.ignored ↔
        ∃ a ∈ schemas, ∃ b ∈ schemas, a ≠ b ∧ a.Has path ∧ b.Has path ∧
          ∃ w, checkCompatibility path request [a, b] = .ok w ∧ attr ∈ w.ignored)) ∧
    (∀ a b, Conflicts path request a b ↔ Conflicts path request b a) ∧
    (∀ schemas', schemas.Perm schemas' → SameOutcome (checkCompatibility path request schemas)
      (checkCompatibility path request schemas')) ∧
    (∀ schemas', schemas'.filter (fun d => !d.lacks path) =
        schemas.filter (fun d => !d.lacks path) → (∃ d ∈ schemas, d.Has path) →
      checkCompatibility path request schemas' = checkCompatibility path request schemas) ∧
    ∀ report, checkCompatibility path request schemas = .ok (.conflicting report) →
      ∃ left right, IsReported path request schemas report left right := by
  refine ⟨?_, fun a b => ⟨.symm, .symm⟩, fun schemas' => checkCompatibility_perm,
    fun schemas' => checkCompatibility_congr, fun report => exists_reported hnames⟩
  intro hhas
  obtain ⟨v, hv⟩ := exists_verdict_of_has request hhas
  refine ⟨v, hv, ?_, fun hcompatible => ⟨nodup_ignored hv, mem_ignored_iff_pair hv hcompatible⟩⟩
  rw [← conflicting_iff_conflicts, hv]
  cases v <;> simp

namespace Sample

/-- An index without colors. -/
def colorless : Schema where
  index := "d"
  fields := [("title", .value .keyword)]
  valid := by decide +kernel

/-- An index that lacks the field, and two that do not agree on it. -/
def shelves : List Definition :=
  [colorless.toDefinition, plain.toDefinition, counted.toDefinition]

end Sample

/-- What `verdict_pairwise` says of three indexes: to match a color they are in conflict, which is
    the conflict of the last two, in whatever order they come and with or without the first; to ask
    whether there is a color they are compatible, and the type that is ignored differs between two
    of them. -/
theorem verdict_pairwise_sample :
    let path : FieldPath := ⟨Sample.color, []⟩
    let toMatch : CompatibilityRequest := ⟨.matching, .none⟩
    let toAsk : CompatibilityRequest := ⟨.exists, .none⟩
    (Sample.shelves.map Definition.index).Nodup ∧
    (∃ report left right,
      checkCompatibility path toMatch Sample.shelves = .ok (.conflicting report) ∧
        IsReported path toMatch Sample.shelves report left right) ∧
    SameOutcome (checkCompatibility path toMatch Sample.shelves)
      (checkCompatibility path toMatch Sample.shelves.reverse) ∧
    checkCompatibility path toMatch Sample.shelves.tail =
      checkCompatibility path toMatch Sample.shelves ∧
    ∃ v, checkCompatibility path toAsk Sample.shelves = .ok v ∧ v.isConflicting = false ∧
      ∃ a ∈ Sample.shelves, ∃ b ∈ Sample.shelves, a ≠ b ∧ a.Has path ∧ b.Has path ∧
        ∃ w, checkCompatibility path toAsk [a, b] = .ok w ∧ Attribute.fieldType ∈ w.ignored := by
  intro path toMatch toAsk
  have hnames : (Sample.shelves.map Definition.index).Nodup := by decide +kernel
  have hhas : ∃ d ∈ Sample.shelves, d.Has path :=
    ⟨Sample.plain.toDefinition, by simp [Sample.shelves], _, rfl⟩
  have hlacks : Sample.shelves.tail.filter (fun d => !d.lacks path) =
      Sample.shelves.filter fun d => !d.lacks path := rfl
  obtain ⟨hverdict, -, hperm, hcongr, hreported⟩ := verdict_pairwise path toMatch hnames
  refine ⟨hnames, ?_, hperm _ (List.reverse_perm _).symm, hcongr _ hlacks hhas, ?_⟩
  · have hconflict : (checkCompatibility path toMatch Sample.shelves).toOption.any
        Verdict.isConflicting = true := by decide +kernel
    obtain ⟨v, hv, -⟩ := hverdict hhas
    rw [hv] at hconflict
    cases v with
    | conflicting report =>
      obtain ⟨left, right, h⟩ := hreported report hv
      exact ⟨report, left, right, hv, h⟩
    | compatible | compatibleIgnoring ignored => cases hconflict
  · have hcompatible : (checkCompatibility path toAsk Sample.shelves).toOption.any (fun v =>
        !v.isConflicting && v.ignored.contains .fieldType) = true := by decide +kernel
    obtain ⟨v, hv, -, hignored⟩ := (verdict_pairwise path toAsk hnames).1 hhas
    rw [hv] at hcompatible
    simp only [Except.toOption, Option.any_some, Bool.and_eq_true, Bool.not_eq_true',
      List.contains_iff_mem] at hcompatible
    obtain ⟨hno, hmem⟩ := hcompatible
    exact ⟨v, hv, hno, ((hignored hno).2 _).mp hmem⟩

end NestedSearch
