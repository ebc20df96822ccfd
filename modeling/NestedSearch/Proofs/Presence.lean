import NestedSearch.Proofs.Fingerprint
import NestedSearch.Proofs.Resolution

/-!
# Which indexes take part, and what comes of it

An index takes part in the comparison of a field if it has the field, or a value on the way to it;
one that lacks the field does not. `checkCompatibility` looks at every index that takes part beside
the first one, and stops at the first that differs (`checkCompatibility_cases`). What a pair is
compared by is a print of either index (`comparePresences_eq_ok_iff`), and what a compatible pair
differs in is what the two show differently (`mem_iff_of_comparePresences`).
-/

namespace NestedSearch

/-! ## Verdicts -/

theorem Attribute.mem_all (a : Attribute) : a ∈ all := by
  cases a <;> simp [all]

theorem Attribute.nodup_all : all.Nodup := by decide

namespace Verdict

/-- The attributes that differ without mattering. -/
def ignored : Verdict → List Attribute
  | .compatibleIgnoring ignored => ignored
  | .compatible | .conflicting _ => []

/-- The verdict on indexes that differ in these attributes, none of which matters. -/
def ofIgnored (differing : List Attribute) : Verdict :=
  if differing.isEmpty then .compatible
  else .compatibleIgnoring (Attribute.all.filter differing.contains)

@[simp] theorem isConflicting_ofIgnored (differing : List Attribute) :
    (ofIgnored differing).isConflicting = false := by
  unfold ofIgnored
  split <;> rfl

theorem ofIgnored_ne_conflicting (differing : List Attribute) (report : ConflictReport) :
    ofIgnored differing ≠ .conflicting report := by
  intro h
  have hcompatible := isConflicting_ofIgnored differing
  rw [h] at hcompatible
  cases hcompatible

theorem ignored_ofIgnored (differing : List Attribute) :
    (ofIgnored differing).ignored = Attribute.all.filter differing.contains := by
  cases differing <;> simp [ofIgnored, ignored]

theorem mem_ignored_ofIgnored {differing : List Attribute} {a : Attribute} :
    a ∈ (ofIgnored differing).ignored ↔ a ∈ differing := by
  rw [ignored_ofIgnored, List.mem_filter]
  simp [Attribute.mem_all]

theorem ofIgnored_congr {differing other : List Attribute}
    (h : ∀ a, a ∈ differing ↔ a ∈ other) : ofIgnored differing = ofIgnored other := by
  have hempty : differing.isEmpty = other.isEmpty := by
    rw [Bool.eq_iff_iff, List.isEmpty_iff, List.isEmpty_iff, List.eq_nil_iff_forall_not_mem,
      List.eq_nil_iff_forall_not_mem]
    exact forall_congr' fun a => not_congr (h a)
  have hcontains : differing.contains = other.contains := by
    funext a
    rw [Bool.eq_iff_iff]
    simpa using h a
  unfold ofIgnored
  rw [hempty, hcontains]

end Verdict

namespace Compatibility

variable {request : CompatibilityRequest} {path : FieldPath}

/-! ## Which indexes take part -/

/-- How an index takes part in the comparison, if it does. -/
def presence? (path : FieldPath) (d : Definition) : Option Presence :=
  match d.resolve path with
  | .ok r => some (.found r)
  | .error e => if e.isUnknownField then none else some (.blocked d.index e)

theorem presences_fst (path : FieldPath) (schemas : List Definition) :
    (presences path schemas).1 = schemas.filterMap (presence? path) := by
  induction schemas with
  | nil => rfl
  | cons d ds ih =>
    rw [presences, List.filterMap_cons, presence?]
    cases hr : d.resolve path with
    | ok r => simp [ih]
    | error e => cases hunknown : e.isUnknownField <;> simp [hunknown, ih]

/-! ## Two that take part -/

/-- What a usage depends on in an index that takes part. Those with a value on the way have nothing
    of the kind, and are all alike. -/
def Presence.print? (request : CompatibilityRequest) (p : Presence) : Option Fingerprint :=
  p.found?.map (fingerprint request)

/-- What an index that takes part shows of an attribute, whether a usage depends on it or not. -/
def Presence.shows : Presence → Attribute → String
  | .found ⟨_, _, _, .value f⟩, a => shownAs f a
  | .found ⟨_, _, _, .object _ multiValued _⟩, .multiValued => shownFlag multiValued
  | _, _ => ""

theorem comparePresences_eq_ok_iff {l r : Presence} :
    (∃ ignored, comparePresences request l r = .ok ignored) ↔
      l.print? request = r.print? request := by
  cases l with
  | found l =>
    cases r with
    | found r => simpa [comparePresences, Presence.print?, Presence.found?] using compare_eq_ok_iff
    | blocked index e => simp [comparePresences, Presence.print?, Presence.found?]
  | blocked index e =>
    cases r with
    | found r => simp [comparePresences, Presence.print?, Presence.found?]
    | blocked index' e' => simp [comparePresences, Presence.print?, Presence.found?]

theorem eq_of_settle {matters : Attribute → Bool} {differences : List Difference}
    {ignored : List Attribute} (h : settle matters differences = .ok ignored) :
    ignored = differences.map Difference.attr := by
  unfold settle at h
  split at h
  · cases h
  · cases h
    rfl

theorem mem_valueDifferences_iff {f g : ValueField} {a : Attribute} :
    a ∈ (valueDifferences f g).map Difference.attr ↔ shownAs f a ≠ shownAs g a := by
  rw [valueDifferences_eq, List.mem_map]
  constructor
  · rintro ⟨d, hd, rfl⟩
    obtain ⟨hmap, hne⟩ := List.mem_filter.mp hd
    obtain ⟨a, -, rfl⟩ := List.mem_map.mp hmap
    simpa using hne
  · intro hne
    refine ⟨⟨a, shownAs f a, shownAs g a⟩, List.mem_filter.mpr ⟨?_, by simpa using hne⟩, rfl⟩
    -- What value fields are not compared by, they do not show.
    cases a <;> first | exact absurd rfl hne | simp [compared]

/-- **What a compatible pair differs in** is what the two show differently. -/
theorem mem_iff_of_comparePresences {l r : Presence} {ignored : List Attribute}
    (h : comparePresences request l r = .ok ignored) (a : Attribute) :
    a ∈ ignored ↔ l.shows a ≠ r.shows a := by
  cases l with
  | blocked index e =>
    cases r with
    | found r => cases h
    | blocked index' e' =>
      cases h
      simp [Presence.shows]
  | found l =>
    cases r with
    | blocked index e => cases h
    | found r =>
      obtain ⟨li, lp, lc, ln⟩ := l
      obtain ⟨ri, rp, rc, rn⟩ := r
      have hprint := compare_eq_ok_iff.mp ⟨ignored, h⟩
      have hchain : lc = rc := congrArg Fingerprint.chain hprint
      subst hchain
      simp only [comparePresences, compare, if_true, List.nil_append] at h
      cases ln with
      | value f =>
        cases rn with
        | object storage multiValued children => cases h
        | value g =>
          simp only at h
          split at h
          · cases h
          · rw [eq_of_settle h]
            exact mem_valueDifferences_iff
      | object ls lm lcs =>
        cases rn with
        | value g => cases h
        | object rs rm rcs =>
          simp only at h
          split at h
          · cases h
          · rw [eq_of_settle h]
            cases lm <;> cases rm <;> cases a <;> simp [Presence.shows, shownFlag]

/-! ## All that take part -/

/-- The others agree with the baseline, or one of them is the first that does not. -/
theorem compareAll_cases (path : FieldPath) (request : CompatibilityRequest) (baseline : Presence)
    (others : List Presence) :
    (∃ ignored, compareAll path request baseline others = .ok ignored ∧
        (∀ o ∈ others, baseline.print? request = o.print? request) ∧
        ∀ a, a ∈ ignored ↔ ∃ o ∈ others, baseline.shows a ≠ o.shows a) ∨
      ∃ before other after d, others = before ++ other :: after ∧
        (∀ o ∈ before, baseline.print? request = o.print? request) ∧
        comparePresences request baseline other = .error d ∧
        compareAll path request baseline others =
          .error ⟨path, request.usage, d.attr, d.left, d.right, baseline.index, other.index⟩ := by
  induction others with
  | nil => exact .inl ⟨[], rfl, by simp, by simp⟩
  | cons other others ih =>
    rw [compareAll]
    cases hfirst : comparePresences request baseline other with
    | error d => exact .inr ⟨[], other, others, d, rfl, by simp, hfirst, rfl⟩
    | ok attributes =>
      have hprint := comparePresences_eq_ok_iff.mp ⟨attributes, hfirst⟩
      have hattributes := mem_iff_of_comparePresences hfirst
      rcases ih with ⟨ignored, hall, hprints, hignored⟩ |
        ⟨before, late, after, d, rfl, hbefore, herror, hall⟩
      · refine .inl ⟨attributes ++ ignored, by rw [hall]; rfl, ?_, ?_⟩
        · exact List.forall_mem_cons.mpr ⟨hprint, hprints⟩
        · intro a
          rw [List.mem_append, hattributes, hignored, List.exists_mem_cons_iff]
      · refine .inr ⟨other :: before, late, after, d, rfl, ?_, herror, by rw [hall]; rfl⟩
        exact List.forall_mem_cons.mpr ⟨hprint, hbefore⟩

theorem mem_presences_iff {schemas : List Definition} {p : Presence} :
    p ∈ (presences path schemas).1 ↔ ∃ d ∈ schemas, presence? path d = some p := by
  rw [presences_fst, List.mem_filterMap]

/-- Where some index has the field, the comparison with the first that takes part decides. -/
theorem checkCompatibility_eq (request : CompatibilityRequest) {schemas : List Definition}
    {baseline : Presence} {others : List Presence}
    (hpresent : (presences path schemas).1 = baseline :: others)
    (hfound : ∃ r, Presence.found r ∈ baseline :: others) :
    checkCompatibility path request schemas =
      match compareAll path request baseline others with
      | .error report => .ok (.conflicting report)
      | .ok ignored => .ok (.ofIgnored ignored) := by
  have hsome : ∃ r, (baseline :: others).findSome? Presence.found? = some r := by
    rw [← Option.isSome_iff_exists, List.findSome?_isSome_iff]
    obtain ⟨r, hr⟩ := hfound
    exact ⟨_, hr, rfl⟩
  obtain ⟨r, hr⟩ := hsome
  unfold checkCompatibility
  simp only [hpresent, hr]
  cases compareAll path request baseline others with
  | error report => rfl
  | ok ignored =>
    unfold Verdict.ofIgnored
    simp only
    split <;> rfl

end Compatibility

/-! ## Indexes that have the field, and indexes that lack it -/

namespace Definition

/-- The path leads to a field of the index. -/
def Has (d : Definition) (path : FieldPath) : Prop := ∃ r, d.resolve path = .ok r

/-- The path is unknown in the index: it leads nowhere, and no value is on the way. -/
def lacks (d : Definition) (path : FieldPath) : Bool :=
  match d.resolve path with
  | .ok _ => false
  | .error e => e.isUnknownField

end Definition

namespace Compatibility

variable {request : CompatibilityRequest} {path : FieldPath}

theorem presence?_eq_none_iff {d : Definition} : presence? path d = none ↔ d.lacks path = true := by
  unfold presence? Definition.lacks
  cases d.resolve path with
  | ok r => simp
  | error e => cases e.isUnknownField <;> simp

theorem has_iff_presence? {d : Definition} :
    d.Has path ↔ ∃ r, presence? path d = some (.found r) := by
  unfold presence? Definition.Has
  cases d.resolve path with
  | ok r => simp
  | error e => cases e.isUnknownField <;> simp

theorem blocked_iff_presence? {d : Definition} {index : String} {e : SchemaError} :
    presence? path d = some (.blocked index e) ↔
      index = d.index ∧ d.resolve path = .error e ∧ e.isUnknownField = false := by
  unfold presence?
  cases d.resolve path with
  | ok r => simp
  | error e' => cases h : e'.isUnknownField <;> grind

theorem index_of_presence? {d : Definition} {p : Presence} (h : presence? path d = some p) :
    p.index = d.index := by
  cases p with
  | blocked index e => exact (blocked_iff_presence?.mp h).1
  | found r =>
    have hr : d.resolve path = .ok r := by
      unfold presence? at h
      cases hr : d.resolve path with
      | ok r' =>
        rw [hr] at h
        cases h
        rfl
      | error e =>
        rw [hr] at h
        cases hunknown : e.isUnknownField <;> simp [hunknown] at h
    obtain ⟨node, -, rfl⟩ := Definition.resolve_eq_ok_iff.mp hr
    rfl

/-- What goes wrong if no index has the field: there is no index at all, or one of them says why,
    and that the field is unknown only if all of them do. -/
theorem error_of_not_has (request : CompatibilityRequest) {schemas : List Definition}
    (hnone : ∀ d ∈ schemas, ¬ d.Has path) :
    ∃ e, checkCompatibility path request schemas = .error e ∧
      ((schemas = [] ∧ e = .invalid .noSchemas) ∨
        (∃ d ∈ schemas, d.resolve path = .error e) ∧
          (e.isUnknownField = true ↔ ∀ d ∈ schemas, d.lacks path = true)) := by
  have hnofound : ∀ r, Presence.found r ∉ (presences path schemas).1 := by
    intro r hr
    obtain ⟨d, hd, hpresence⟩ := mem_presences_iff.mp hr
    exact hnone d hd (has_iff_presence?.mpr ⟨r, hpresence⟩)
  cases hpresent : (presences path schemas).1 with
  | nil =>
    have hlacks : ∀ d ∈ schemas, d.lacks path = true := by
      intro d hd
      rw [presences_fst, List.filterMap_eq_nil_iff] at hpresent
      exact presence?_eq_none_iff.mp (hpresent d hd)
    cases schemas with
    | nil => exact ⟨_, rfl, .inl ⟨rfl, rfl⟩⟩
    | cons d ds =>
      -- The first index is the one whose error is kept.
      have hfirst := hlacks d List.mem_cons_self
      unfold Definition.lacks at hfirst
      cases hr : d.resolve path with
      | ok r => simp [hr] at hfirst
      | error e =>
        simp only [hr] at hfirst
        refine ⟨e, ?_, .inr ⟨⟨d, List.mem_cons_self, hr⟩, iff_of_true hfirst hlacks⟩⟩
        unfold checkCompatibility
        simp only [hpresent]
        simp [presences, hr, hfirst]
  | cons baseline others =>
    rw [hpresent] at hnofound
    cases baseline with
    | found r => exact absurd List.mem_cons_self (hnofound r)
    | blocked index e =>
      obtain ⟨d, hd, hpresence⟩ := mem_presences_iff.mp (hpresent ▸ List.mem_cons_self)
      obtain ⟨-, hr, hknown⟩ := blocked_iff_presence?.mp hpresence
      refine ⟨e, ?_, .inr ⟨⟨d, hd, hr⟩, iff_of_false (by simp [hknown]) ?_⟩⟩
      · have hnothing : (Presence.blocked index e :: others).findSome? Presence.found? = none := by
          rw [List.findSome?_eq_none_iff]
          intro p hp
          cases p with
          | found r => exact absurd hp (hnofound r)
          | blocked index' e' => rfl
        unfold checkCompatibility
        simp only [hpresent, hnothing]
      · intro hlacks
        have hlack := presence?_eq_none_iff.mpr (hlacks d hd)
        rw [hpresence] at hlack
        cases hlack

/-- **What comes of a comparison.** -/
theorem checkCompatibility_cases (path : FieldPath) (request : CompatibilityRequest)
    (schemas : List Definition) :
    ((∀ d ∈ schemas, ¬ d.Has path) ∧ ∃ e, checkCompatibility path request schemas = .error e) ∨
    ((∃ d ∈ schemas, d.Has path) ∧
      (∀ l ∈ (presences path schemas).1, ∀ r ∈ (presences path schemas).1,
        l.print? request = r.print? request) ∧
      ∃ differing, checkCompatibility path request schemas = .ok (.ofIgnored differing) ∧
        ∀ a, a ∈ differing ↔ ∃ l ∈ (presences path schemas).1, ∃ r ∈ (presences path schemas).1,
          l.shows a ≠ r.shows a) ∨
    ∃ baseline before other after d,
      (presences path schemas).1 = baseline :: (before ++ other :: after) ∧
      (∀ o ∈ before, baseline.print? request = o.print? request) ∧
      comparePresences request baseline other = .error d ∧
      checkCompatibility path request schemas = .ok (.conflicting
        ⟨path, request.usage, d.attr, d.left, d.right, baseline.index, other.index⟩) := by
  by_cases hhas : ∃ d ∈ schemas, d.Has path
  · obtain ⟨d, hd, hfield⟩ := hhas
    obtain ⟨r, hr⟩ := has_iff_presence?.mp hfield
    have hmem : Presence.found r ∈ (presences path schemas).1 := mem_presences_iff.mpr ⟨d, hd, hr⟩
    obtain ⟨baseline, others, hpresent⟩ := List.exists_cons_of_ne_nil (List.ne_nil_of_mem hmem)
    have hcheck := checkCompatibility_eq request hpresent ⟨r, hpresent ▸ hmem⟩
    rcases compareAll_cases path request baseline others with
      ⟨differing, hall, hprints, hdiffering⟩ | ⟨before, other, after, d, rfl, hbefore, herror, hall⟩
    · rw [hall] at hcheck
      rw [hpresent]
      refine .inr (.inl ⟨⟨_, hd, hfield⟩, ?_, differing, hcheck, ?_⟩)
      · have hfirst : ∀ p ∈ baseline :: others, baseline.print? request = p.print? request :=
          List.forall_mem_cons.mpr ⟨rfl, hprints⟩
        intro l hl r hr
        exact (hfirst l hl).symm.trans (hfirst r hr)
      · intro a
        rw [hdiffering]
        constructor
        · rintro ⟨o, ho, hne⟩
          exact ⟨baseline, List.mem_cons_self, o, List.mem_cons_of_mem baseline ho, hne⟩
        · -- Two that differ cannot both be like the baseline.
          rintro ⟨l, hl, r, hr, hne⟩
          by_contra hlike
          have hfirst : ∀ p ∈ baseline :: others, baseline.shows a = p.shows a := by
            refine List.forall_mem_cons.mpr ⟨rfl, fun o ho => ?_⟩
            by_contra hdiffers
            exact hlike ⟨o, ho, hdiffers⟩
          exact hne ((hfirst l hl).symm.trans (hfirst r hr))
    · rw [hall] at hcheck
      exact .inr (.inr ⟨baseline, before, other, after, d, hpresent, hbefore, herror, hcheck⟩)
  · have hnone : ∀ d ∈ schemas, ¬ d.Has path := fun d hd hfield => hhas ⟨d, hd, hfield⟩
    obtain ⟨e, he, -⟩ := error_of_not_has request hnone
    exact .inl ⟨hnone, e, he⟩

theorem exists_found_of_print?_ne {l r : Presence} (h : l.print? request ≠ r.print? request) :
    (∃ found, l = .found found) ∨ ∃ found, r = .found found := by
  cases l with
  | found found => exact .inl ⟨found, rfl⟩
  | blocked index e =>
    cases r with
    | found found => exact .inr ⟨found, rfl⟩
    | blocked index' e' => exact absurd rfl h

theorem print?_ne_of_comparePresences {l r : Presence} {d : Difference}
    (h : comparePresences request l r = .error d) : l.print? request ≠ r.print? request := by
  intro heq
  obtain ⟨ignored, hok⟩ := comparePresences_eq_ok_iff.mpr heq
  rw [h] at hok
  cases hok

end Compatibility
end NestedSearch
