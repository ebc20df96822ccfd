import NestedSearch.Proofs.FieldPath
import NestedSearch.Proofs.Outcome
import NestedSearch.Proofs.Text.Splitting

/-!
# Paths and their dotted form

Reading and writing are inverse to each other. A path is read from its dotted form, and a text from
which a path is read is the dotted form of that path (`FieldPath.parse_eq_ok_iff`), which is so for
every text that does not have an empty component (`FieldPath.exists_parse_iff`).

A path can come from anywhere: read from a text, made of names, or got from other paths. What the
operations on paths do to segments can be done to plain lists of names just as well, without looking
at the names (`FieldPath.Obtained`). The names of the path are then those in the list, whatever has
been done (`Obtained.names_eq`), so that no operation ever makes names that are not the names of a
path.
-/

namespace NestedSearch

namespace FieldPath

/-- What stands between the dots. -/
def components (text : String) : List String :=
  (text.toList.splitOn separator).map String.ofList

/-- Names that make up a path: at least one, and each of them that of a segment. -/
structure IsPath (names : List String) : Prop where
  nonempty : names ≠ []
  segments : ∀ name ∈ names, name ≠ "" ∧ separator ∉ name.toList

/-! ## Names -/

theorem isPath_names (p : FieldPath) : IsPath p.names where
  nonempty := by simp [names, segments]
  segments name h := by
    obtain ⟨s, -, rfl⟩ := List.mem_map.mp h
    exact ⟨s.nonempty, s.unseparated⟩

theorem ofSegments?_eq_some_iff {segments : List Segment} {p : FieldPath} :
    ofSegments? segments = some p ↔ p.segments = segments := by
  cases segments with
  | nil => simp [ofSegments?, FieldPath.segments]
  | cons s rest =>
    rw [ofSegments?, Option.some.injEq]
    exact ⟨fun h => h ▸ rfl, fun h => segments_injective h.symm⟩

/-- Names that all name segments are the names of segments. -/
theorem exists_segments {names : List String}
    (h : ∀ name ∈ names, name ≠ "" ∧ separator ∉ name.toList) :
    ∃ segments : List Segment, segments.map Segment.name = names := by
  induction names with
  | nil => exact ⟨[], rfl⟩
  | cons name names ih =>
    obtain ⟨⟨hne, hunseparated⟩, hrest⟩ := List.forall_mem_cons.mp h
    obtain ⟨segments, hsegments⟩ := ih hrest
    exact ⟨⟨name, hne, hunseparated⟩ :: segments, congrArg (name :: ·) hsegments⟩

theorem exists_names_iff {names : List String} :
    (∃ p : FieldPath, p.names = names) ↔ IsPath names := by
  constructor
  · rintro ⟨p, rfl⟩
    exact p.isPath_names
  · intro h
    obtain ⟨segments, rfl⟩ := exists_segments h.segments
    obtain ⟨s, rest, rfl⟩ := List.exists_cons_of_ne_nil fun hnil => h.nonempty (congrArg _ hnil)
    exact ⟨⟨s, rest⟩, rfl⟩

theorem map_name_of_mapM_ofName {names : List String} {segments : List Segment}
    (h : names.mapM Segment.ofName = .ok segments) : segments.map Segment.name = names := by
  induction names generalizing segments with
  | nil =>
    cases h
    rfl
  | cons name names ih =>
    rw [List.mapM_cons] at h
    obtain ⟨s, hs, h⟩ := bind_eq_ok_iff.mp h
    obtain ⟨rest, hrest, h⟩ := bind_eq_ok_iff.mp h
    cases h
    rw [List.map_cons, Segment.name_of_ofName hs, ih hrest]

/-- A path is made of its own names, and of no other ones. -/
theorem ofNames_eq_ok_iff {names : List String} {p : FieldPath} :
    ofNames names = .ok p ↔ p.names = names := by
  refine ⟨fun h => ?_, fun h => h ▸ ofNames_names p⟩
  unfold ofNames at h
  split at h
  · cases h
  · rename_i segments hsegments
    split at h
    · rename_i q hq
      cases h
      rw [FieldPath.names, ofSegments?_eq_some_iff.mp hq, map_name_of_mapM_ofName hsegments]
    · cases h

theorem single_eq_ofNames (name : String) : single name = ofNames [name] := by
  unfold single ofNames
  rw [List.mapM_cons, List.mapM_nil]
  cases Segment.ofName name <;> rfl

/-! ## Texts -/

theorem intercalate_components (text : String) : ".".intercalate (components text) = text := by
  have hchars : (components text).map String.toList = text.toList.splitOn separator := by
    rw [components, List.map_map]
    exact List.map_id'' (fun _ => String.toList_ofList) _
  apply String.toList_inj.mp
  rw [String.toList_intercalate, hchars]
  exact List.intercalate_splitOn separator

/-- **A path is read from its dotted form and from no other text.** -/
theorem parse_eq_ok_iff {text : String} {p : FieldPath} :
    parse text = .ok p ↔ p.toString = text := by
  refine ⟨fun h => ?_, fun h => h ▸ parse_toString p⟩
  unfold parse at h
  split at h
  · cases h
  · split at h
    · rename_i q hq
      cases h
      rw [toString, ofNames_eq_ok_iff.mp hq]
      exact intercalate_components text
    · cases h

/-- The components of a text hold no dot, so that only empty ones are in the way. -/
theorem isPath_components_iff {text : String} :
    IsPath (components text) ↔ "" ∉ components text := by
  constructor
  · intro h hempty
    exact (h.segments "" hempty).1 rfl
  · intro h
    refine ⟨?_, fun name hname => ⟨fun heq => h (heq ▸ hname), ?_⟩⟩
    · simp [components]
    · obtain ⟨part, hpart, rfl⟩ := List.mem_map.mp hname
      rw [String.toList_ofList]
      exact Text.not_mem_of_mem_splitOn hpart

theorem exists_parse_iff {text : String} :
    (∃ p, parse text = .ok p) ↔ text ≠ "" ∧ "" ∉ components text := by
  rw [← isPath_components_iff, ← exists_names_iff]
  constructor
  · rintro ⟨p, h⟩
    obtain rfl := parse_eq_ok_iff.mp h
    exact ⟨p.toString_ne_empty, p, (splitOn_toString p).symm⟩
  · rintro ⟨-, p, hp⟩
    refine ⟨p, parse_eq_ok_iff.mpr ?_⟩
    rw [toString, hp, intercalate_components]

/-! ## Where paths come from -/

/-- The path comes from reading texts, from names and from other paths, and the same done to lists
    of names gives this list. -/
inductive Obtained : FieldPath → List String → Prop
  | parse {text : String} {p : FieldPath} (h : parse text = .ok p) : Obtained p (components text)
  | ofNames {names : List String} {p : FieldPath} (h : ofNames names = .ok p) : Obtained p names
  | single {name : String} {p : FieldPath} (h : single name = .ok p) : Obtained p [name]
  | join {p q : FieldPath} {names below : List String} (hp : Obtained p names)
      (hq : Obtained q below) : Obtained (p.join q) (names ++ below)
  | atTop {p : FieldPath} {names : List String} (hp : Obtained p names) :
      Obtained (joinUnder none p) names
  | under {root p : FieldPath} {above names : List String} (hroot : Obtained root above)
      (hp : Obtained p names) : Obtained (joinUnder (some root) p) (above ++ names)
  | parent {p q : FieldPath} {names : List String} (hp : Obtained p names)
      (h : p.parent? = some q) : Obtained q names.dropLast
  | relative {p root q : FieldPath} {names above : List String} (hp : Obtained p names)
      (hroot : Obtained root above) (h : p.below? root = some q) :
      Obtained q (names.drop above.length)
  | ancestor {p q : FieldPath} {names : List String} {n : Nat} (hp : Obtained p names)
      (h : p.ancestors[n]? = some q) : Obtained q (names.take (n + 1))

theorem names_of_parent? {p q : FieldPath} (h : p.parent? = some q) :
    q.names = p.names.dropLast := by
  rw [names, ofSegments?_eq_some_iff.mp h, List.map_dropLast]
  rfl

theorem names_of_below? {p root q : FieldPath} (h : p.below? root = some q) :
    q.names = p.names.drop root.names.length := by
  unfold below? at h
  split at h
  · rw [names, ofSegments?_eq_some_iff.mp h, List.map_drop, names, names, List.length_map]
    rfl
  · cases h

theorem names_of_ancestors {p q : FieldPath} {n : Nat} (h : p.ancestors[n]? = some q) :
    q.names = p.names.take (n + 1) := by
  rw [ancestors, List.getElem?_map, Option.map_eq_some_iff] at h
  obtain ⟨k, hk, rfl⟩ := h
  obtain ⟨-, rfl⟩ := List.getElem?_eq_some_iff.mp hk
  rw [List.getElem_range]
  simp [names, segments, List.map_take]

/-- **The names of a path are what its history makes of lists of names.** -/
theorem Obtained.names_eq {p : FieldPath} {names : List String} (h : Obtained p names) :
    p.names = names := by
  induction h with
  | parse h =>
    obtain rfl := parse_eq_ok_iff.mp h
    exact (splitOn_toString _).symm
  | ofNames h => exact ofNames_eq_ok_iff.mp h
  | single h => exact ofNames_eq_ok_iff.mp (single_eq_ofNames _ ▸ h)
  | join _ _ ihp ihq => rw [names_join, ihp, ihq]
  | atTop _ ih => exact ih
  | under _ _ ihroot ihp => rw [joinUnder_some, names_join, ihroot, ihp]
  | parent _ h ih => rw [names_of_parent? h, ih]
  | relative _ _ h ihp ihroot => rw [names_of_below? h, ihp, ihroot]
  | ancestor _ h ih => rw [names_of_ancestors h, ih]

/-- **Paths and dotted texts determine each other.** The texts that can be read are those without an
    empty component, and each is written as it was read. Whatever operations a path was got by, its
    names make up a path, and it is read back from its dotted form, which no other path has. -/
theorem dotted_exact :
    (∀ text, (∃ p, parse text = .ok p) ↔ text ≠ "" ∧ "" ∉ components text) ∧
      (∀ text p, parse text = .ok p → p.toString = text) ∧
      (∀ p names, Obtained p names →
        p.names = names ∧ IsPath names ∧ parse p.toString = .ok p) ∧
      (∀ names, IsPath names → ∃ p, Obtained p names) ∧
      ∀ p q : FieldPath, p = q ↔ p.toString = q.toString := by
  refine ⟨fun text => exists_parse_iff, fun text p => parse_eq_ok_iff.mp, fun p names h => ?_,
    fun names h => ?_, fun p q => toString_injective.eq_iff.symm⟩
  · exact ⟨h.names_eq, h.names_eq ▸ p.isPath_names, parse_toString p⟩
  · obtain ⟨p, rfl⟩ := exists_names_iff.mpr h
    exact ⟨p, .ofNames (ofNames_names p)⟩

end FieldPath

namespace Sample

/-- A line by its path within an order: the part below the order of the path that encloses the
    field. -/
theorem line_obtained : FieldPath.Obtained ⟨.literal "line", []⟩ ["line"] := by
  have hsku : FieldPath.Obtained ⟨.literal "order", [.literal "line", .literal "sku"]⟩
      (FieldPath.components "order.line.sku") :=
    .parse (FieldPath.parse_eq_ok_iff.mpr (by decide))
  have horder : FieldPath.Obtained ⟨.literal "order", []⟩ ["order"] := .single rfl
  have hline : FieldPath.Obtained ⟨.literal "order", [.literal "line"]⟩
      (FieldPath.components "order.line.sku").dropLast := hsku.parent (by decide)
  have hnames :
      (FieldPath.components "order.line.sku").dropLast.drop ["order"].length = ["line"] := by decide
  exact hnames ▸ hline.relative horder (by decide)

end Sample

/-- `dotted_exact` for a path that was read, then lost a segment at the end and one at the front,
    and for a text with two dots in a row. -/
theorem dotted_exact_sample :
    (FieldPath.Obtained ⟨.literal "line", []⟩ ["line"] ∧ FieldPath.IsPath ["line"]) ∧
      ¬ ∃ p, FieldPath.parse "order..sku" = .ok p := by
  refine ⟨⟨Sample.line_obtained, (FieldPath.dotted_exact.2.2.1 _ _ Sample.line_obtained).2.1⟩, ?_⟩
  rw [FieldPath.dotted_exact.1]
  decide

end NestedSearch
