import NestedSearch.FieldPath

/-!
# The algebra of field paths

Every question about two paths comes down to how their lists of segments begin. This file says
so once for each operation, so that nothing after it looks at segments again:

* `join` appends segments, so it is associative;
* `startsWith` is the prefix order, and `p.startsWith q` says that `p` is `q` or `q.join r`;
* `ancestors` lists the paths that a path starts with, and the ancestors of `p.join q` are those
  of `p` followed by those of `q` as seen from `p`.

A path is written with dots between its names, and is read back from that (`parse_toString`).
-/

namespace NestedSearch

/-- The segment of a name that can be seen to be one. -/
def Segment.literal (name : String) (h : (ofName? name).isSome = true := by decide) : Segment :=
  (ofName? name).get h

theorem Segment.ofName_name (s : Segment) : ofName s.name = .ok s := by
  unfold ofName
  rw [dif_neg s.nonempty, dif_neg s.unseparated]

theorem Segment.name_of_ofName {name : String} {s : Segment} (h : ofName name = .ok s) :
    s.name = name := by
  unfold ofName at h
  split at h
  · cases h
  · split at h <;> cases h
    rfl

theorem Segment.exists_ofName_iff {name : String} :
    (∃ s, ofName name = .ok s) ↔ name ≠ "" ∧ separator ∉ name.toList := by
  constructor
  · rintro ⟨s, hs⟩
    rw [← name_of_ofName hs]
    exact ⟨s.nonempty, s.unseparated⟩
  · rintro ⟨hnonempty, hunseparated⟩
    exact ⟨⟨name, hnonempty, hunseparated⟩, ofName_name ⟨name, hnonempty, hunseparated⟩⟩

namespace FieldPath

/-! ## Segments -/

theorem segments_injective {p q : FieldPath} (h : p.segments = q.segments) : p = q := by
  cases p
  cases q
  simpa [segments] using h

@[simp] theorem segments_join (p q : FieldPath) :
    (p.join q).segments = p.segments ++ q.segments := rfl

@[simp] theorem length_join (p q : FieldPath) : (p.join q).length = p.length + q.length := by
  simp [length]

theorem names_join (p q : FieldPath) : (p.join q).names = p.names ++ q.names := by
  unfold names
  rw [segments_join, List.map_append]

theorem length_pos (p : FieldPath) : 0 < p.length := by simp [length, segments]

theorem join_assoc (p q r : FieldPath) : (p.join q).join r = p.join (q.join r) := by
  apply segments_injective
  simp

/-! ## Roots -/

@[simp] theorem joinUnder_none (p : FieldPath) : joinUnder none p = p := rfl

@[simp] theorem joinUnder_some (root p : FieldPath) : joinUnder (some root) p = root.join p := rfl

/-- Going down to a child and on from there is going down by one longer relative path. -/
theorem childOf_join (place : Option FieldPath) (s : Segment) (p : FieldPath) :
    (childOf place s).join p = joinUnder place ((⟨s, []⟩ : FieldPath).join p) := by
  cases place with
  | none => rfl
  | some root => exact join_assoc root ⟨s, []⟩ p

/-! ## The prefix order -/

theorem startsWith_iff_initial {p q : FieldPath} :
    p.startsWith q = true ↔ q.segments <+: p.segments := List.isPrefixOf_iff_prefix

theorem startsWith_self (p : FieldPath) : p.startsWith p = true :=
  startsWith_iff_initial.mpr (List.prefix_refl _)

theorem startsWith_trans {p q r : FieldPath} (hpq : p.startsWith q = true)
    (hqr : q.startsWith r = true) : p.startsWith r = true :=
  startsWith_iff_initial.mpr
    ((startsWith_iff_initial.mp hqr).trans (startsWith_iff_initial.mp hpq))

theorem startsWith_join (p q : FieldPath) : (p.join q).startsWith p = true :=
  startsWith_iff_initial.mpr (List.prefix_append _ _)

theorem length_le_of_startsWith {p q : FieldPath} (h : p.startsWith q = true) :
    q.length ≤ p.length := (startsWith_iff_initial.mp h).length_le

/-- A path starts with its ancestors, which are strictly shorter, and with itself. -/
theorem startsWith_iff_eq_or_join {p q : FieldPath} :
    p.startsWith q = true ↔ p = q ∨ ∃ r, p = q.join r := by
  constructor
  · intro h
    obtain ⟨more, hmore⟩ := startsWith_iff_initial.mp h
    cases more with
    | nil => exact Or.inl (segments_injective (by simpa using hmore.symm))
    | cons s rest => exact Or.inr ⟨⟨s, rest⟩, segments_injective hmore.symm⟩
  · rintro (rfl | ⟨r, rfl⟩)
    · exact startsWith_self p
    · exact startsWith_join q r

/-- Of two paths that a third one starts with, the longer one starts with the shorter one. -/
theorem startsWith_of_length_le {p q r : FieldPath} (hq : p.startsWith q = true)
    (hr : p.startsWith r = true) (hlen : q.length ≤ r.length) : r.startsWith q = true :=
  startsWith_iff_initial.mpr (List.prefix_of_prefix_length_le (startsWith_iff_initial.mp hq)
    (startsWith_iff_initial.mp hr) hlen)

theorem isAncestorOf_iff {p q : FieldPath} :
    q.isAncestorOf p = true ↔ ∃ r, p = q.join r := by
  unfold isAncestorOf
  rw [Bool.and_eq_true, decide_eq_true_eq, startsWith_iff_eq_or_join]
  constructor
  · rintro ⟨hlt, rfl | h⟩
    · exact absurd hlt (Nat.lt_irrefl _)
    · exact h
  · rintro ⟨r, rfl⟩
    have hpos := r.length_pos
    exact ⟨by rw [length_join]; omega, Or.inr ⟨r, rfl⟩⟩

/-- What a path starts with is the path itself or an ancestor of it. -/
theorem startsWith_iff_eq_or_isAncestorOf {p q : FieldPath} :
    p.startsWith q = true ↔ q = p ∨ q.isAncestorOf p = true := by
  rw [startsWith_iff_eq_or_join, isAncestorOf_iff, eq_comm]

/-- Of two ancestors of one path the shorter one is an ancestor of the longer one. -/
theorem isAncestorOf_of_length_lt {p q r : FieldPath} (hq : q.isAncestorOf p = true)
    (hr : r.isAncestorOf p = true) (hlen : q.length < r.length) : q.isAncestorOf r = true := by
  unfold isAncestorOf at *
  rw [Bool.and_eq_true, decide_eq_true_eq] at *
  exact ⟨hlen, startsWith_of_length_le hq.2 hr.2 (Nat.le_of_lt hlen)⟩

@[simp] theorem below?_join (p q : FieldPath) : (p.join q).below? p = some q := by
  unfold below?
  rw [if_pos (isAncestorOf_iff.mpr ⟨q, rfl⟩), segments_join]
  simp [length, ofSegments?, segments]

/-! ## Ancestors -/

theorem ancestors_cons (s t : Segment) (rest : List Segment) :
    ancestors ⟨s, t :: rest⟩ =
      ⟨s, []⟩ :: (ancestors ⟨t, rest⟩).map (join ⟨s, []⟩) := by
  unfold ancestors
  rw [List.length_cons, List.range_succ_eq_map, List.map_cons, List.map_map, List.map_map]
  rfl

theorem ancestors_join (p q : FieldPath) :
    (p.join q).ancestors = p.ancestors ++ q.ancestors.map p.join := by
  obtain ⟨s, rest⟩ := p
  induction rest generalizing s with
  | nil => exact ancestors_cons s q.head q.tail
  | cons t rest ih =>
    have hstep : (join ⟨s, t :: rest⟩ q).ancestors =
        ⟨s, []⟩ :: ((join ⟨t, rest⟩ q).ancestors).map (join ⟨s, []⟩) :=
      ancestors_cons s t (rest ++ q.segments)
    have hjoin : join ⟨s, []⟩ ∘ join ⟨t, rest⟩ = join ⟨s, t :: rest⟩ :=
      funext fun r => (join_assoc ⟨s, []⟩ ⟨t, rest⟩ r).symm
    rw [hstep, ih t, ancestors_cons, List.map_append, List.map_map, hjoin, List.cons_append]

theorem mem_ancestors_iff {p q : FieldPath} : q ∈ p.ancestors ↔ p.startsWith q = true := by
  constructor
  · intro h
    obtain ⟨n, -, rfl⟩ := List.mem_map.mp h
    apply startsWith_iff_initial.mpr
    simpa [segments] using List.take_prefix n p.tail
  · intro h
    rcases startsWith_iff_eq_or_join.mp h with rfl | ⟨r, rfl⟩
    · exact List.mem_map.mpr ⟨p.tail.length, by simp, by simp⟩
    · rw [ancestors_join]
      exact List.mem_append_left _ (List.mem_map.mpr ⟨q.tail.length, by simp, by simp⟩)

theorem isAncestorOf_join_left {p q r : FieldPath} (h : q.isAncestorOf r = true) :
    (p.join q).isAncestorOf (p.join r) = true := by
  obtain ⟨more, rfl⟩ := isAncestorOf_iff.mp h
  exact isAncestorOf_iff.mpr ⟨more, (join_assoc p q more).symm⟩

/-- Ancestors come shortest first, each one below those before it. -/
theorem ancestors_pairwise (p : FieldPath) :
    p.ancestors.Pairwise fun a b => a.isAncestorOf b = true := by
  obtain ⟨s, rest⟩ := p
  induction rest generalizing s with
  | nil => exact List.pairwise_singleton _ _
  | cons t rest ih =>
    rw [ancestors_cons, List.pairwise_cons, List.pairwise_map]
    refine ⟨?_, (ih t).imp isAncestorOf_join_left⟩
    intro b hb
    obtain ⟨a, -, rfl⟩ := List.mem_map.mp hb
    exact isAncestorOf_iff.mpr ⟨a, rfl⟩

theorem ancestors_eq_concat (p : FieldPath) : ∃ above, p.ancestors = above ++ [p] := by
  refine ⟨(List.range p.tail.length).map fun n => ⟨p.head, p.tail.take n⟩, ?_⟩
  unfold ancestors
  rw [List.range_succ, List.map_append]
  simp

/-! ## The dotted form -/

theorem ofNames_names (p : FieldPath) : ofNames p.names = .ok p := by
  have hname : Segment.ofName ∘ Segment.name = fun s => pure s :=
    funext Segment.ofName_name
  have hsegments : (p.segments.map Segment.name).mapM Segment.ofName = .ok p.segments := by
    rw [List.mapM_map, hname, List.mapM_pure, List.map_id']
    rfl
  unfold ofNames names
  rw [hsegments]
  rfl

/-- The dotted form comes apart at the dots, since no name holds one. -/
theorem splitOn_toString (p : FieldPath) :
    (p.toString.toList.splitOn separator).map String.ofList = p.names := by
  have hchars : p.toString.toList = [separator].intercalate (p.names.map String.toList) :=
    String.toList_intercalate
  have hnames : ∀ name ∈ p.names.map String.toList, separator ∉ name := by
    intro name hname
    obtain ⟨text, htext, rfl⟩ := List.mem_map.mp hname
    obtain ⟨s, -, rfl⟩ := List.mem_map.mp htext
    exact s.unseparated
  have hne : p.names.map String.toList ≠ [] := by simp [names, segments]
  rw [hchars, List.splitOn_intercalate separator hnames hne, List.map_map]
  refine (List.map_congr_left fun name _ => ?_).trans (List.map_id _)
  exact String.ofList_toList

theorem toString_ne_empty (p : FieldPath) : p.toString ≠ "" := by
  intro h
  have hsplit := splitOn_toString p
  rw [h] at hsplit
  injection hsplit with hhead
  exact p.head.nonempty hhead.symm

/-- **A path is read back from its dotted form.** -/
theorem parse_toString (p : FieldPath) : parse p.toString = .ok p := by
  rw [parse, if_neg p.toString_ne_empty, splitOn_toString, ofNames_names]

theorem parse?_toString (p : FieldPath) : parse? p.toString = some p := by
  rw [parse?, parse_toString]
  rfl

theorem toString_injective : Function.Injective toString := by
  intro p q h
  have hparse := parse_toString p
  rw [h, parse_toString q] at hparse
  exact (Except.ok.inj hparse).symm

end FieldPath
end NestedSearch
