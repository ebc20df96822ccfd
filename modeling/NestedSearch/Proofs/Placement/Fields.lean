import NestedSearch.Proofs.Placement.Explicit
import NestedSearch.Proofs.Placement.Unfolding

/-!
# Leaves with several fields

A leaf may target several fields only if they need the same scopes: no scope is chosen among
different ones. What each field needs is known from the leaf with this field alone, and
`place_multiField` tells from that what becomes of the leaf with all of them, at the top of a query
and inside any scopes that are written out.

The fields are compared with the first one, and by all the scopes that they need, open or not
(`resolveFields_eq`). The scopes around a leaf do the same whatever stands in them
(`expanding_inside`), so several fields and one field are placed in the same frame.
-/

namespace NestedSearch

namespace Predicate

/-- A predicate inside scopes that are written out, the first one outermost, each relative to the
    one before it. -/
def inside (around : List FieldPath) (p : Predicate) : Predicate :=
  around.foldr .nested p

@[simp] theorem inside_nil (p : Predicate) : p.inside [] = p := rfl

@[simp] theorem inside_cons (q : FieldPath) (around : List FieldPath) (p : Predicate) :
    p.inside (q :: around) = .nested q (p.inside around) := rfl

end Predicate

/-- What paths are relative to inside these scopes. -/
def FieldPath.rootIn (root : Option FieldPath) (around : List FieldPath) : Option FieldPath :=
  around.foldl (fun outer q => some (joinUnder outer q)) root

namespace Placement

variable {scope : SearchScope} {config : CompilerConfig}

/-! ## Fields -/

section Steps

variable {root : Option FieldPath} {usage : Usage} {chain : NestingChain} {f : FieldPath}
  (h : FieldResolves scope config usage chain (.joinUnder root f)) (rest : List FieldPath)

include h

theorem resolveFields_first :
    resolveFields scope config root usage none (f :: rest) =
      (resolveFields scope config root usage (some (.joinUnder root f, chain)) rest).map
        fun x => (.joinUnder root f :: x.1, x.2) := by
  obtain ⟨r, hr, rfl, hdemand⟩ := h
  rw [resolveFields, SearchScope.resolve_joinUnder, hr, ← (SearchScope.agreement hr).path_eq]
  show (if config.validateUsages = true then r.require usage >>= _ else _) = _
  rw [demand_of_met hdemand]
  rfl

theorem resolveFields_next (path : FieldPath) (needed : NestingChain) :
    resolveFields scope config root usage (some (path, needed)) (f :: rest) =
      if needed ≠ chain then .error (.crossNestedPath (.joinUnder root f) chain path needed)
      else (resolveFields scope config root usage (some (path, needed)) rest).map
        fun x => (.joinUnder root f :: x.1, x.2) := by
  obtain ⟨r, hr, rfl, hdemand⟩ := h
  rw [resolveFields, SearchScope.resolve_joinUnder, hr, ← (SearchScope.agreement hr).path_eq]
  show (if config.validateUsages = true then r.require usage >>= _ else _) = _
  rw [demand_of_met hdemand]
  rfl

end Steps

/-- What becomes of fields that need these chains: the first one with a chain other than that of
    the field before them all is the error. -/
theorem resolveFields_eq {root : Option FieldPath} {usage : Usage} {fields : List FieldPath}
    {chain : FieldPath → NestingChain}
    (h : ∀ f ∈ fields, FieldResolves scope config usage (chain f) (.joinUnder root f))
    (path : FieldPath) (needed : NestingChain) :
    resolveFields scope config root usage (some (path, needed)) fields =
      match fields.find? fun f => chain f ≠ needed with
      | some f => .error (.crossNestedPath (.joinUnder root f) (chain f) path needed)
      | none => .ok (fields.map (FieldPath.joinUnder root), needed) := by
  induction fields with
  | nil => rfl
  | cons f rest ih =>
    have hrest : ∀ g ∈ rest, FieldResolves scope config usage (chain g) (.joinUnder root g) :=
      fun g hg => h g (List.mem_cons_of_mem f hg)
    rw [resolveFields_next (h f List.mem_cons_self), List.find?_cons, ih hrest]
    by_cases hsame : chain f = needed
    · rw [if_neg (by simp [hsame])]
      simp only [ne_eq, hsame, not_true_eq_false, decide_false]
      cases rest.find? fun g => decide (¬chain g = needed) <;> rfl
    · rw [if_pos (Ne.symm hsame)]
      simp only [ne_eq, hsame, not_false_eq_true, decide_true]

/-! ## One leaf -/

variable {depth : Nat} {frame : Frame} {used : Nat} {kind : PredicateKind} {usage : Usage}

/-- What a leaf with one field tells about the field. -/
theorem expanding_field {f : FieldPath} {r : Placed} (husage : kind.usage? = some usage)
    (h : expanding scope config depth frame used (.leaf ⟨[f], kind⟩) = .ok r) :
    ∃ chain, FieldResolves scope config usage chain (.joinUnder frame.root f) ∧
      (Leaf.mk [f] kind).check = .ok () ∧ used + 1 ≤ config.maxClauseCount ∧
      r = ⟨(Predicate.leaf ⟨[.joinUnder frame.root f], kind⟩).within (chain.after frame.opened),
        [⟨[.joinUnder frame.root f], usage, kind.analysis, chain, frame.optional⟩], []⟩ := by
  have hroom := h
  rw [expanding_settle, refuse_eq_ok_iff] at hroom
  rw [expanding_leaf] at h
  obtain ⟨hcheck, ⟨hnone, -⟩ | ⟨usage', fields, chain, husage', hfields, rfl⟩⟩ := leaf_ok h
  · rw [husage] at hnone
    cases hnone
  · rw [husage] at husage'
    cases husage'
    obtain ⟨rfl, hresolves, -⟩ := resolveFields_ok hfields
    exact ⟨chain, hresolves _ List.mem_cons_self, hcheck, Nat.not_lt.mp hroom.1, rfl⟩

/-- **A leaf with several fields**, from what each of them needs alone. -/
theorem expanding_fields {chain : FieldPath → NestingChain} {first : FieldPath}
    {rest : List FieldPath} (husage : kind.usage? = some usage)
    (hcheck : (Leaf.mk (first :: rest) kind).check = .ok ())
    (hroom : used + 1 ≤ config.maxClauseCount)
    (h : ∀ f ∈ first :: rest,
      FieldResolves scope config usage (chain f) (.joinUnder frame.root f)) :
    expanding scope config depth frame used (.leaf ⟨first :: rest, kind⟩) =
      match rest.find? fun f => chain f ≠ chain first with
      | some f => .error (.crossNestedPath (.joinUnder frame.root f) (chain f)
          (.joinUnder frame.root first) (chain first))
      | none => .ok ⟨(Predicate.leaf ⟨(first :: rest).map (.joinUnder frame.root), kind⟩).within
            ((chain first).after frame.opened),
          [⟨(first :: rest).map (.joinUnder frame.root), usage, kind.analysis, chain first,
            frame.optional⟩], []⟩ := by
  have hrest : ∀ f ∈ rest, FieldResolves scope config usage (chain f) (.joinUnder frame.root f) :=
    fun f hf => h f (List.mem_cons_of_mem first hf)
  rw [expanding_settle, if_neg (Nat.not_lt.mpr hroom), settle, hcheck]
  simp only [husage, resolveFields_first (h first List.mem_cons_self), resolveFields_eq hrest]
  cases rest.find? fun f => decide (chain f ≠ chain first) <;> rfl

/-! ## Scopes around a leaf -/

/-- **Scopes that are written out do the same whatever stands in them**: they lead nowhere, or they
    all lead to one place and open the same scopes on the way. -/
theorem expanding_inside (scope : SearchScope) (config : CompilerConfig) (depth : Nat)
    (frame : Frame) (around : List FieldPath) :
    (∃ e, ∀ (used : Nat) (p : Predicate),
        expanding scope config depth frame used (p.inside around) = .error e) ∨
    ∃ inner wrappers scopes, inner.root = FieldPath.rootIn frame.root around ∧
      ∀ (used : Nat) (p : Predicate), expanding scope config depth frame used (p.inside around) =
        (expanding scope config depth inner used p).map
          fun r => ⟨r.predicate.within wrappers, r.leaves, scopes ++ r.scopes⟩ := by
  induction around generalizing frame with
  | nil =>
    refine .inr ⟨frame, [], [], rfl, ?_⟩
    intro used p
    rw [Predicate.inside_nil]
    cases expanding scope config depth frame used p <;> rfl
  | cons q around ih =>
    simp only [Predicate.inside_cons, expanding_enter]
    cases houter : enter scope frame q with
    | error e => exact .inl ⟨e, fun used p => rfl⟩
    | ok outer =>
      rcases ih { frame with root := some outer.path, opened := some outer.path } with
        ⟨e, herror⟩ | ⟨inner, wrappers, scopes, hroot, hrun⟩
      · refine .inl ⟨e, fun used p => ?_⟩
        show Except.map _ _ = _
        rw [herror]
        rfl
      · refine .inr ⟨inner, outer.chain.after frame.opened ++ wrappers,
          (outer.path, frame.optional) :: scopes, ?_, ?_⟩
        · obtain ⟨hresolve, -⟩ := enter_eq_ok_iff.mp houter
          rw [SearchScope.resolve_joinUnder] at hresolve
          rw [hroot, (SearchScope.agreement hresolve).path_eq]
          rfl
        · intro used p
          show Except.map _ _ = _
          rw [hrun]
          simp only [Predicate.within_append]
          cases expanding scope config depth inner used p <;> rfl

end Placement

open Placement

/-- The absolute path of a field inside scopes that are written out. -/
def FieldPath.absolute (around : List FieldPath) (f : FieldPath) : FieldPath :=
  joinUnder (rootIn none around) f

section Inside

variable {scope : SearchScope} {config : CompilerConfig} {around : List FieldPath}
  {kind : PredicateKind} {first : FieldPath} {rest : List FieldPath}
  {chain : FieldPath → NestingChain}

/-- The leaf inside these scopes, with what each of its fields gets alone. -/
theorem place_inside_fields (hkind : kind.isMultiField = true)
    (hsingle : ∀ f ∈ first :: rest, ∃ r l,
      place scope config (.inside around (.leaf ⟨[f], kind⟩)) = .ok r ∧ r.leaves = [l] ∧
        l.chain = chain f) :
    ∃ wrappers : NestingChain → List NestingScope,
      (∀ f ∈ first :: rest, ∀ r,
        place scope config (.inside around (.leaf ⟨[f], kind⟩)) = .ok r →
        r.predicate =
          (Predicate.leaf ⟨[.absolute around f], kind⟩).within (wrappers (chain f))) ∧
      (place scope config (.inside around (.leaf ⟨first :: rest, kind⟩))).map (·.predicate) =
        match rest.find? fun f => chain f ≠ chain first with
        | some f => .error (.crossNestedPath (.absolute around f) (chain f)
            (.absolute around first) (chain first))
        | none => .ok ((Predicate.leaf ⟨(first :: rest).map (.absolute around), kind⟩).within
            (wrappers (chain first))) := by
  obtain ⟨usage, husage⟩ := exists_usage_of_isMultiField hkind
  rcases expanding_inside scope config config.maxExpansionDepth .top around with
    ⟨e, herror⟩ | ⟨inner, wrappers, scopes, hroot, hrun⟩
  · -- If the scopes led nowhere, the first field could not be placed alone.
    obtain ⟨r, -, hr, -⟩ := hsingle first List.mem_cons_self
    cases (herror 0 _).symm.trans hr
  have hplace : ∀ p : Predicate, place scope config (p.inside around) =
      (expanding scope config config.maxExpansionDepth inner 0 p).map
        fun r => ⟨r.predicate.within wrappers, r.leaves, scopes ++ r.scopes⟩ := hrun 0
  have habsolute : FieldPath.joinUnder inner.root = FieldPath.absolute around := by
    rw [hroot]
    rfl
  have hone : ∀ f ∈ first :: rest,
      FieldResolves scope config usage (chain f) (.joinUnder inner.root f) ∧
      (Leaf.mk [f] kind).check = .ok () ∧ 0 + 1 ≤ config.maxClauseCount ∧
      ∀ r, place scope config (.inside around (.leaf ⟨[f], kind⟩)) = .ok r →
        r.predicate = (Predicate.leaf ⟨[.absolute around f], kind⟩).within
          (wrappers ++ (chain f).after inner.opened) := by
    intro f hf
    obtain ⟨r, l, hr, hleaf, hchain⟩ := hsingle f hf
    have hplaced := hr
    rw [hplace] at hr
    obtain ⟨r', hr', rfl⟩ := map_eq_ok_iff.mp hr
    obtain ⟨c, hresolves, hcheck, hroom, rfl⟩ := expanding_field husage hr'
    cases hleaf
    cases hchain
    refine ⟨hresolves, hcheck, hroom, ?_⟩
    intro s hs
    cases hplaced.symm.trans hs
    rw [Predicate.within_append, habsolute]
  obtain ⟨-, hcheck, hroom, -⟩ := hone first List.mem_cons_self
  -- The rules for several fields are those for one, so the first field settles them for the leaf.
  rw [check_of_isMultiField hkind, ← check_of_isMultiField hkind first rest] at hcheck
  refine ⟨fun c => wrappers ++ c.after inner.opened, fun f hf => (hone f hf).2.2.2, ?_⟩
  rw [hplace, expanding_fields husage hcheck hroom fun f hf => (hone f hf).1]
  simp only [Predicate.within_append, habsolute]
  cases rest.find? fun f => decide (chain f ≠ chain first) <;> rfl

end Inside

/-- **Several fields never get a scope that only some of them need**, at the top of a query or
    inside scopes that are written out. Let each field alone be placed there with the chain that is
    given for it. Then the leaf with all of them is placed if and only if the chains are the same;
    it stands in the scopes in which each of the fields stands alone. Otherwise the first field with
    another chain than the first one is the error, with both chains in full. -/
theorem place_multiField (scope : SearchScope) (config : CompilerConfig) (around : List FieldPath)
    {kind : PredicateKind} (hkind : kind.isMultiField = true) {first : FieldPath}
    {rest : List FieldPath} {chain : FieldPath → NestingChain}
    (hsingle : ∀ f ∈ first :: rest, ∃ r l,
      place scope config (.inside around (.leaf ⟨[f], kind⟩)) = .ok r ∧ r.leaves = [l] ∧
        l.chain = chain f) :
    ((∃ r, place scope config (.inside around (.leaf ⟨first :: rest, kind⟩)) = .ok r) ↔
      ∀ f ∈ rest, chain f = chain first) ∧
    (∀ r, place scope config (.inside around (.leaf ⟨first :: rest, kind⟩)) = .ok r →
      ∃ wrappers, r.predicate =
          (Predicate.leaf ⟨(first :: rest).map (.absolute around), kind⟩).within wrappers ∧
        ∀ f ∈ first :: rest, ∀ s,
          place scope config (.inside around (.leaf ⟨[f], kind⟩)) = .ok s →
          s.predicate = (Predicate.leaf ⟨[.absolute around f], kind⟩).within wrappers) ∧
    ((¬∀ f ∈ rest, chain f = chain first) →
      ∃ f, rest.find? (fun g => chain g ≠ chain first) = some f ∧
        place scope config (.inside around (.leaf ⟨first :: rest, kind⟩)) =
          .error (.crossNestedPath (.absolute around f) (chain f) (.absolute around first)
            (chain first))) := by
  obtain ⟨wrappers, hone, hall⟩ := place_inside_fields hkind hsingle
  cases hfind : rest.find? fun f => chain f ≠ chain first with
  | none =>
    rw [hfind] at hall
    obtain ⟨r, hr, hpredicate⟩ := map_eq_ok_iff.mp hall
    have hsame : ∀ f ∈ rest, chain f = chain first := by simpa using hfind
    refine ⟨⟨fun _ => hsame, fun _ => ⟨r, hr⟩⟩, ?_, fun hnot => absurd hsame hnot⟩
    intro r' hr'
    cases hr.symm.trans hr'
    refine ⟨wrappers (chain first), hpredicate, ?_⟩
    intro f hf s hs
    have hchain : chain f = chain first := by
      rcases List.mem_cons.mp hf with rfl | hf
      · rfl
      · exact hsame f hf
    rw [hone f hf s hs, hchain]
  | some f =>
    rw [hfind] at hall
    have herror := map_eq_error_iff.mp hall
    have hdiffers : ¬∀ f ∈ rest, chain f = chain first := by
      intro hsame
      have hne : chain f ≠ chain first := by simpa using List.find?_some hfind
      exact hne (hsame f (List.mem_of_find?_eq_some hfind))
    refine ⟨⟨?_, fun hsame => absurd hsame hdiffers⟩, ?_, fun _ => ⟨f, rfl, herror⟩⟩
    · rintro ⟨r, hr⟩
      cases herror.symm.trans hr
    · intro r hr
      cases herror.symm.trans hr

namespace Sample

/-- Fields that are written inside a scope of orders. -/
def skuOfLine : FieldPath := ⟨lines, [sku]⟩
def labelOfLine : FieldPath := ⟨lines, [note, tag, label]⟩

/-- A pattern for the fields, inside the scope of orders. -/
def patterned (fields : List FieldPath) : Predicate :=
  .inside [⟨orders, []⟩] (.leaf ⟨fields, .wildcard "a*"⟩)

/-- The chain of the field alone. -/
def chainAlone (f : FieldPath) : NestingChain :=
  ((place scope .default (patterned [f])).toOption.bind fun r => r.leaves.head?.map (·.chain)).getD
    .empty

theorem place_patterned {f : FieldPath} (hf : f ∈ [skuOfLine, labelOfLine]) :
    ∃ r l, place scope .default (patterned [f]) = .ok r ∧ r.leaves = [l] ∧
      l.chain = chainAlone f := by
  have hcounts : ∀ f ∈ [skuOfLine, labelOfLine],
      (place scope .default (patterned [f])).toOption.map (fun r => r.leaves.length) = some 1 := by
    decide +kernel
  have hcount := hcounts f hf
  unfold chainAlone
  cases hplace : place scope .default (patterned [f]) with
  | error e =>
    rw [hplace] at hcount
    cases hcount
  | ok r =>
    rw [hplace] at hcount
    obtain ⟨l, hl⟩ := List.length_eq_one_iff.mp (Option.some.inj hcount)
    exact ⟨r, l, rfl, hl, by simp [Except.toOption, hl]⟩

end Sample

/-- `place_multiField` inside a scope, of a field twice and of two fields of different depth. -/
theorem place_multiField_sample :
    (∃ r, place Sample.scope .default
      (Sample.patterned [Sample.skuOfLine, Sample.skuOfLine]) = .ok r) ∧
    place Sample.scope .default (Sample.patterned [Sample.skuOfLine, Sample.labelOfLine]) =
      .error (.crossNestedPath
        ⟨Sample.orders, [Sample.lines, Sample.note, Sample.tag, Sample.label]⟩
        (Sample.chainAlone Sample.labelOfLine) ⟨Sample.orders, [Sample.lines, Sample.sku]⟩
        (Sample.chainAlone Sample.skuOfLine)) := by
  have hdiffers : Sample.chainAlone Sample.labelOfLine ≠ Sample.chainAlone Sample.skuOfLine := by
    decide +kernel
  have hkind : (PredicateKind.wildcard "a*").isMultiField = true := rfl
  have hsku : ∀ f ∈ [Sample.skuOfLine, Sample.skuOfLine], f ∈ [Sample.skuOfLine,
      Sample.labelOfLine] := by simp
  constructor
  · exact (place_multiField Sample.scope .default [⟨Sample.orders, []⟩] hkind fun f hf =>
      Sample.place_patterned (hsku f hf)).1.mpr (by simp)
  · obtain ⟨f, hfind, herror⟩ := (place_multiField Sample.scope .default [⟨Sample.orders, []⟩] hkind
      fun f => Sample.place_patterned).2.2 (by simpa using hdiffers)
    rw [List.find?_cons_of_pos (by simpa using hdiffers)] at hfind
    cases hfind
    exact herror

end NestedSearch
