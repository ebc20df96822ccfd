import NestedSearch.Proofs.Outcome
import NestedSearch.Proofs.Scope

/-!
# Searching a part of the indexes

What a computation gives for a scope and for another one with some of its indexes. The two are
run side by side, and at every step there are few things that can tell them apart
(`Restricted`): the whole scope may fail where its part does not, and the part may lack a field
that only other indexes have. If the part is the whole scope, with its indexes in another order,
neither can happen, and both fail for the same kind of reason.
-/

namespace NestedSearch

/-! ## Outcomes -/

namespace QueryError

/-- What is wrong with a schema, if that is the error. -/
def schemaCause? : QueryError → Option SchemaError
  | .schema cause => some cause
  | _ => none

/-- The variant of an error, with the one of the schema error it wraps. -/
def variant (e : QueryError) : Nat × Option Nat :=
  (e.ctorIdx, e.schemaCause?.map SchemaError.ctorIdx)

/-- The error says that a field is unknown. -/
def IsUnknownField (e : QueryError) : Prop :=
  ∃ index path missing, e = .schema (.unknownField index path missing)

end QueryError

/-- How an outcome for a scope and the outcome for a part of it go together, where `whole` says that
    the part is the whole scope and `R` relates what they give. -/
inductive Restricted {α β : Type} (whole : Prop) (R : α → β → Prop) :
    Except QueryError α → Except QueryError β → Prop where
  | both {a : α} {b : β} (h : R a b) : Restricted whole R (.ok a) (.ok b)
  | neither {e e' : QueryError} (h : whole → e.variant = e'.variant) :
    Restricted whole R (.error e) (.error e')
  | onlyPart {e : QueryError} {b : β} (h : ¬ whole) : Restricted whole R (.error e) (.ok b)
  /-- The part lacks a field that other indexes have. -/
  | onlyWhole {a : α} {e : QueryError} (h : ¬ whole) (he : e.IsUnknownField) :
    Restricted whole R (.ok a) (.error e)

namespace Restricted

variable {α β γ δ : Type} {whole : Prop} {R : α → β → Prop} {S : γ → δ → Prop}

theorem same (x : Except QueryError α) : Restricted whole Eq x x := by
  cases x with
  | error e => exact .neither fun _ => rfl
  | ok a => exact .both rfl

/-- Two computations go together if their steps do. -/
theorem bind {x : Except QueryError α} {y : Except QueryError β} {f : α → Except QueryError γ}
    {g : β → Except QueryError δ} (h : Restricted whole R x y)
    (hnext : ∀ a b, R a b → Restricted whole S (f a) (g b)) :
    Restricted whole S (x >>= f) (y >>= g) := by
  cases h with
  | both h => exact hnext _ _ h
  | neither h => exact .neither h
  | @onlyPart e b h =>
    show Restricted whole S (.error e) (g b)
    cases g b with
    | error e' => exact .neither fun hw => absurd hw h
    | ok d => exact .onlyPart h
  | @onlyWhole a e h he =>
    show Restricted whole S (f a) (.error e)
    cases f a with
    | error e' => exact .neither fun hw => absurd hw h
    | ok c => exact .onlyWhole h he

/-- A demand that both make under a condition. -/
theorem demand {c : Prop} [Decidable c] {x y : Except QueryError Unit}
    {f : Unit → Except QueryError γ} {g : Unit → Except QueryError δ}
    (h : c → Restricted whole Eq x y) (hnext : Restricted whole S (f ()) (g ())) :
    Restricted whole S (if c then x >>= f else f ()) (if c then y >>= g else g ()) := by
  by_cases hc : c
  · rw [if_pos hc, if_pos hc]
    exact (h hc).bind fun _ _ _ => hnext
  · rwa [if_neg hc, if_neg hc]

/-- What follows a step that gives both the same. -/
theorem bindSame {x y : Except QueryError α} {f : α → Except QueryError γ}
    {g : α → Except QueryError δ} (h : Restricted whole Eq x y)
    (hnext : ∀ a, Restricted whole S (f a) (g a)) : Restricted whole S (x >>= f) (y >>= g) :=
  h.bind fun a _ hab => hab ▸ hnext a

/-- What comes out is changed in the same way. -/
theorem mapSame {x y : Except QueryError α} (h : Restricted whole Eq x y) (f : α → γ) :
    Restricted whole Eq (x.map f) (y.map f) := by
  cases h with
  | both h => exact .both (congrArg f h)
  | neither h => exact .neither h
  | onlyPart h => exact .onlyPart h
  | onlyWhole h he => exact .onlyWhole h he

/-- What is related are the outcomes. -/
theorem withOutcomes {x : Except QueryError α} {y : Except QueryError β}
    (h : Restricted whole R x y) :
    Restricted whole (fun a b => R a b ∧ x = .ok a ∧ y = .ok b) x y := by
  cases h with
  | both h => exact .both ⟨h, rfl, rfl⟩
  | neither h => exact .neither h
  | onlyPart h => exact .onlyPart h
  | onlyWhole h he => exact .onlyWhole h he

end Restricted

/-! ## Paths in a scope and in a part of it -/

namespace SearchScope

variable {s s' : SearchScope} {p : FieldPath} {usage : Usage}

/-- The path resolves in the scope: some index has the field, none has a value on the way, and those
    that have it do not differ. -/
structure Resolves (s : SearchScope) (p : FieldPath) : Prop where
  found : s.resolutions p ≠ []
  unblocked : ∀ i ∈ s.indexes, ∀ e, i.schema.resolve p = .error e → e.isUnknownField = true
  same : ∀ l ∈ s.resolutions p, ∀ r ∈ s.resolutions p, difference? l r = none

theorem resolves_iff : (∃ r, s.resolve none p usage = .ok r) ↔ s.Resolves p := by
  constructor
  · rintro ⟨r, h⟩
    obtain ⟨first, others, hres, hunblocked, hsame, -⟩ := resolve_eq_ok_iff.mp h
    refine ⟨by simp [hres], hunblocked, ?_⟩
    have hfirst : ∀ r ∈ s.resolutions p, difference? first r = none := by
      rw [hres]
      refine List.forall_mem_cons.mpr ⟨difference?_eq_none_iff.mpr ⟨rfl, rfl, rfl⟩, hsame⟩
    intro l hl r hr
    obtain ⟨hk, hn, hc⟩ := difference?_eq_none_iff.mp (hfirst l hl)
    obtain ⟨hk', hn', hc'⟩ := difference?_eq_none_iff.mp (hfirst r hr)
    exact difference?_eq_none_iff.mpr
      ⟨hk.symm.trans hk', hn.symm.trans hn', hc.symm.trans hc'⟩
  · intro h
    obtain ⟨first, others, hres⟩ := List.exists_cons_of_ne_nil h.found
    refine ⟨_, resolve_eq_ok_iff.mpr ⟨first, others, hres, h.unblocked, fun other hother => ?_, rfl⟩⟩
    exact h.same first (by simp [hres]) other (by simp [hres, hother])

/-- A path that resolves does so in any part of the scope where the field is found. -/
theorem Resolves.of_part (h : s'.Resolves p) (hpart : s.indexes ⊆ s'.indexes)
    (hfound : s.resolutions p ≠ []) : s.Resolves p := by
  have hres : s.resolutions p ⊆ s'.resolutions p := fun r hr => by
    obtain ⟨i, hi, hr⟩ := mem_resolutions_iff.mp hr
    exact mem_resolutions_iff.mpr ⟨i, hpart hi, hr⟩
  exact ⟨hfound, fun i hi => h.unblocked i (hpart hi), fun l hl r hr => h.same l (hres hl) r (hres hr)⟩

theorem resolutions_subset (hpart : s.indexes ⊆ s'.indexes) :
    s.resolutions p ⊆ s'.resolutions p := fun _ hr => by
  obtain ⟨i, hi, hr⟩ := mem_resolutions_iff.mp hr
  exact mem_resolutions_iff.mpr ⟨i, hpart hi, hr⟩

/-- Where every index only says that a field is unknown, so does the scope. -/
theorem isUnknownField_of_resolve_error {e : QueryError} (h : s.resolve none p usage = .error e)
    (hnone : s.resolutions p = [])
    (hunblocked : ∀ i ∈ s.indexes, ∀ e, i.schema.resolve p = .error e → e.isUnknownField = true) :
    e.IsUnknownField := by
  obtain ⟨-, cause, rfl, ⟨i, hi, hcause⟩, -⟩ | ⟨hfound, -⟩ := resolve_error h
  · have hunknown := hunblocked i hi cause hcause
    cases cause with
    | unknownField index path missing => exact ⟨index, path, missing, rfl⟩
    | _ => cases hunknown
  · exact absurd hnone hfound

/-- Scopes with the same indexes fail to resolve a path for the same kind of reason. -/
theorem variant_eq_of_resolve_error {e e' : QueryError} (hpart : s.indexes ⊆ s'.indexes)
    (hwhole : s'.indexes ⊆ s.indexes) (h' : s'.resolve none p usage = .error e')
    (h : s.resolve none p usage = .error e) : e'.variant = e.variant := by
  have hnil : s'.resolutions p = [] ↔ s.resolutions p = [] := by
    constructor <;> intro hnil <;> refine List.eq_nil_iff_forall_not_mem.mpr fun r hr => ?_
    · exact absurd (resolutions_subset hpart hr) (by simp [hnil])
    · exact absurd (resolutions_subset hwhole hr) (by simp [hnil])
  obtain ⟨hnone', cause', rfl, ⟨i', hi', hcause'⟩, hall'⟩ | ⟨hfound', report', rfl, -⟩ :=
    resolve_error h'
  · obtain ⟨-, cause, rfl, ⟨i, hi, hcause⟩, hall⟩ | ⟨hfound, -⟩ := resolve_error h
    · -- One of them says that the field is unknown exactly if the other does.
      have hsame : cause'.isUnknownField = cause.isUnknownField := by
        rw [Bool.eq_iff_iff]
        exact ⟨fun hu => hall' hu i (hpart hi) cause hcause,
          fun hu => hall hu i' (hwhole hi') cause' hcause'⟩
      unfold QueryError.variant QueryError.schemaCause?
      rw [Option.map_some, Option.map_some,
        Definition.ctorIdx_eq_of_resolve_error hcause' hcause hsame]
      rfl
    · exact absurd (hnil.mp hnone') hfound
  · obtain ⟨hnone, -⟩ | ⟨-, report, rfl, -⟩ := resolve_error h
    · exact absurd (hnil.mpr hnone) hfound'
    · rfl

/-- **A path in a scope and in a part of it.** Where both resolve it they agree. -/
theorem resolve_restricted (hpart : s.indexes ⊆ s'.indexes) (root : Option FieldPath)
    (path : FieldPath) (usage : Usage) :
    Restricted (s'.indexes ⊆ s.indexes)
      (fun r' r => s'.Agreement (.joinUnder root path) r' ∧ s.Agreement (.joinUnder root path) r)
      (s'.resolve root path usage) (s.resolve root path usage) := by
  rw [resolve_joinUnder s', resolve_joinUnder s]
  generalize FieldPath.joinUnder root path = p
  cases h' : s'.resolve none p usage with
  | error e' =>
    cases h : s.resolve none p usage with
    | error e => exact .neither fun hwhole => variant_eq_of_resolve_error hpart hwhole h' h
    | ok r =>
      refine .onlyPart fun hwhole => ?_
      have hresolves := resolves_iff.mp ⟨r, h⟩
      have hfound : s'.resolutions p ≠ [] := fun hnil =>
        hresolves.found (List.subset_nil.mp (hnil ▸ resolutions_subset hpart))
      obtain ⟨r', hr'⟩ := resolves_iff.mpr (hresolves.of_part hwhole hfound)
      cases h'.symm.trans hr'
  | ok r' =>
    have hresolves := resolves_iff.mp ⟨r', h'⟩
    by_cases hfound : s.resolutions p = []
    · cases h : s.resolve none p usage with
      | ok r => exact absurd hfound (resolves_iff.mp ⟨r, h⟩).found
      | error e =>
        refine .onlyWhole (fun hwhole => hresolves.found ?_)
          (isUnknownField_of_resolve_error h hfound fun i hi => hresolves.unblocked i (hpart hi))
        exact List.subset_nil.mp (hfound ▸ resolutions_subset hwhole)
    · obtain ⟨r, h⟩ : ∃ r, s.resolve none p usage = .ok r :=
        resolves_iff.mpr (hresolves.of_part hpart hfound)
      rw [h]
      exact .both ⟨agreement h', agreement h⟩

/-- What both resolve leads to the same in the eyes of a query. -/
theorem Agreement.eq_of_part {r r' : ScopedResolution} (h' : s'.Agreement p r')
    (h : s.Agreement p r) (hpart : s.indexes ⊆ s'.indexes) :
    r'.path = r.path ∧ r'.chain = r.chain ∧ r'.kind = r.kind := by
  obtain ⟨i, hi, node, hnode⟩ := h.some_index
  refine ⟨h'.path_eq.trans h.path_eq.symm, ?_, ?_⟩
  · exact (h'.chain_eq i (hpart hi) node hnode).symm.trans (h.chain_eq i hi node hnode)
  · exact (h'.kind_eq i (hpart hi) node hnode).symm.trans (h.kind_eq i hi node hnode)

theorem require_eq_ok_iff {r : ScopedResolution} :
    r.require usage = .ok () ↔ ∀ f ∈ r.found, f.node.supports usage = true := by
  unfold ScopedResolution.require
  split
  · rename_i f hfind
    have hmem := List.mem_of_find?_eq_some hfind
    have hnot := List.find?_some hfind
    refine iff_of_false (by simp) fun hall => ?_
    simp [hall f hmem] at hnot
  · rename_i hfind
    refine iff_of_true rfl ?_
    simpa using List.find?_eq_none.mp hfind

theorem require_error {r : ScopedResolution} {e : QueryError} (h : r.require usage = .error e) :
    ∃ field index, e = .unsupportedUsage field usage index := by
  unfold ScopedResolution.require at h
  split at h
  · cases h
    exact ⟨_, _, rfl⟩
  · cases h

/-- A usage that is required in a scope and in a part of it. -/
theorem require_restricted {r r' : ScopedResolution} (h' : s'.Agreement p r')
    (h : s.Agreement p r) (hpart : s.indexes ⊆ s'.indexes) (usage : Usage) :
    Restricted (s'.indexes ⊆ s.indexes) Eq (r'.require usage) (r.require usage) := by
  cases hreq' : r'.require usage with
  | ok u' =>
    have hall := require_eq_ok_iff.mp hreq'
    rw [h'.found_eq] at hall
    have hreq : r.require usage = .ok () := require_eq_ok_iff.mpr fun f hf =>
      hall f (resolutions_subset hpart (h.found_eq ▸ hf))
    rw [hreq]
    exact .both rfl
  | error e' =>
    cases hreq : r.require usage with
    | error e =>
      obtain ⟨field', index', rfl⟩ := require_error hreq'
      obtain ⟨field, index, rfl⟩ := require_error hreq
      exact .neither fun _ => rfl
    | ok u =>
      refine .onlyPart fun hwhole => ?_
      have hall := require_eq_ok_iff.mp hreq
      rw [h.found_eq] at hall
      have hreq'' : r'.require usage = .ok () := require_eq_ok_iff.mpr fun f hf =>
        hall f (resolutions_subset hwhole (h'.found_eq ▸ hf))
      cases hreq'.symm.trans hreq''

end SearchScope

end NestedSearch
