import Mathlib.Algebra.Group.Int.Defs
import Mathlib.Algebra.Group.Nat.Defs
import NestedSearch.Json.Decode
import NestedSearch.Proofs.FieldPath

/-!
# Decoding what was encoded

One lemma for each way in which data is laid out in JSON: members that are written one after the
other are found again under their names, whatever stands around them, and numbers, lists and paths
are decoded to what they were. The proofs about single types cite these and say no more than which
members there are.
-/

namespace NestedSearch.Json

/-! ## Sound values, and how deeply they nest -/

theorem isSound_arr {items : List Json} :
    (Json.arr items).isSound = true ↔ ∀ j ∈ items, j.isSound = true := by
  show soundItems items = true ↔ _
  induction items with
  | nil => simp [soundItems]
  | cons j js ih => rw [soundItems, Bool.and_eq_true, ih, List.forall_mem_cons]

theorem isSound_ofMembers {members : List (String × Json)} :
    (ofMembers members).isSound = true ↔ ∀ m ∈ members, m.2.isSound = true := by
  show soundMembers (members.map fun m => (some m.1, m.2)) = true ↔ _
  induction members with
  | nil => simp [soundMembers]
  | cons m ms ih =>
    rw [List.map_cons, soundMembers, Bool.and_eq_true, ih, List.forall_mem_cons]
    simp

theorem isSound_ofMembers_cons {name : String} {j : Json} {members : List (String × Json)}
    (h : j.isSound = true) (hmembers : (ofMembers members).isSound = true) :
    (ofMembers ((name, j) :: members)).isSound = true :=
  isSound_ofMembers.mpr (List.forall_mem_cons.mpr ⟨h, isSound_ofMembers.mp hmembers⟩)

/-- An object nests at least once. -/
theorem exists_succ_of_nesting_le {members : List (String × Json)} {depth : Nat}
    (h : (ofMembers members).nesting ≤ depth) : ∃ inner, depth = inner + 1 :=
  Nat.exists_eq_add_of_le' (Nat.le_trans (Nat.le_add_left 1 _) h)

theorem nesting_item_le {items : List Json} {depth : Nat}
    (h : (Json.arr items).nesting ≤ depth + 1) {j : Json} (hj : j ∈ items) :
    j.nesting ≤ depth := by
  have hitems : nestingItems items ≤ depth := Nat.le_of_succ_le_succ h
  clear h
  induction items with
  | nil => cases hj
  | cons i is ih =>
    obtain ⟨hi, his⟩ := Nat.max_le.mp hitems
    rcases List.mem_cons.mp hj with rfl | hj
    · exact hi
    · exact ih hj his

theorem nesting_member_le {members : List (String × Json)} {depth : Nat}
    (h : (ofMembers members).nesting ≤ depth + 1) {m : String × Json} (hm : m ∈ members) :
    m.2.nesting ≤ depth := by
  have hmembers : nestingMembers (members.map fun m => (some m.1, m.2)) ≤ depth :=
    Nat.le_of_succ_le_succ h
  clear h
  induction members with
  | nil => cases hm
  | cons n ns ih =>
    obtain ⟨hn, hns⟩ := Nat.max_le.mp hmembers
    rcases List.mem_cons.mp hm with rfl | hm
    · exact hn
    · exact ih hm hns

/-! ## Values that carry what is decoded from them -/

/-- The value is sound, and this is decoded from it. -/
structure Carries {α : Type} (j : Json) (decode : Json → Option α) (a : α) : Prop where
  sound : j.isSound = true
  decoded : decode j = some a

theorem carries_ofString (text : String) : (ofString text).Carries text? text := ⟨rfl, rfl⟩

theorem carries_bool (b : Bool) : (Json.bool b).Carries bool? b := ⟨rfl, rfl⟩

theorem carries_ofPath (p : FieldPath) : (ofPath p).Carries path? p :=
  ⟨rfl, FieldPath.parse?_toString p⟩

theorem mapM_map_eq_some {α β : Type} {encode : α → β} {decode : β → Option α} {xs : List α}
    (h : ∀ x ∈ xs, decode (encode x) = some x) : (xs.map encode).mapM decode = some xs := by
  induction xs with
  | nil => rfl
  | cons x xs ih =>
    obtain ⟨hx, hxs⟩ := List.forall_mem_cons.mp h
    rw [List.map_cons, List.mapM_cons, hx, ih hxs]
    rfl

/-- A list carries what its items carry. -/
theorem carries_list {α : Type} {encode : α → Json} {decode : Json → Option α} {xs : List α}
    (h : ∀ x ∈ xs, (encode x).Carries decode x) :
    (Json.arr (xs.map encode)).Carries (list? decode) xs where
  sound := isSound_arr.mpr (List.forall_mem_map.mpr fun x hx => (h x hx).sound)
  decoded := mapM_map_eq_some fun x hx => (h x hx).decoded

/-- A value or nothing; only nothing is `null`. -/
theorem carries_option {α : Type} {encode : α → Json} {decode : Json → Option α} {x : Option α}
    (hnull : ∀ a, encode a ≠ .null) (h : ∀ a, x = some a → (encode a).Carries decode a) :
    (Json.ofOption encode x).Carries (Record.orNull? decode) x := by
  cases x with
  | none => exact ⟨rfl, rfl⟩
  | some a =>
    obtain ⟨hsound, hdecoded⟩ := h a rfl
    refine ⟨hsound, ?_⟩
    rw [ofOption, Record.orNull?, hdecoded]
    · rfl
    · exact hnull a

/-! ### Numbers -/

theorem toInt?_ofInt (i : Int) : (Numeral.ofInt i).toInt? = some i := by
  unfold Numeral.ofInt Numeral.toInt?
  by_cases hsign : i < 0
  · have hne : i.natAbs ≠ 0 := by omega
    have hvalue : -(i.natAbs : Int) = i := by omega
    simp only [hsign, decide_true, if_true, if_neg hne, hvalue]
  · have hvalue : (i.natAbs : Int) = i := by omega
    simp [hsign, hvalue]

/-- An integer of 64 bits, signed or unsigned, is read as it is. -/
theorem number?_ofInt {i : Int} (hleast : -(2 ^ 63) ≤ i) (hgreatest : i < 2 ^ 64) :
    (ofInt i).number? = some (.int i) := by
  have hrange : (-((Nat.pow 2 63 : Nat) : Int) ≤ i && i < (Nat.pow 2 64 : Nat)) = true := by
    simp only [Bool.and_eq_true, decide_eq_true_eq]
    exact ⟨hleast, hgreatest⟩
  show (Numeral.ofInt i).value? = _
  rw [Numeral.value?, toInt?_ofInt]
  exact if_pos hrange

theorem isSound_of_number? {j : Json} (h : j.number?.isSome = true) : j.isSound = true := by
  cases j with
  | num n => exact h
  | _ => cases h

theorem isSound_of_map_number? {α : Type} {j : Json} {f : Number → α} {a : α}
    (h : j.number?.map f = some a) : j.isSound = true :=
  isSound_of_number? (by rw [← Option.isSome_map, h]; rfl)

/-- A number in JSON carries the double that it is read as. -/
theorem carries_float {j : Json} {x : Float} (h : j.float? = some x) : j.Carries float? x :=
  ⟨isSound_of_map_number? h, h⟩

theorem carries_float32 {j : Json} {x : Float32} (h : j.float32? = some x) :
    j.Carries float32? x :=
  ⟨isSound_of_map_number? h, h⟩

theorem intBetween?_ofInt {least greatest i : Int} (hleast : -(2 ^ 63) ≤ i)
    (hgreatest : i < 2 ^ 64) (h : least ≤ i) (h' : i ≤ greatest) :
    intBetween? least greatest (ofInt i) = some i := by
  unfold intBetween?
  rw [number?_ofInt hleast hgreatest]
  simp [h, h']

theorem isSound_ofInt {i : Int} (hleast : -(2 ^ 63) ≤ i) (hgreatest : i < 2 ^ 64) :
    (ofInt i).isSound = true :=
  isSound_of_number? (by rw [number?_ofInt hleast hgreatest]; rfl)

theorem carries_int64 {i : Int} (hleast : -(2 ^ 63) ≤ i) (hgreatest : i < 2 ^ 63) :
    (ofInt i).Carries int64? i where
  sound := isSound_ofInt hleast (by omega)
  decoded := intBetween?_ofInt hleast (by omega) hleast (by simp; omega)

theorem carries_nat32 {n : Nat} (h : n < 2 ^ 32) : (ofInt n).Carries nat32? n where
  sound := isSound_ofInt (by omega) (by omega)
  decoded := by
    rw [nat32?, intBetween?_ofInt (by omega) (by omega) (by omega) (by simp; omega)]
    rfl

theorem carries_nat64 {n : Nat} (h : n < 2 ^ 64) : (ofInt n).Carries nat64? n where
  sound := isSound_ofInt (by omega) (by omega)
  decoded := by
    rw [nat64?, intBetween?_ofInt (by omega) (by omega) (by omega) (by simp; omega)]
    rfl

/-! ## Members -/

@[simp] theorem members?_ofMembers (members : List (String × Json)) :
    (ofMembers members).members? = some members := by
  show (members.map fun m => (some m.1, m.2)).mapM _ = some members
  exact mapM_map_eq_some fun m _ => rfl

/-- A decoder goes on with what the step before it gave. -/
theorem bind_eq_some {α β : Type} {x : Option α} {f : α → Option β} {a : α} {b : β}
    (hx : x = some a) (hf : f a = some b) : (x >>= f) = some b := by
  rw [hx]
  exact hf

theorem guard_eq_some {p : Prop} [Decidable p] (h : p) : (guard p : Option Unit) = some () :=
  if_pos h

/-- The members of these names, and the others. -/
theorem partition_of_names {names : List String} {known others members : List (String × Json)}
    (hknown : ∀ m ∈ known, m.1 ∈ names) (hothers : ∀ m ∈ others, m.1 ∉ names)
    (hmembers : members = known ++ others ∨ members = others ++ known) :
    members.partition (fun m => names.contains m.1) = (known, others) := by
  have hall : known.filter (fun m => names.contains m.1) = known :=
    List.filter_eq_self.mpr fun m hm => by simpa using hknown m hm
  have hnone : others.filter (fun m => names.contains m.1) = [] :=
    List.filter_eq_nil_iff.mpr fun m hm => by simpa using hothers m hm
  have hnone' : known.filter (not ∘ fun m => names.contains m.1) = [] :=
    List.filter_eq_nil_iff.mpr fun m hm => by simpa using hknown m hm
  have hall' : others.filter (not ∘ fun m => names.contains m.1) = others :=
    List.filter_eq_self.mpr fun m hm => by simpa using hothers m hm
  rw [List.partition_eq_filter_filter]
  rcases hmembers with rfl | rfl <;>
    rw [List.filter_append, List.filter_append, hall, hnone, hall', hnone'] <;> simp

/-- A record that is written with members of its own only. -/
theorem Record.ofJson?_ofMembers {names : List String} {members : List (String × Json)}
    (hnames : ∀ m ∈ members, m.1 ∈ names) (hnodup : (members.map (·.1)).Nodup) :
    Record.ofJson? names (ofMembers members) = some ⟨members, false⟩ := by
  have hknown : members.filter (fun m => names.contains m.1) = members :=
    List.filter_eq_self.mpr fun m hm => by simpa using hnames m hm
  refine bind_eq_some (members?_ofMembers members) ?_
  rw [hknown]
  exact bind_eq_some (guard_eq_some (decide_eq_true hnodup)) rfl

/-- A record that is written among other members. -/
theorem flattened?_ofMembers {names : List String} {known others members : List (String × Json)}
    (hknown : ∀ m ∈ known, m.1 ∈ names) (hothers : ∀ m ∈ others, m.1 ∉ names)
    (hmembers : members = known ++ others ∨ members = others ++ known)
    (hnodup : (known.map (·.1)).Nodup) (hsound : (ofMembers others).isSound = true) :
    flattened? names (ofMembers members) = some (⟨known, false⟩, ofMembers others) := by
  refine bind_eq_some (members?_ofMembers members) ?_
  rw [partition_of_names hknown hothers hmembers]
  exact bind_eq_some (guard_eq_some (decide_eq_true hnodup))
    (bind_eq_some (guard_eq_some hsound) rfl)

/-- A tagged alternative whose tag comes first. -/
theorem tagged?_ofMembers {tag name : String} {cases : List String} {origin : Origin}
    {members : List (String × Json)} (htag : ∀ m ∈ members, m.1 ≠ tag) (hname : name ∈ cases)
    (hsound : (ofMembers members).isSound = true) :
    tagged? tag cases origin (ofMembers ((tag, ofString name) :: members)) =
      some (name, ofMembers members) := by
  have hpartition : ((tag, ofString name) :: members).partition (fun m => m.1 = tag) =
      ([(tag, ofString name)], members) := by
    have hnone : members.filter (fun m => m.1 = tag) = [] :=
      List.filter_eq_nil_iff.mpr fun m hm => by simpa using htag m hm
    have hall : members.filter (not ∘ fun m => decide (m.1 = tag)) = members :=
      List.filter_eq_self.mpr fun m hm => by simpa using htag m hm
    rw [List.partition_eq_filter_filter, List.filter_cons_of_pos (by simp),
      List.filter_cons_of_neg (by simp), hnone, hall]
  have hguard : (origin = .copy || (ofMembers members).isSound) = true := by
    rw [hsound, Bool.or_true]
  have hcase : cases.contains name = true := List.contains_iff_mem.mpr hname
  refine bind_eq_some (members?_ofMembers ((tag, ofString name) :: members)) ?_
  rw [hpartition]
  refine bind_eq_some rfl (bind_eq_some (guard_eq_some hguard) ?_)
  exact bind_eq_some rfl (bind_eq_some (guard_eq_some hcase) rfl)

namespace Record

variable {α : Type} {r : Record} {name : String} {j : Json} {decode : Json → Option α} {a : α}

theorem required?_eq (hget : r.get? name = some j) (h : j.Carries decode a) :
    r.required? name decode = some a := by
  rw [required?, hget]
  exact h.decoded

theorem defaulted?_eq {default : α} (hget : r.get? name = some j) (h : j.Carries decode a) :
    r.defaulted? name default decode = some a := by
  rw [defaulted?, hget]
  exact h.decoded

theorem optional?_eq {x : Option α} (hget : r.get? name = some j)
    (h : j.Carries (orNull? decode) x) : r.optional? name decode = some x := by
  rw [optional?, hget]
  exact h.decoded

/-- A member that is written only if there is a value. -/
theorem optional?_eq_of_map {encode : α → Json} {x : Option α} (hobject : r.positional = false)
    (hget : r.get? name = x.map encode) (hnull : ∀ a, encode a ≠ .null)
    (h : ∀ a, x = some a → (encode a).Carries decode a) : r.optional? name decode = some x := by
  cases x with
  | none =>
    rw [optional?, hget, hobject]
    rfl
  | some a => exact optional?_eq hget (carries_option hnull h)

end Record

/-! ## Records of which every field is written -/

section

variable {α β γ : Type} {key key' : String} {j j' : Json} {decode : Json → Option α}
  {decode' : Json → Option β} {a : α} {b : β}

theorem carries_single (f : α → γ) (h : j.Carries decode a) :
    (ofMembers [(key, j)]).Carries
      (fun j => do
        let r ← Record.ofJson? [key] j
        return f (← r.required? key decode)) (f a) := by
  refine ⟨isSound_ofMembers_cons h.sound rfl,
    bind_eq_some (Record.ofJson?_ofMembers (by simp) (by simp)) ?_⟩
  exact bind_eq_some (Record.required?_eq (by simp [Record.get?]) h) rfl

theorem carries_pair (hkey : key ≠ key') (f : α → β → γ) (h : j.Carries decode a)
    (h' : j'.Carries decode' b) :
    (ofMembers [(key, j), (key', j')]).Carries
      (fun j => do
        let r ← Record.ofJson? [key, key'] j
        return f (← r.required? key decode) (← r.required? key' decode')) (f a b) := by
  have hsecond : (Record.get? ⟨[(key, j), (key', j')], false⟩ key') = some j' := by
    simp [Record.get?, List.lookup_cons, beq_eq_false_iff_ne.mpr hkey.symm]
  refine ⟨isSound_ofMembers_cons h.sound (isSound_ofMembers_cons h'.sound rfl),
    bind_eq_some (Record.ofJson?_ofMembers (by simp) (by simpa using hkey)) ?_⟩
  refine bind_eq_some (Record.required?_eq (by simp [Record.get?]) h) ?_
  exact bind_eq_some (Record.required?_eq hsecond h') rfl

end

end NestedSearch.Json
