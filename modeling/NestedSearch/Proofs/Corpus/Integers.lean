import Mathlib.Data.Option.Basic
import NestedSearch.Proofs.Corpus.Leaf
import NestedSearch.Proofs.FieldPath
import NestedSearch.Proofs.Rounding

/-!
# Integers in leaves

A leaf compares an integer with the numbers of a document after both have become doubles. So it
tells two integers apart only if the doubles nearest to them differ, and this is all that it gets
wrong: it looks for the rounded integer, and between the rounded bounds, among the rounded values
(`matchesLeaf_integers`). A value that has at most 53 bits is compared exactly, and so is every
value with a parameter that has.
-/

namespace NestedSearch

/-! ## Bounds -/

/-- A bound that is an integer. -/
structure IntBound where
  value : Int
  inclusive : Bool

namespace IntBound

def toRangeBound (b : IntBound) : RangeBound := ⟨.int b.value, b.inclusive⟩

/-- The bound at the nearest double. -/
def rounded (b : IntBound) : IntBound := { b with value := nearest b.value }

end IntBound

/-- The integer lies between the bounds, as far as there are any. -/
def Between (lower upper : Option IntBound) (i : Int) : Prop :=
  (∀ b ∈ lower, b.value < i ∨ b.inclusive ∧ i = b.value) ∧
    ∀ b ∈ upper, i < b.value ∨ b.inclusive ∧ i = b.value

instance (lower upper : Option IntBound) (i : Int) : Decidable (Between lower upper i) :=
  inferInstanceAs (Decidable (_ ∧ _))

/-- One of the two has at most 53 bits. -/
def OneIsSmall (i j : Int) : Prop := i.natAbs < 2 ^ 53 ∨ j.natAbs < 2 ^ 53

instance (i j : Int) : Decidable (OneIsSmall i j) := inferInstanceAs (Decidable (_ ∨ _))

variable {i n a : Int} {lower upper : Option IntBound}

/-- Rounding makes no difference to where a value lies if it is small or the bounds are. -/
theorem between_rounded_iff (hlower : ∀ b ∈ lower, OneIsSmall i b.value)
    (hupper : ∀ b ∈ upper, OneIsSmall i b.value) :
    Between (lower.map IntBound.rounded) (upper.map IntBound.rounded) (nearest i) ↔
      Between lower upper i := by
  have hlower' : ∀ b ∈ lower,
      (nearest b.value < nearest i ∨ b.inclusive ∧ nearest i = nearest b.value ↔
        b.value < i ∨ b.inclusive ∧ i = b.value) := fun b hb => by
    rw [nearest_lt_iff (hlower b hb).symm, nearest_eq_iff (hlower b hb)]
  have hupper' : ∀ b ∈ upper,
      (nearest i < nearest b.value ∨ b.inclusive ∧ nearest i = nearest b.value ↔
        i < b.value ∨ b.inclusive ∧ i = b.value) := fun b hb => by
    rw [nearest_lt_iff (hupper b hb), nearest_eq_iff (hupper b hb)]
  unfold Between
  simp only [Option.forall_mem_map, IntBound.rounded]
  exact and_congr (forall₂_congr hlower') (forall₂_congr hupper')

/-! ## Values -/

/-- A value is compared with a bound as the double nearest to it with the nearest to the bound. -/
theorem compareWith_int (hn : n.natAbs < 2 ^ 64) (ha : a.natAbs < 2 ^ 64) :
    compareWith (.number (.int n)) (.int a) = some (compare (nearest n) (nearest a)) := by
  have hcompare : compareWith (.number (.int n)) (.int a) =
      if Number.floatOfInt n < Number.floatOfInt a then some .lt
      else if Number.floatOfInt a < Number.floatOfInt n then some .gt
      else if Number.floatOfInt n == Number.floatOfInt a then some .eq else none := rfl
  rw [hcompare, Int.compare_eq_ite_lt]
  simp only [floatOfInt_lt_iff hn ha, floatOfInt_lt_iff ha hn, floatOfInt_beq_iff hn ha]
  split_ifs <;> first | rfl | omega

theorem isBeyond_int {side : Ordering} {bound : Option IntBound} (hside : side ≠ .eq)
    (hn : n.natAbs < 2 ^ 64) (hbound : ∀ b ∈ bound, b.value.natAbs < 2 ^ 64) :
    isBeyond (.number (.int n)) side (bound.map IntBound.toRangeBound) = true ↔
      ∀ b ∈ bound.map IntBound.rounded,
        compare (nearest n) b.value = side ∨ b.inclusive ∧ nearest n = b.value := by
  cases bound with
  | none => simp [isBeyond]
  | some b =>
    simp only [isBeyond, Option.map_some, IntBound.toRangeBound, compareWith_int hn (hbound b rfl),
      Option.mem_some_iff, forall_eq', IntBound.rounded, ← Int.compare_eq_eq]
    cases compare (nearest n) (nearest b.value) <;> cases side <;> simp at hside ⊢

/-! ## Leaves -/

section

variable {e : Evaluation} {d : DocumentPart} {f : FieldPath}

theorem Evaluation.anyField_single {node : Node} {values : List Document}
    (hfield : e.schema.node? f = some node) (hvalues : d.values f = .ok values)
    (test : Node → List Document → Bool) : e.anyField d [f] test = .ok (test node values) := by
  refine (@anyAccepted_of_ok _ _ (fun _ => test node values) _ fun g hg => ?_).trans (by simp)
  rw [List.mem_singleton.mp hg, hfield, hvalues]
  rfl

variable {field : ValueField} {ns : List Int} (hfield : e.schema.node? f = some (.value field))
  (hvalues : d.values f = .ok (ns.map fun n => .number (.int n)))
  (hns : ∀ n ∈ ns, n.natAbs < 2 ^ 64)

include hfield hvalues hns

theorem matchesLeaf_matching_int (ordinal : Nat) {a : Int} (analysis : AnalysisOverride)
    (edits : Nat) (ha : a.natAbs < 2 ^ 64) :
    e.matchesLeaf d ordinal ⟨[f], .matching (.int a) analysis edits⟩ =
      .ok (ns.any fun n => nearest n = nearest a) := by
  have hvalue (n : Int) : field.matchesValue (.int a) analysis edits (.number (.int n)) =
      (Number.floatOfInt n == Number.floatOfInt a) := rfl
  unfold Evaluation.matchesLeaf Evaluation.anyFieldValue
  dsimp only
  rw [Evaluation.anyField_single hfield hvalues, Node.value?, Option.any_some, List.any_map]
  refine congrArg Except.ok (any_congr_of_mem fun n hn => ?_)
  rw [Function.comp_apply, hvalue, Bool.eq_iff_iff, floatOfInt_beq_iff (hns n hn) ha,
    decide_eq_true_iff]

theorem matchesLeaf_range_int (ordinal : Nat) (hlower : ∀ b ∈ lower, b.value.natAbs < 2 ^ 64)
    (hupper : ∀ b ∈ upper, b.value.natAbs < 2 ^ 64) :
    e.matchesLeaf d ordinal
        ⟨[f], .range (lower.map IntBound.toRangeBound) (upper.map IntBound.toRangeBound)⟩ =
      .ok (ns.any fun n =>
        Between (lower.map IntBound.rounded) (upper.map IntBound.rounded) (nearest n)) := by
  unfold Evaluation.matchesLeaf Evaluation.anyValue
  dsimp only
  rw [Evaluation.anyField_single hfield hvalues, List.any_map]
  refine congrArg Except.ok (any_congr_of_mem fun n hn => ?_)
  rw [Function.comp_apply, Bool.eq_iff_iff, Bool.and_eq_true, decide_eq_true_iff,
    isBeyond_int (by decide) (hns n hn) hlower, isBeyond_int (by decide) (hns n hn) hupper]
  simp only [Int.compare_eq_gt, Int.compare_eq_lt]
  rfl

/-- **Integers are compared as the doubles nearest to them.** A leaf that looks for an integer, or
    for what lies between integers, takes the values and its own integers as rounded to doubles.
    Where a value or what it is compared with has at most 53 bits, this makes no difference. -/
theorem matchesLeaf_integers (ordinal : Nat) :
    (∀ a analysis edits, a.natAbs < 2 ^ 64 →
      e.matchesLeaf d ordinal ⟨[f], .matching (.int a) analysis edits⟩ =
          .ok (ns.any fun n => nearest n = nearest a) ∧
        ((∀ n ∈ ns, OneIsSmall n a) →
          e.matchesLeaf d ordinal ⟨[f], .matching (.int a) analysis edits⟩ =
            .ok (ns.any fun n => n = a))) ∧
    ∀ lower upper : Option IntBound, (∀ b ∈ lower, b.value.natAbs < 2 ^ 64) →
      (∀ b ∈ upper, b.value.natAbs < 2 ^ 64) →
      e.matchesLeaf d ordinal
            ⟨[f], .range (lower.map IntBound.toRangeBound) (upper.map IntBound.toRangeBound)⟩ =
          .ok (ns.any fun n =>
            Between (lower.map IntBound.rounded) (upper.map IntBound.rounded) (nearest n)) ∧
        ((∀ n ∈ ns, (∀ b ∈ lower, OneIsSmall n b.value) ∧ ∀ b ∈ upper, OneIsSmall n b.value) →
          e.matchesLeaf d ordinal
              ⟨[f], .range (lower.map IntBound.toRangeBound) (upper.map IntBound.toRangeBound)⟩ =
            .ok (ns.any fun n => Between lower upper n)) := by
  constructor
  · intro a analysis edits ha
    have hmatch := matchesLeaf_matching_int hfield hvalues hns ordinal analysis edits ha
    refine ⟨hmatch, fun hsmall => ?_⟩
    rw [hmatch]
    refine congrArg Except.ok (any_congr_of_mem fun n hn => ?_)
    rw [decide_eq_decide, nearest_eq_iff (hsmall n hn)]
  · intro lower upper hlower hupper
    have hrange := matchesLeaf_range_int hfield hvalues hns ordinal hlower hupper
    refine ⟨hrange, fun hsmall => ?_⟩
    rw [hrange]
    refine congrArg Except.ok (any_congr_of_mem fun n hn => ?_)
    rw [decide_eq_decide, between_rounded_iff (hsmall n hn).1 (hsmall n hn).2]

end

namespace Sample

def serial : FieldPath := ⟨.literal "serial", []⟩

/-- The evaluation of a part with a serial number. -/
def serialEvaluation : Evaluation where
  schema := ⟨"parts", [("serial", .value (.ofType .long))]⟩
  hit := ⟨"parts", "p1"⟩
  neighbours := []

/-- A part with the first serial number that is no double. -/
def serialPart : DocumentPart := ⟨.object [("serial", .number (.int (2 ^ 53 + 1)))], none⟩

end Sample

/-- The hypotheses of `matchesLeaf_integers` can be met where rounding makes a difference: a number
    is found that is one larger than what is looked for, and not among those that are larger. -/
theorem matchesLeaf_integers_sample :
    Sample.serialEvaluation.schema.node? Sample.serial = some (.value (.ofType .long)) ∧
      Sample.serialPart.values Sample.serial = .ok [.number (.int (2 ^ 53 + 1))] ∧
      Sample.serialEvaluation.matchesLeaf Sample.serialPart 0
        ⟨[Sample.serial], .matching (.int (2 ^ 53)) .none 0⟩ = .ok true ∧
      Sample.serialEvaluation.matchesLeaf Sample.serialPart 0
        ⟨[Sample.serial], .range (some ⟨.int (2 ^ 53), false⟩) none⟩ = .ok false ∧
      Sample.serialEvaluation.matchesLeaf Sample.serialPart 0
        ⟨[Sample.serial], .range (some ⟨.int (2 ^ 53 - 1), false⟩) none⟩ = .ok true := by
  have hfield : Sample.serialEvaluation.schema.node? Sample.serial =
      some (.value (.ofType .long)) := rfl
  have hvalues : Sample.serialPart.values Sample.serial =
      .ok ([2 ^ 53 + 1].map fun n => .number (.int n)) := rfl
  obtain ⟨hmatch, hrange⟩ := matchesLeaf_integers hfield hvalues (by decide) 0
  obtain ⟨hequal, -⟩ := hmatch (2 ^ 53) .none 0 (by decide)
  obtain ⟨hlarger, -⟩ := hrange (some ⟨2 ^ 53, false⟩) none (by decide) (by decide)
  obtain ⟨-, hexact⟩ := hrange (some ⟨2 ^ 53 - 1, false⟩) none (by decide) (by decide)
  refine ⟨hfield, hvalues, hequal.trans (congrArg _ ?_), hlarger.trans (congrArg _ ?_),
    (hexact (by decide)).trans (congrArg _ ?_)⟩ <;> decide +kernel

end NestedSearch
