import Mathlib
import NestedSearch.Json.Number

/-!
# Integers as doubles

A double has 53 significant bits, so an integer becomes the nearest one that has no more, of two
that are equally near the one with the even significand (`nearest`). That is all that is left of an
integer where numbers are compared: doubles compare as the integers they are
(`floatOfInt_lt_iff`, `floatOfInt_beq_iff`).

Rounding leaves integers up to two to the 53rd as they are, and takes no larger one below that. So
a comparison is exact once one of the two integers is smaller (`nearest_lt_iff`).
-/

namespace NestedSearch

open Float.Model Float.Model.UnpackedFloat

/-! ## Rounding -/

/-- The natural number nearest to the quotient; of two, the even one. -/
def nearestQuotient (n d : Nat) : Nat :=
  if 2 * (n % d) < d then n / d
  else if d < 2 * (n % d) then n / d + 1
  else n / d + n / d % 2

/-- How far the doubles around an integer lie apart, where that is more than one. -/
def spacing (n : Nat) : Nat := 2 ^ (n.log2 - 52)

/-- The natural number nearest to this one that is a double. -/
def nearestNat (n : Nat) : Nat := nearestQuotient n (spacing n) * spacing n

/-- The integer nearest to this one that is a double. -/
def nearest (i : Int) : Int := if i < 0 then -nearestNat i.natAbs else nearestNat i.natAbs

variable {n m d k : Nat}

theorem div_le_nearestQuotient : n / d ≤ nearestQuotient n d := by
  unfold nearestQuotient
  split_ifs <;> omega

theorem nearestQuotient_le : nearestQuotient n d ≤ n / d + 1 := by
  unfold nearestQuotient
  split_ifs <;> omega

@[simp]
theorem nearestQuotient_one : nearestQuotient n 1 = n := by
  simp [nearestQuotient, Nat.mod_one]

/-! ## The bits that are kept while a significand is shortened -/

/-- The significand is the quotient, and the two bits tell on which side of one half the rest
    lies. -/
structure Keeps (em : ExtendedMantissa) (n d : Nat) : Prop where
  mantissa : em.mantissa = n / d
  roundBit : em.roundBit = true ↔ d ≤ 2 * (n % d)
  stickyBit : em.stickyBit = true ↔ 2 * (n % d) ≠ 0 ∧ 2 * (n % d) ≠ d

namespace Keeps

variable {em : ExtendedMantissa}

theorem roundedMantissa (h : Keeps em n d) (hd : 0 < d) :
    em.roundedMantissa = nearestQuotient n d := by
  obtain ⟨mantissa, roundBit, stickyBit⟩ := em
  obtain ⟨rfl, hround, hsticky⟩ := h
  unfold nearestQuotient
  cases roundBit <;> cases stickyBit <;>
    simp only [Bool.false_eq_true, false_iff, true_iff] at hround hsticky <;>
    simp only [ExtendedMantissa.roundedMantissa, ExtendedMantissa.accuracy,
      Accuracy.roundToNearestEven] <;>
    split_ifs <;> omega

theorem shiftRightOne (h : Keeps em n d) (hd : 0 < d) : Keeps em.shiftRightOne n (2 * d) := by
  have hrest : n % d < d := Nat.mod_lt n hd
  have hmod : n % (2 * d) = n % d + d * (n / d % 2) := by
    rw [Nat.mul_comm, Nat.mod_mul]
  obtain ⟨mantissa, roundBit, stickyBit⟩ := em
  obtain ⟨rfl, hround, hsticky⟩ := h
  dsimp only at hround hsticky
  refine ⟨?_, ?_, ?_⟩
  · rw [ExtendedMantissa.shiftRightOne, Nat.div_div_eq_div_mul, Nat.mul_comm]
  · simp only [ExtendedMantissa.shiftRightOne, bne_iff_ne, hmod]
    rcases Nat.mod_two_eq_zero_or_one (n / d) with hbit | hbit <;> rw [hbit] <;> omega
  · simp only [ExtendedMantissa.shiftRightOne, Bool.or_eq_true, hround, hsticky, hmod]
    rcases Nat.mod_two_eq_zero_or_one (n / d) with hbit | hbit <;> rw [hbit] <;> omega

end Keeps

theorem keeps_shiftRight : Keeps ((⟨n, false, false⟩ : ExtendedMantissa) >>> k) n (2 ^ k) := by
  change Keeps (k.repeat ExtendedMantissa.shiftRightOne ⟨n, false, false⟩) n (2 ^ k)
  induction k with
  | zero => refine ⟨?_, ?_, ?_⟩ <;> simp [Nat.repeat, Nat.mod_one]
  | succ k ih =>
    rw [Nat.pow_succ']
    exact ih.shiftRightOne (Nat.two_pow_pos k)

/-! ## What rounding makes of a significand -/

theorem bounds_of_log2 (hn : n.log2 = 52 + k) : 2 ^ (52 + k) ≤ n ∧ n < 2 ^ (52 + k + 1) := by
  have hne : n ≠ 0 := by
    rintro rfl
    rw [Nat.log2_zero] at hn
    omega
  exact (Nat.log2_eq_iff hne).mp hn

/-- Dropping all but 53 bits of a significand leaves 53 bits, or one more after a carry. -/
theorem nearestQuotient_bounds (hn : n.log2 = 52 + k) :
    2 ^ 52 ≤ nearestQuotient n (2 ^ k) ∧ nearestQuotient n (2 ^ k) ≤ 2 ^ 53 := by
  obtain ⟨hlow, hhigh⟩ := bounds_of_log2 hn
  have hquotient : 2 ^ 52 ≤ n / 2 ^ k ∧ n / 2 ^ k < 2 ^ 53 := by
    rw [Nat.le_div_iff_mul_le (Nat.two_pow_pos k), Nat.div_lt_iff_lt_mul (Nat.two_pow_pos k),
      ← Nat.pow_add, ← Nat.pow_add]
    exact ⟨hlow, by rwa [Nat.add_right_comm] at hhigh⟩
  have := div_le_nearestQuotient (n := n) (d := 2 ^ k)
  have := nearestQuotient_le (n := n) (d := 2 ^ k)
  omega

theorem shiftToTargetExponent_eq {e : Int} (he : -1074 ≤ e + k) (hn : n.log2 = 52 + k) :
    shiftToTargetExponent .binary64 n e .exact =
      ((⟨n, false, false⟩ : ExtendedMantissa) >>> k, e + k) := by
  have htarget : Format.targetExponent .binary64 (totalExponent n e) = e + k := by
    simp only [Format.targetExponent, totalExponent, Format.mantissaBits, Format.minExponent, hn]
    omega
  have hshift : (e + k - e).toNat = k := by omega
  rw [shiftToTargetExponent, htarget, shiftToExponent, hshift]
  rfl

/-- A number between these has 53 bits, but for the last one, which is carried into a 54th. -/
theorem exists_carry {q : Nat} (hlow : 2 ^ 52 ≤ q) (hhigh : q ≤ 2 ^ 53) :
    ∃ m carry, carry ≤ 1 ∧ m.log2 = 52 ∧ q.log2 = 52 + carry ∧ m * 2 ^ carry = q := by
  rcases Nat.lt_or_eq_of_le hhigh with hlt | rfl
  · have hlog : q.log2 = 52 := (Nat.log2_eq_iff (by omega)).mpr ⟨hlow, hlt⟩
    exact ⟨q, 0, Nat.zero_le 1, hlog, hlog, Nat.mul_one q⟩
  · exact ⟨2 ^ 52, 1, Nat.le_refl 1, Nat.log2_two_pow, Nat.log2_two_pow, rfl⟩

/-- A significand of at least 53 bits is rounded to 53 bits. -/
theorem roundWithAccuracy_eq {s : Sign} {e : Int} (he : -1074 ≤ e + k) (hn : n.log2 = 52 + k) :
    ∃ m h, ∃ carry : Nat, carry ≤ 1 ∧ m.log2 = 52 ∧
      m * 2 ^ carry = nearestQuotient n (2 ^ k) ∧
      roundWithAccuracy .binary64 s n e .exact = .finite s m (e + k + carry) h := by
  obtain ⟨hlow, hhigh⟩ := nearestQuotient_bounds hn
  have hfirst : ((⟨n, false, false⟩ : ExtendedMantissa) >>> k).roundedMantissa =
      nearestQuotient n (2 ^ k) := keeps_shiftRight.roundedMantissa (Nat.two_pow_pos k)
  generalize nearestQuotient n (2 ^ k) = q at hlow hhigh hfirst
  obtain ⟨m, carry, hcarry, hm, hq, hvalue⟩ := exists_carry hlow hhigh
  have hsecond : ((⟨q, false, false⟩ : ExtendedMantissa) >>> carry).mantissa = m := by
    rw [keeps_shiftRight.mantissa, ← hvalue, Nat.mul_div_cancel _ (Nat.two_pow_pos carry)]
  have hpos : 0 < m := Nat.lt_of_lt_of_le (Nat.two_pow_pos _) (bounds_of_log2 (k := 0) hm).1
  refine ⟨m, hpos, carry, hcarry, hm, hvalue, ?_⟩
  unfold roundWithAccuracy
  rw [shiftToTargetExponent_eq he hn]
  dsimp only
  rw [hfirst, shiftToTargetExponent_eq (by omega) hq]
  simp only [hsecond, Nat.ne_of_gt hpos, dif_neg, not_false_eq_true]

/-! ## Doubles that are integers -/

/-- The unpacked double is the integer. If it is not zero, its significand has all its 53 bits,
    which is how doubles are kept as long as they are not tiny. -/
inductive IsInteger : UnpackedFloat → Int → Prop where
  | zero (s : Sign) : IsInteger (.zero s) 0
  | finite {s : Sign} {m : Nat} {e : Int} {hpos : 0 < m} {n : Nat} (hm : m.log2 = 52)
    (hlow : -52 ≤ e) (hhigh : e ≤ 12) (hvalue : m * 2 ^ (e + 52).toNat = n * 2 ^ 52) :
    IsInteger (.finite s m e hpos) (s.apply n)

theorem log2_mul_two_pow (hn : n ≠ 0) : (n * 2 ^ k).log2 = n.log2 + k := by
  induction k with
  | zero => simp
  | succ k ih =>
    have hne : n * 2 ^ k ≠ 0 := Nat.mul_ne_zero hn (Nat.ne_of_gt (Nat.two_pow_pos k))
    rw [Nat.pow_succ, ← Nat.mul_assoc, Nat.mul_comm _ 2, Nat.log2_two_mul hne, ih]
    omega

/-- A natural number of at most 64 bits is rounded to the nearest one that is a double. -/
theorem isInteger_round {s : Sign} (hpos : 0 < n) (hsize : n < 2 ^ 64) :
    IsInteger (UnpackedFloat.round .binary64 s n 0) (s.apply (nearestNat n)) := by
  have hne : n ≠ 0 := Nat.ne_of_gt hpos
  have hlog : n.log2 < 64 := (Nat.log2_lt hne).mpr hsize
  have htarget : Format.targetExponent .binary64 (totalExponent n 0) = n.log2 - 52 := by
    simp only [Format.targetExponent, totalExponent, Format.mantissaBits, Format.minExponent]
    omega
  have hdecrease : decreaseExponent n 0 (n.log2 - 52) =
      (n * 2 ^ (52 - n.log2), -((52 - n.log2 : Nat) : Int)) := by
    have hshift : (0 - ((n.log2 : Int) - 52)).toNat = 52 - n.log2 := by omega
    rw [decreaseExponent, hshift, Nat.shiftLeft_eq, Int.zero_sub]
  have hscaled : (n * 2 ^ (52 - n.log2)).log2 = 52 + (n.log2 - 52) := by
    rw [log2_mul_two_pow hne]
    omega
  obtain ⟨m, hm, carry, hcarry, hbits, hvalue, hround⟩ := roundWithAccuracy_eq (s := s)
    (e := -((52 - n.log2 : Nat) : Int)) (by omega) hscaled
  unfold UnpackedFloat.round
  dsimp only
  rw [htarget, hdecrease]
  dsimp only
  rw [hround]
  refine .finite hbits (by omega) (by omega) ?_
  have hexponent : (-((52 - n.log2 : Nat) : Int) + (n.log2 - 52 : Nat) + carry + 52).toNat =
      carry + n.log2 := by omega
  rw [hexponent, Nat.pow_add, ← Nat.mul_assoc, hvalue]
  unfold nearestNat spacing
  rcases Nat.le_total n.log2 52 with hle | hle
  · rw [Nat.sub_eq_zero_of_le hle, Nat.pow_zero, nearestQuotient_one, nearestQuotient_one,
      Nat.mul_assoc, ← Nat.pow_add, Nat.sub_add_cancel hle, Nat.mul_one]
  · rw [Nat.sub_eq_zero_of_le hle, Nat.pow_zero, Nat.mul_one, Nat.mul_assoc, ← Nat.pow_add,
      Nat.sub_add_cancel hle]

/-! ## Packing -/

/-- The leading bit of a significand is not kept, and put back. -/
theorem append_leading (hm : m.log2 = 52) : (1#1 ++ BitVec.ofNat 52 m).toNat = m := by
  obtain ⟨hlow, hhigh⟩ := bounds_of_log2 (k := 0) hm
  rw [BitVec.toNat_append, ← Nat.shiftLeft_add_eq_or_of_lt (BitVec.isLt _), BitVec.toNat_ofNat,
    BitVec.toNat_ofNat, Nat.shiftLeft_eq]
  omega

variable {u v : UnpackedFloat} {i j : Int}

/-- Packing a normal double loses nothing. -/
theorem unpack_pack_normal {s : Sign} {m biased : Nat} {hpos : 0 < m} (hm : m.log2 = 52)
    (hlow : 0 < biased) (hhigh : biased + 1 < 2 ^ 11) :
    UnpackedFloat.unpack .binary64 (UnpackedFloat.pack .binary64
      (.finite s m (biased - 1075 : Int) hpos)) = .finite s m (biased - 1075 : Int) hpos := by
  have hexponent : (BitVec.ofNat 11 biased).toNat = biased := by
    rw [BitVec.toNat_ofNat, Nat.mod_eq_of_lt (by omega)]
  have hones : BitVec.ofNat 11 biased ≠ -1#11 := fun h => by
    have hmax : (-1#11).toNat = 2047 := rfl
    have := congrArg BitVec.toNat h
    omega
  have hzero : BitVec.ofNat 11 biased ≠ 0#11 := fun h => by
    have := congrArg BitVec.toNat h
    rw [hexponent, BitVec.toNat_ofNat] at this
    omega
  have hbias : (Format.exponentBias .binary64 : Int) = 1023 := rfl
  have hpack : UnpackedFloat.pack .binary64 (.finite s m (biased - 1075 : Int) hpos) =
      packComponents .binary64 s (BitVec.ofNat 11 biased) (BitVec.ofNat 52 m) := by
    have hrebiased : ((biased - 1075 : Int) + (Format.exponentBias .binary64 : Int) +
        (52 : Nat)).toNat = biased := by omega
    unfold UnpackedFloat.pack
    dsimp only
    rw [hrebiased, if_neg (Nat.not_le_of_lt hhigh), hm]
    exact if_pos rfl
  have hvalue : (biased : Int) - (1023 + 52) = biased - 1075 := by omega
  rw [hpack]
  unfold UnpackedFloat.unpack
  simp only [unpackMantissa_packComponents, unpackExponent_packComponents,
    unpackSign_packComponents, Sign.ofBitVec_toBitVec]
  rw [if_neg hones, if_neg hzero]
  simp only [append_leading hm, hexponent, hbias]
  exact congrArg (UnpackedFloat.finite s m · hpos) hvalue

/-- Packing a double that is an integer loses nothing. -/
theorem IsInteger.unpack_pack (h : IsInteger u i) : (Float.Model.pack u).unpack = u := by
  unfold Float.Model.unpack Float.Model.pack
  cases h with
  | zero s => exact unpack_packedZero
  | @finite s m e hpos n hm hlow hhigh hvalue =>
    obtain ⟨biased, rfl⟩ : ∃ biased : Nat, e = biased - 1075 := ⟨(e + 1075).toNat, by omega⟩
    exact unpack_pack_normal hm (by omega) (by omega)

/-! ## Comparing -/

theorem IsInteger.neg (h : IsInteger u i) : IsInteger u.neg (-i) := by
  cases h with
  | zero s => exact .zero (-s)
  | @finite s m e hpos n hm hlow hhigh hvalue =>
    have hsign : -s.apply n = (-s).apply n := by
      cases s with
      | negative => exact Int.neg_neg _
      | positive => rfl
    rw [hsign]
    exact .finite hm hlow hhigh hvalue

section

variable {m₁ m₂ n₁ n₂ : Nat} {e₁ e₂ : Int} (hm₁ : m₁.log2 = 52) (hm₂ : m₂.log2 = 52)
  (hlow₁ : -52 ≤ e₁) (hlow₂ : -52 ≤ e₂) (hvalue₁ : m₁ * 2 ^ (e₁ + 52).toNat = n₁ * 2 ^ 52)
  (hvalue₂ : m₂ * 2 ^ (e₂ + 52).toNat = n₂ * 2 ^ 52)

include hm₁ hm₂ hlow₁ hvalue₁ hvalue₂ in
/-- Of two significands of 53 bits, the one with the larger exponent belongs to the larger
    number. -/
theorem lt_of_exponent_lt (hlt : e₁ < e₂) : n₁ < n₂ := by
  have hsmall : m₁ < 2 ^ 53 := (bounds_of_log2 (k := 0) hm₁).2
  have hlarge : 2 ^ 52 ≤ m₂ := (bounds_of_log2 (k := 0) hm₂).1
  have hexponent : (e₁ + 52).toNat + 1 ≤ (e₂ + 52).toNat := by omega
  apply Nat.lt_of_mul_lt_mul_right (a := 2 ^ 52)
  calc n₁ * 2 ^ 52 = m₁ * 2 ^ (e₁ + 52).toNat := hvalue₁.symm
    _ < 2 ^ 53 * 2 ^ (e₁ + 52).toNat := Nat.mul_lt_mul_of_pos_right hsmall (Nat.two_pow_pos _)
    _ = 2 ^ 52 * 2 ^ ((e₁ + 52).toNat + 1) := by rw [← Nat.pow_add, ← Nat.pow_add]; congr 1; omega
    _ ≤ 2 ^ 52 * 2 ^ (e₂ + 52).toNat :=
      Nat.mul_le_mul_left _ (Nat.pow_le_pow_right (by decide) hexponent)
    _ ≤ m₂ * 2 ^ (e₂ + 52).toNat := Nat.mul_le_mul_right _ hlarge
    _ = n₂ * 2 ^ 52 := hvalue₂

include hm₁ hm₂ hlow₁ hlow₂ hvalue₁ hvalue₂ in
/-- Exponents first and then significands: so the magnitudes compare. -/
theorem compare_magnitudes : (compare e₁ e₂).then (compare m₁ m₂) = compare n₁ n₂ := by
  rcases Int.lt_trichotomy e₁ e₂ with hlt | rfl | hgt
  · have hn := lt_of_exponent_lt hm₁ hm₂ hlow₁ hvalue₁ hvalue₂ hlt
    rw [Int.compare_eq_lt.mpr hlt, Nat.compare_eq_lt.mpr hn]
    rfl
  · have hscale (a b a' b' : Nat) (ha : a * 2 ^ (e₁ + 52).toNat = a' * 2 ^ 52)
        (hb : b * 2 ^ (e₁ + 52).toNat = b' * 2 ^ 52) : a < b ↔ a' < b' := by
      rw [← Nat.mul_lt_mul_right (Nat.two_pow_pos (e₁ + 52).toNat), ha, hb,
        Nat.mul_lt_mul_right (Nat.two_pow_pos 52)]
    rw [Int.compare_eq_eq.mpr rfl, Nat.compare_eq_ite_lt, Nat.compare_eq_ite_lt]
    simp only [Ordering.then, hscale _ _ _ _ hvalue₁ hvalue₂, hscale _ _ _ _ hvalue₂ hvalue₁]
  · have hn := lt_of_exponent_lt hm₂ hm₁ hlow₂ hvalue₂ hvalue₁ hgt
    rw [Int.compare_eq_gt.mpr hgt, Nat.compare_eq_gt.mpr hn]
    rfl

end

theorem compare_natCast : compare (m : Int) n = compare m n := by
  rw [Int.compare_eq_ite_lt, Nat.compare_eq_ite_lt]
  simp only [Int.ofNat_lt]

theorem compare_neg_natCast : compare (-m : Int) (-n) = (compare m n).swap := by
  rw [Int.compare_eq_ite_lt, Nat.compare_swap, Nat.compare_eq_ite_lt]
  simp only [Int.neg_lt_neg_iff, Int.ofNat_lt]

/-- A double with a significand is not zero. -/
theorem pos_of_significand (hm : 0 < m) (hvalue : m * 2 ^ k = n * 2 ^ 52) : (0 : Int) < n := by
  have := Nat.mul_pos hm (Nat.two_pow_pos k)
  omega

/-- **Doubles that are integers compare as these do.** -/
theorem IsInteger.compare_eq (hu : IsInteger u i) (hv : IsInteger v j) :
    u.compare v = some (compare i j) := by
  cases hu with
  | zero s =>
    cases hv with
    | zero s' => rfl
    | @finite s' m e hpos n hm hlow hhigh hvalue =>
      have hn := pos_of_significand hpos hvalue
      cases s' with
      | negative => exact congrArg some (Int.compare_eq_gt.mpr (Int.neg_neg_of_pos hn)).symm
      | positive => exact congrArg some (Int.compare_eq_lt.mpr hn).symm
  | @finite s m e hpos n hm hlow hhigh hvalue =>
    have hn := pos_of_significand hpos hvalue
    cases hv with
    | zero s' =>
      cases s with
      | negative => exact congrArg some (Int.compare_eq_lt.mpr (Int.neg_neg_of_pos hn)).symm
      | positive => exact congrArg some (Int.compare_eq_gt.mpr hn).symm
    | @finite s' m' e' hpos' n' hm' hlow' hhigh' hvalue' =>
      have hn' := pos_of_significand hpos' hvalue'
      have hmagnitudes : (compare e e').then (compare m m') = compare n n' :=
        compare_magnitudes hm hm' hlow hlow' hvalue hvalue'
      cases s with
      | negative =>
        have hneg : Sign.negative.apply n < 0 := Int.neg_neg_of_pos hn
        cases s' with
        | negative =>
          refine congrArg some (Eq.trans ?_ compare_neg_natCast.symm)
          rw [← hmagnitudes]
        | positive => exact congrArg some (Int.compare_eq_lt.mpr (Int.lt_trans hneg hn')).symm
      | positive =>
        cases s' with
        | negative =>
          have hneg : Sign.negative.apply n' < 0 := Int.neg_neg_of_pos hn'
          exact congrArg some (Int.compare_eq_gt.mpr (Int.lt_trans hneg hn)).symm
        | positive => exact congrArg some (hmagnitudes.trans compare_natCast.symm)

theorem float_lt_iff {x y : Float} :
    x < y ↔ x.toModel.unpack.compare y.toModel.unpack = some .lt := by
  change decide (x.toModel < y.toModel) = true ↔ _
  rw [decide_eq_true_iff]
  exact beq_iff_eq

theorem float_beq_iff {x y : Float} :
    (x == y) = true ↔ x.toModel.unpack.compare y.toModel.unpack = some .eq := by
  change (x.toModel.unpack.compare y.toModel.unpack == some .eq) = true ↔ _
  exact beq_iff_eq

/-! ## Integers -/

theorem isInteger_toFloat (hn : n < 2 ^ 64) :
    IsInteger n.toUInt64.toFloat.toModel.unpack (nearestNat n) := by
  have hword : n.toUInt64.toNat = n := by
    rw [Nat.toUInt64_eq, UInt64.toNat_ofNat', Nat.mod_eq_of_lt hn]
  have hnormalize : IsInteger (UnpackedFloat.normalize .binary64 n 0 .positive) (nearestNat n) := by
    rcases Nat.eq_zero_or_pos n with rfl | hpos
    · exact .zero .positive
    · have hcompare : compare (n : Int) 0 = .gt := Int.compare_eq_gt.mpr (by omega)
      rw [UnpackedFloat.normalize, hcompare]
      exact isInteger_round hpos hn
  change IsInteger (Float.Model.pack (UnpackedFloat.normalize .binary64 n.toUInt64.toNat 0
    .positive)).unpack (nearestNat n)
  rw [hword, hnormalize.unpack_pack]
  exact hnormalize

/-- An integer of at most 64 bits becomes the nearest double. -/
theorem isInteger_floatOfInt (hi : i.natAbs < 2 ^ 64) :
    IsInteger (Number.floatOfInt i).toModel.unpack (nearest i) := by
  have hfloat := isInteger_toFloat hi
  unfold Number.floatOfInt nearest
  split
  · change IsInteger (Float.Model.pack i.natAbs.toUInt64.toFloat.toModel.unpack.neg).unpack _
    rw [hfloat.neg.unpack_pack]
    exact hfloat.neg
  · exact hfloat

theorem floatOfInt_lt_iff (hi : i.natAbs < 2 ^ 64) (hj : j.natAbs < 2 ^ 64) :
    Number.floatOfInt i < Number.floatOfInt j ↔ nearest i < nearest j := by
  rw [float_lt_iff, (isInteger_floatOfInt hi).compare_eq (isInteger_floatOfInt hj),
    Option.some.injEq, Int.compare_eq_lt]

theorem floatOfInt_beq_iff (hi : i.natAbs < 2 ^ 64) (hj : j.natAbs < 2 ^ 64) :
    (Number.floatOfInt i == Number.floatOfInt j) = true ↔ nearest i = nearest j := by
  rw [float_beq_iff, (isInteger_floatOfInt hi).compare_eq (isInteger_floatOfInt hj),
    Option.some.injEq, Int.compare_eq_eq]

/-! ## Where rounding makes no difference -/

theorem nearestNat_of_lt (hn : n < 2 ^ 53) : nearestNat n = n := by
  have hlog : n.log2 - 52 = 0 := by
    rcases Nat.eq_zero_or_pos n with rfl | hpos
    · rfl
    · have := (Nat.log2_lt (Nat.ne_of_gt hpos)).mpr hn
      omega
  rw [nearestNat, spacing, hlog, Nat.pow_zero, nearestQuotient_one, Nat.mul_one]

theorem le_nearestNat (hn : 2 ^ 53 ≤ n) : 2 ^ 53 ≤ nearestNat n := by
  have hlog : 53 ≤ n.log2 := (Nat.le_log2 (by omega)).mpr hn
  have hquotient := (nearestQuotient_bounds (n := n) (k := n.log2 - 52) (by omega)).1
  have hspacing : 2 ^ 1 ≤ spacing n := Nat.pow_le_pow_right (by decide) (by omega)
  calc 2 ^ 53 = 2 ^ 52 * 2 ^ 1 := rfl
    _ ≤ nearestNat n := Nat.mul_le_mul hquotient hspacing

/-- **A comparison is exact if one of the two integers has at most 53 bits.** -/
theorem nearest_lt_iff (h : i.natAbs < 2 ^ 53 ∨ j.natAbs < 2 ^ 53) :
    nearest i < nearest j ↔ i < j := by
  unfold nearest
  rcases Nat.lt_or_ge i.natAbs (2 ^ 53) with hi | hi <;>
    rcases Nat.lt_or_ge j.natAbs (2 ^ 53) with hj | hj
  · rw [nearestNat_of_lt hi, nearestNat_of_lt hj]
    omega
  · rw [nearestNat_of_lt hi]
    have := le_nearestNat hj
    split_ifs <;> omega
  · rw [nearestNat_of_lt hj]
    have := le_nearestNat hi
    split_ifs <;> omega
  · omega

theorem nearest_eq_iff (h : i.natAbs < 2 ^ 53 ∨ j.natAbs < 2 ^ 53) :
    nearest i = nearest j ↔ i = j := by
  have hlt := nearest_lt_iff h
  have hgt := nearest_lt_iff h.symm
  omega

end NestedSearch
