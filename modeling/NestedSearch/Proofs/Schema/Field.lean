import Mathlib.Data.List.Basic
import NestedSearch.Schema.Field

/-!
# Types as they are shown

Types are compared across indexes by how they are shown. `describe_injective` says that nothing is
lost by that: the dimension of a vector is written in digits and ends at the comma.
-/

namespace NestedSearch

theorem comma_not_mem_toDigits (n : Nat) : ',' ∉ Nat.toDigits 10 n := by
  intro h
  have hdigit := Nat.isDigit_of_mem_toDigits (by omega) (by omega) h
  cases hdigit

theorem FieldType.toList_describe_vector (dimension : Nat) (metric : DistanceMetric) :
    (FieldType.vector dimension metric).describe.toList =
      "Vector(".toList ++
        (Nat.toDigits 10 dimension ++ ',' :: ' ' :: (metric.name ++ ")").toList) := by
  unfold describe
  simp [ToString.toString]

/-- **Two types that are shown alike are the same.** -/
theorem FieldType.describe_injective {s t : FieldType} (h : s.describe = t.describe) : s = t := by
  cases s with
  | vector d m =>
    cases t with
    | vector d' m' =>
      have hlist := congrArg String.toList h
      rw [toList_describe_vector, toList_describe_vector] at hlist
      have hrest := List.append_cancel_left hlist
      -- No comma stands behind the first one, so it is found from both sides.
      have hcomma : ',' ∉ ' ' :: (m.name ++ ")").toList := by cases m <;> decide
      obtain ⟨hdigits, -, hname⟩ :=
        (List.append_cons_inj_of_notMem (comma_not_mem_toDigits d) hcomma).mp hrest
      have hdimension : d = d' := by
        have hvalue := congrArg (fun ds => Nat.ofDigitChars 10 ds 0) hdigits
        simpa only [Nat.ofDigitChars_ten_toDigits] using hvalue
      have hmetric : m = m' := by
        cases m <;> cases m' <;> first | rfl | exact absurd hname (by decide)
      rw [hdimension, hmetric]
    | _ =>
      have hlist := congrArg String.toList h
      rw [toList_describe_vector] at hlist
      cases hlist
  | _ =>
    cases t with
    | vector d m =>
      have hlist := congrArg String.toList h
      rw [toList_describe_vector] at hlist
      cases hlist
    | _ => first | rfl | exact absurd h (by decide)

theorem FieldType.describe_inj {s t : FieldType} : s.describe = t.describe ↔ s = t :=
  ⟨describe_injective, congrArg describe⟩

end NestedSearch
