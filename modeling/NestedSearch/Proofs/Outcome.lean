/-!
# Peeling outcomes apart

A computation that may fail succeeds exactly if each of its steps does. These facts are what
every inversion of a `do` block in this library is made of.
-/

namespace NestedSearch

variable {ε α β : Type}

theorem bind_eq_ok_iff {x : Except ε α} {f : α → Except ε β} {b : β} :
    (x >>= f) = .ok b ↔ ∃ a, x = .ok a ∧ f a = .ok b := by
  cases x with
  | error e =>
    constructor
    · intro h
      cases h
    · rintro ⟨a, ha, -⟩
      cases ha
  | ok a =>
    constructor
    · intro h
      exact ⟨a, rfl, h⟩
    · rintro ⟨a', ha, h⟩
      cases ha
      exact h

theorem bind_eq_error_iff {x : Except ε α} {f : α → Except ε β} {e : ε} :
    (x >>= f) = .error e ↔ x = .error e ∨ ∃ a, x = .ok a ∧ f a = .error e := by
  cases x with
  | error e' =>
    constructor
    · intro h
      cases h
      exact .inl rfl
    · rintro (h | ⟨a, ha, -⟩)
      · cases h
        rfl
      · cases ha
  | ok a =>
    constructor
    · intro h
      exact .inr ⟨a, rfl, h⟩
    · rintro (h | ⟨a', ha, h⟩)
      · cases h
      · cases ha
        exact h

theorem map_eq_ok_iff {x : Except ε α} {f : α → β} {b : β} :
    x.map f = .ok b ↔ ∃ a, x = .ok a ∧ f a = b := by
  cases x <;> simp [Except.map]

theorem map_eq_error_iff {x : Except ε α} {f : α → β} {e : ε} :
    x.map f = .error e ↔ x = .error e := by
  cases x <;> simp [Except.map]

/-- Two changes of an outcome, made in either order. -/
theorem map_comm {γ γ' δ : Type} {x : Except ε α} {g : α → γ} {f : γ → δ} {g' : α → γ'}
    {f' : γ' → δ} (h : ∀ a, f (g a) = f' (g' a)) : (x.map g).map f = (x.map g').map f' := by
  cases x with
  | error e => rfl
  | ok a => exact congrArg Except.ok (h a)

/-- Two computations that go on from outcomes which they cannot tell apart. -/
theorem bind_eq_of_map_eq {γ : Type} {x y : Except ε α} {g : α → γ} {f f' : α → Except ε β}
    (h : x.map g = y.map g) (hnext : ∀ a b, y = .ok b → g a = g b → f a = f' b) :
    (x >>= f) = (y >>= f') := by
  cases x with
  | error e =>
    cases y with
    | error e' =>
      cases h
      rfl
    | ok b => cases h
  | ok a =>
    cases y with
    | error e' => cases h
    | ok b => exact hnext a b rfl (Except.ok.inj h)

/-- A demand that is only made under a condition. -/
theorem demand_eq_ok_iff {c : Prop} [Decidable c] {x : Except ε Unit} {next : Unit → Except ε β}
    {b : β} :
    (if c then x >>= next else next ()) = .ok b ↔ (c → x = .ok ()) ∧ next () = .ok b := by
  by_cases hc : c
  · rw [if_pos hc, bind_eq_ok_iff]
    constructor
    · rintro ⟨⟨⟩, hx, h⟩
      exact ⟨fun _ => hx, h⟩
    · rintro ⟨hx, h⟩
      exact ⟨(), hx hc, h⟩
  · rw [if_neg hc]
    simp [hc]

theorem demand_of_met {c : Prop} [Decidable c] {x : Except ε Unit} {next : Unit → Except ε β}
    (h : c → x = .ok ()) : (if c then x >>= next else next ()) = next () := by
  split
  · rename_i hc
    rw [h hc]
    rfl
  · rfl

theorem error_of_demand {c : Prop} [Decidable c] {x : Except ε Unit} {next : Unit → Except ε β}
    {e : ε} (h : (if c then x >>= next else next ()) = .error e) :
    x = .error e ∨ next () = .error e := by
  by_cases hc : c
  · rw [if_pos hc] at h
    rcases bind_eq_error_iff.mp h with h | ⟨⟨⟩, -, h⟩
    · exact .inl h
    · exact .inr h
  · rw [if_neg hc] at h
    exact .inr h

/-- A case that is refused. -/
theorem refuse_eq_ok_iff {c : Prop} [Decidable c] {e : ε} {x : Except ε β} {b : β} :
    (if c then .error e else x) = .ok b ↔ ¬c ∧ x = .ok b := by
  by_cases hc : c
  · simp [hc]
  · simp [hc]

theorem toOption_eq_some_iff {x : Except ε α} {a : α} : x.toOption = some a ↔ x = .ok a := by
  cases x <;> simp [Except.toOption]

theorem exists_of_isSome_toOption {x : Except ε α} (h : x.toOption.isSome = true) :
    ∃ a, x = .ok a := by
  obtain ⟨a, ha⟩ := Option.isSome_iff_exists.mp h
  exact ⟨a, toOption_eq_some_iff.mp ha⟩

end NestedSearch
