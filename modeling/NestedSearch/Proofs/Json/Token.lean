import Mathlib.Data.List.Basic
import NestedSearch.Json.Reader
import NestedSearch.Json.Writer

/-!
# Strings and numerals are read back

The reader finds in a text what the writer put there, and stops where the writer stopped. For a
string this is true whatever follows, since the closing quote ends it (`string?_quoted`). A
numeral has no end of its own, and what follows must not look like more of it
(`numeral?_render`).
-/

namespace NestedSearch.Json

/-- The reader finds this value and leaves this rest. -/
def Reads {α : Type} {input : List Char} (found : Option (Step input α)) (value : α)
    (rest : List Char) : Prop :=
  ∃ step, found = some step ∧ step.value = value ∧ step.rest = rest

theorem Reads.map {α β : Type} {input rest : List Char} {found : Option (Step input α)} {value : α}
    (h : Reads found value rest) (f : α → β) :
    Reads (found.map fun r => r.map f) (f value) rest := by
  obtain ⟨step, rfl, rfl, rfl⟩ := h
  exact ⟨_, rfl, rfl, rfl⟩

theorem Reads.weaken {α : Type} {input input' rest : List Char} {found : Option (Step input α)}
    {value : α} (h : Reads found value rest) (hle : input.length ≤ input'.length) :
    Reads (found.map fun r => r.weaken hle) value rest := by
  obtain ⟨step, rfl, rfl, rfl⟩ := h
  exact ⟨_, rfl, rfl, rfl⟩

theorem Reads.lift {α β : Type} {input input' rest : List Char} {found : Option (Step input α)}
    {value : α} (h : Reads found value rest) (f : α → β) (hle : input.length ≤ input'.length) :
    Reads (found.map fun r => (r.map f).weaken hle) (f value) rest := by
  obtain ⟨step, rfl, rfl, rfl⟩ := h
  exact ⟨_, rfl, rfl, rfl⟩

/-! ## Strings -/

theorem hexDigit?_hexChar : ∀ n < 16, hexDigit? (hexChar n) = some n := by decide

/-- A character below the blank is written with four hexadecimal digits. -/
theorem hexUnit?_hexChar {n : Nat} (h : n < 256) :
    hexUnit? '0' '0' (hexChar (n / 16)) (hexChar (n % 16)) = some n := by
  have hzero : hexDigit? '0' = some 0 := by decide
  unfold hexUnit?
  rw [hzero, hexDigit?_hexChar _ (by omega), hexDigit?_hexChar _ (by omega)]
  show some (((0 * 16 + 0) * 16 + n / 16) * 16 + n % 16) = some n
  congr 1
  omega

/-- A character is read back, however it is written. -/
theorem units?_escape (c : Char) (s : List Char) :
    units? (escape c ++ s) = (units? s).map fun r => (c.toNat :: r.1, r.2) := by
  unfold escape
  split
  · next h => subst h; rfl
  split
  · next h => subst h; rfl
  split
  · next h => subst h; rfl
  split
  · next h => subst h; rfl
  split
  · next h => subst h; rfl
  split
  · next h => subst h; rfl
  split
  · next h => subst h; rfl
  split
  · next hcontrol =>
    have hsmall : c.toNat < 256 := Nat.lt_trans (show c.toNat < 32 from hcontrol) (by omega)
    simp only [List.cons_append, List.nil_append]
    rw [units?, hexUnit?_hexChar hsmall]
  · next hquote hbackslash _ _ _ _ _ hcontrol =>
    rw [List.singleton_append, units?, if_pos (Char.not_lt.mp hcontrol)]
    · exact hquote
    · intro _ _ _ _ _ hc
      exact absurd hc hbackslash
    · intro _ _ hc
      exact absurd hc hbackslash

theorem units?_flatMap_escape (cs rest : List Char) :
    units? (cs.flatMap escape ++ '"' :: rest) = some (cs.map Char.toNat, rest) := by
  induction cs with
  | nil => rfl
  | cons c cs ih =>
    rw [List.flatMap_cons, List.append_assoc, units?_escape, ih]
    rfl

/-- No character is half of a surrogate pair. -/
theorem ofUnits?_map_toNat (cs : List Char) : ofUnits? (cs.map Char.toNat) = some cs := by
  induction cs with
  | nil => rfl
  | cons c cs ih =>
    have hvalid : c.toNat < 0xD800 ∨ (0xDFFF < c.toNat ∧ c.toNat < 0x110000) := c.valid
    rw [List.map_cons, ofUnits?.eq_def]
    simp only
    rw [if_neg (by simp; omega), if_neg (by simp; omega), ih, Char.ofNat_toNat]
    rfl

theorem string?_of_units? {s rest : List Char} {units : List Nat}
    (h : units? s = some (units, rest)) :
    Reads (string? s) ((ofUnits? units).map String.ofList) rest := by
  unfold string?
  split
  · next hnone => cases hnone.symm.trans h
  · next r hsome =>
    cases hsome.symm.trans h
    exact ⟨_, rfl, rfl, rfl⟩

/-- **A string is read back.** -/
theorem string?_quoted (text : String) (rest : List Char) :
    Reads (string? (text.toList.flatMap escape ++ '"' :: rest)) (some text) rest := by
  have h := string?_of_units? (units?_flatMap_escape text.toList rest)
  rwa [ofUnits?_map_toNat, Option.map_some, String.ofList_toList] at h

theorem toList_quoted (text : String) :
    (quoted text).toList = '"' :: (text.toList.flatMap escape ++ ['"']) := by
  unfold quoted
  simp

/-! ## Digits -/

theorem digit?_digitChar : ∀ d : Fin 10, digit? (digitChar d) = some d := by decide

theorem toNat_of_isDigit {c : Char} (h : c.isDigit = true) : 48 ≤ c.toNat ∧ c.toNat ≤ 57 := by
  simpa [Char.isDigit, UInt32.le_iff_toNat_le] using h

theorem isDigit_of_mem_toDigits {n : Nat} {c : Char} (h : c ∈ Nat.toDigits 10 n) :
    c.isDigit = true :=
  Nat.isDigit_of_mem_toDigits (by omega) (Nat.le_refl 10) h

theorem val_digitOf {c : Char} (h : c.isDigit = true) : (digitOf c).val = c.toNat - '0'.toNat := by
  have hbounds := toNat_of_isDigit h
  show (c.toNat - 48) % 10 = c.toNat - 48
  omega

theorem digitChar_digitOf {c : Char} (h : c.isDigit = true) : digitChar (digitOf c) = c := by
  have hvalue : '0'.toNat + (digitOf c).val = c.toNat := by
    have hbounds := toNat_of_isDigit h
    rw [val_digitOf h]
    show 48 + (c.toNat - 48) = c.toNat
    omega
  unfold digitChar
  rw [hvalue, Char.ofNat_toNat]

theorem map_digitChar_decimalDigits (n : Nat) :
    (decimalDigits n).map digitChar = Nat.toDigits 10 n := by
  unfold decimalDigits
  rw [List.map_map]
  refine (List.map_congr_left fun c hc => ?_).trans (List.map_id _)
  exact digitChar_digitOf (isDigit_of_mem_toDigits hc)

theorem ofDecimalDigits_decimalDigits (n : Nat) : ofDecimalDigits (decimalDigits n) = n := by
  unfold ofDecimalDigits decimalDigits
  rw [List.foldl_map]
  refine (List.foldl_ext _ _ 0 fun m c hc => ?_).trans
    (Nat.ofDigitChars_toDigits (show 1 < 10 by omega) (Nat.le_refl 10))
  rw [val_digitOf (isDigit_of_mem_toDigits hc)]

/-- A number other than zero does not begin with a zero. -/
theorem exists_toDigits_cons {n : Nat} (h : n ≠ 0) :
    ∃ c cs, Nat.toDigits 10 n = c :: cs ∧ c ≠ '0' := by
  induction n using Nat.strongRecOn with
  | ind n ih =>
    rcases Nat.lt_or_ge n 10 with hlt | hge
    · have hdigit : ∀ m < 10, m ≠ 0 → m.digitChar ≠ '0' := by decide
      exact ⟨_, [], Nat.toDigits_of_lt_base hlt, hdigit n hlt h⟩
    · obtain ⟨c, cs, hcons, hc⟩ := ih (n / 10) (by omega) (by omega)
      refine ⟨c, cs ++ [(n % 10).digitChar], ?_, hc⟩
      rw [Nat.toDigits_of_base_le (by omega) hge, hcons, List.cons_append]

/-! ## Numerals -/

/-- No digit comes next. -/
def EndsDigits (rest : List Char) : Prop := ∀ c ∈ rest.head?, c.isDigit = false

/-- What comes next is no part of a numeral. -/
def EndsNumeral (rest : List Char) : Prop :=
  ∀ c ∈ rest.head?, c.isDigit = false ∧ c ≠ '.' ∧ c ≠ 'e' ∧ c ≠ 'E'

theorem digits_append (ds : List (Fin 10)) {rest : List Char} (h : EndsDigits rest) :
    digits (ds.map digitChar ++ rest) = (ds, rest) := by
  induction ds with
  | nil =>
    cases rest with
    | nil => rfl
    | cons c rest =>
      have hc : digit? c = none := by
        unfold digit?
        rw [h c rfl]
        rfl
      rw [List.map_nil, List.nil_append, digits, hc]
  | cons d ds ih => rw [List.map_cons, List.cons_append, digits, digit?_digitChar, ih]

theorem digits_toDigits (n : Nat) {rest : List Char} (h : EndsDigits rest) :
    digits (Nat.toDigits 10 n ++ rest) = (decimalDigits n, rest) := by
  rw [← map_digitChar_decimalDigits, digits_append _ h]

theorem decimalDigits_ne_nil (n : Nat) : decimalDigits n ≠ [] := by
  unfold decimalDigits
  exact fun h => Nat.toDigits_ne_nil (List.map_eq_nil_iff.mp h)

theorem digits?_of_digits {s rest : List Char} {ds : List (Fin 10)} (h : digits s = (ds, rest))
    (hne : ds ≠ []) : Reads (digits? s) ds rest := by
  unfold digits?
  rw [dif_neg (by rw [h]; exact hne)]
  exact ⟨_, rfl, congrArg Prod.fst h, congrArg Prod.snd h⟩

theorem whole?_toDigits (n : Nat) {rest : List Char} (h : EndsDigits rest) :
    Reads (whole? (Nat.toDigits 10 n ++ rest)) n rest := by
  by_cases hzero : n = 0
  · subst hzero
    exact ⟨_, rfl, rfl, rfl⟩
  · have hdigits := digits_toDigits n h
    obtain ⟨c, cs, hcons, hc⟩ := exists_toDigits_cons hzero
    have hdigit : c.isDigit = true := isDigit_of_mem_toDigits (hcons ▸ List.mem_cons_self)
    rw [hcons, List.cons_append] at hdigits ⊢
    have hsome : (digits (c :: (cs ++ rest))).1 ≠ [] := by
      rw [hdigits]
      exact decimalDigits_ne_nil n
    simp only [whole?, if_neg hc, if_pos hdigit, dif_neg hsome]
    refine ⟨_, rfl, ?_, congrArg Prod.snd hdigits⟩
    exact (congrArg (ofDecimalDigits ·.1) hdigits).trans (ofDecimalDigits_decimalDigits n)

/-- A fraction part as it is written. -/
def fractionChars (ds : List (Fin 10)) : List Char :=
  if ds = [] then [] else '.' :: ds.map digitChar

/-- An exponent as it is written. -/
def exponentChars : Option Int → List Char
  | none => []
  | some e => 'e' :: (if e < 0 then '-' else '+') :: Nat.toDigits 10 e.natAbs

theorem fraction?_fractionChars (ds : List (Fin 10)) {rest : List Char} (h : EndsDigits rest)
    (hpoint : ∀ c ∈ rest.head?, c ≠ '.') :
    ∃ hle, fraction? (fractionChars ds ++ rest) = some (ds, ⟨rest, hle⟩) := by
  by_cases hnone : ds = []
  · subst hnone
    refine ⟨Nat.le_refl _, ?_⟩
    show fraction? rest = _
    unfold fraction?
    split
    · exact absurd rfl (hpoint '.' rfl)
    · rfl
  · obtain ⟨step, hstep, hvalue, hrest⟩ := digits?_of_digits (digits_append ds h) hnone
    have hchars : fractionChars ds = '.' :: ds.map digitChar := if_neg hnone
    rw [hchars, List.cons_append, fraction?, hstep]
    refine ⟨?_, by simp only [Option.map_some, hvalue, hrest]⟩
    rw [List.length_cons, List.length_append]
    omega

theorem exponent?_exponentChars (e : Option Int) {rest : List Char} (h : EndsNumeral rest) :
    ∃ hle, exponent? (exponentChars e ++ rest) = some (e, ⟨rest, hle⟩) := by
  cases e with
  | none =>
    refine ⟨Nat.le_refl _, ?_⟩
    show exponent? rest = _
    cases rest with
    | nil => rfl
    | cons c rest =>
      obtain ⟨-, -, he, hE⟩ := h c rfl
      exact if_neg (by simp [he, hE])
  | some e =>
    have hdigits := digits_toDigits e.natAbs (fun c hc => (h c hc).1)
    obtain ⟨step, hstep, hvalue, hrest⟩ :=
      digits?_of_digits hdigits (decimalDigits_ne_nil e.natAbs)
    have hnat : ofDecimalDigits step.value = e.natAbs := by
      rw [hvalue, ofDecimalDigits_decimalDigits]
    by_cases hsign : e < 0
    · have hchars : exponentChars (some e) = 'e' :: '-' :: Nat.toDigits 10 e.natAbs := by
        rw [exponentChars, if_pos hsign]
      have hnegative : -(e.natAbs : Int) = e := by omega
      rw [hchars]
      refine ⟨by simp only [List.cons_append, List.length_cons, List.length_append]; omega, ?_⟩
      show (digits? (Nat.toDigits 10 e.natAbs ++ rest)).map _ = _
      simp only [hstep, Option.map_some, hrest, hnat, hnegative]
    · have hchars : exponentChars (some e) = 'e' :: '+' :: Nat.toDigits 10 e.natAbs := by
        rw [exponentChars, if_neg hsign]
      have hpositive : (e.natAbs : Int) = e := by omega
      rw [hchars]
      refine ⟨by simp only [List.cons_append, List.length_cons, List.length_append]; omega, ?_⟩
      show (digits? (Nat.toDigits 10 e.natAbs ++ rest)).map _ = _
      simp only [hstep, Option.map_some, hrest, hnat, hpositive]

/-- After the digits of a numeral comes a fraction, an exponent or its end. -/
theorem EndsNumeral.exponentChars {rest : List Char} (h : EndsNumeral rest) (e : Option Int) :
    EndsDigits (exponentChars e ++ rest) ∧ ∀ c ∈ (Json.exponentChars e ++ rest).head?, c ≠ '.' := by
  cases e with
  | none => exact ⟨fun c hc => (h c hc).1, fun c hc => (h c hc).2.1⟩
  | some e => constructor <;> rintro c ⟨⟩ <;> decide

theorem EndsDigits.fractionChars {rest : List Char} (h : EndsDigits rest) (ds : List (Fin 10)) :
    EndsDigits (fractionChars ds ++ rest) := by
  unfold Json.fractionChars
  split
  · exact h
  · rintro c ⟨⟩
    decide

/-- A numeral as it is written, its sign apart. -/
def unsignedChars (n : Numeral) : List Char :=
  Nat.toDigits 10 n.whole ++ (fractionChars n.fraction ++ exponentChars n.exponent)

theorem toList_render (n : Numeral) :
    (n.render true).toList = (if n.negative then ['-'] else []) ++ unsignedChars n := by
  obtain ⟨negative, whole, fraction, exponent⟩ := n
  have hfraction : (if fraction = [] then "" else
      "." ++ String.ofList (fraction.map digitChar)).toList = fractionChars fraction := by
    unfold fractionChars
    split <;> simp
  have hsign : (if negative then "-" else "").toList = if negative then ['-'] else [] := by
    cases negative <;> rfl
  unfold Numeral.render unsignedChars
  simp only [String.toList_append, hsign, hfraction, Nat.toString_eq_repr, Nat.toList_repr,
    List.append_assoc]
  cases exponent with
  | none => rfl
  | some e => by_cases he : e < 0 <;> simp [exponentChars, he]

/-- A numeral is read part by part. -/
theorem unsigned?_of_parts {negative : Bool} {s s₁ s₂ s₃ : List Char} {whole : Nat}
    {fraction : List (Fin 10)} {exponent : Option Int} (hwhole : Reads (whole? s) whole s₁)
    (hfraction : ∃ hle, fraction? s₁ = some (fraction, ⟨s₂, hle⟩))
    (hexponent : ∃ hle, exponent? s₂ = some (exponent, ⟨s₃, hle⟩)) :
    Reads (unsigned? negative s) ⟨negative, whole, fraction, exponent⟩ s₃ := by
  obtain ⟨step, hwhole, rfl, rfl⟩ := hwhole
  obtain ⟨hle, hfraction⟩ := hfraction
  obtain ⟨hle', hexponent⟩ := hexponent
  simp only [unsigned?, hwhole, hfraction, hexponent, Option.bind_eq_bind, Option.bind_some]
  exact ⟨_, rfl, rfl, rfl⟩

theorem unsigned?_unsignedChars (n : Numeral) {rest : List Char} (h : EndsNumeral rest) :
    Reads (unsigned? n.negative (unsignedChars n ++ rest)) n rest := by
  obtain ⟨hdigits, hpoint⟩ := h.exponentChars n.exponent
  rw [unsignedChars, List.append_assoc, List.append_assoc]
  exact unsigned?_of_parts (whole?_toDigits n.whole (hdigits.fractionChars n.fraction))
    (fraction?_fractionChars n.fraction hdigits hpoint) (exponent?_exponentChars n.exponent h)

/-- A numeral begins with a digit, its sign apart. -/
theorem exists_unsignedChars_cons (n : Numeral) :
    ∃ c cs, unsignedChars n = c :: cs ∧ c.isDigit = true := by
  obtain ⟨c, cs, hcons⟩ := List.exists_cons_of_ne_nil
    (Nat.toDigits_ne_nil : Nat.toDigits 10 n.whole ≠ [])
  refine ⟨c, cs ++ (fractionChars n.fraction ++ exponentChars n.exponent), ?_,
    isDigit_of_mem_toDigits (hcons ▸ List.mem_cons_self)⟩
  rw [unsignedChars, hcons, List.cons_append]

theorem numeral?_of_isDigit {c : Char} (h : c.isDigit = true) (rest : List Char) :
    numeral? (c :: rest) = unsigned? false (c :: rest) := by
  rw [numeral?]
  intro _ heq
  cases heq
  cases h

/-- A numeral begins with its sign or with a digit. -/
theorem exists_render_cons (n : Numeral) :
    ∃ c cs, (n.render true).toList = c :: cs ∧ (c = '-' ∨ c.isDigit = true) := by
  obtain ⟨c, cs, hcons, hdigit⟩ := exists_unsignedChars_cons n
  rw [toList_render, hcons]
  cases n.negative with
  | true => exact ⟨'-', c :: cs, rfl, .inl rfl⟩
  | false => exact ⟨c, cs, rfl, .inr hdigit⟩

/-- **A numeral is read back**, if what follows is no more of it. -/
theorem numeral?_render (n : Numeral) {rest : List Char} (h : EndsNumeral rest) :
    Reads (numeral? ((n.render true).toList ++ rest)) n rest := by
  have hread := unsigned?_unsignedChars n h
  rw [toList_render]
  cases hnegative : n.negative with
  | true =>
    rw [hnegative] at hread
    show Reads ((unsigned? true (unsignedChars n ++ rest)).map _) n rest
    exact hread.weaken _
  | false =>
    obtain ⟨c, cs, hcons, hdigit⟩ := exists_unsignedChars_cons n
    rw [hnegative, hcons] at hread
    rw [hcons]
    show Reads (numeral? (c :: (cs ++ rest))) n rest
    rw [numeral?_of_isDigit hdigit]
    exact hread

end NestedSearch.Json
