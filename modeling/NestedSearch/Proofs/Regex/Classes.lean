import Mathlib.Data.List.TakeWhile
import NestedSearch.Proofs.Regex.Extension

/-!
# Bracketed classes within a longer text

A class ends at its closing bracket, so what follows makes no difference to it. This takes an
argument in two places: a hyphen is read by what stands behind it, and what looks like the
beginning of an ASCII class may become one only with the text that follows.
-/

namespace NestedSearch.Regex.Parser

variable {v : Bool} {c : Char} {s rest : List Char}

/-! ## Cutting at a mark -/

theorem cut?_singleton_eq_some_iff {mark : Char} {before : List Char} :
    cut? [mark] s = some (before, rest) ↔ s = before ++ mark :: rest ∧ mark ∉ before := by
  induction s generalizing before with
  | nil => simp [cut?]
  | cons c s ih =>
    by_cases hc : mark = c
    · subst hc
      cases before with
      | nil => simp [cut?]
      | cons d before => simp [cut?]; grind
    · cases before with
      | nil => simp [cut?, hc, Ne.symm hc]
      | cons d before => simp [cut?, hc, ih]; grind

/-! ## Classes of ASCII -/

/-- The characters before the closing bracket of an ASCII class. -/
def isInAsciiClass (c : Char) : Bool := c = ':' || c = '^' || c.isLower

theorem isLower_of_named? {name : List Char} {kind : AsciiClass}
    (h : AsciiClass.named? (String.ofList name) = some kind) : ∀ c ∈ name, c.isLower := by
  obtain ⟨text, rfl⟩ : ∃ text : String, name = text.toList := ⟨String.ofList name, by simp⟩
  rw [String.ofList_toList] at h
  refine List.all_eq_true.mp ?_
  unfold AsciiClass.named? at h
  split at h <;> first | decide +kernel | cases h

/-- Behind the colon and the sign, a class of ASCII is a name and what closes the class. -/
theorem exists_of_named? {item : ClassPattern} {negated : Bool} {tail : List Char}
    (h : (match cut? [':'] tail with
      | some (name, ']' :: rest) =>
        (AsciiClass.named? (String.ofList name)).map
          fun kind => (ClassPattern.ascii negated kind, rest)
      | _ => none) = some (item, rest)) :
    ∃ name kind, tail = name ++ ':' :: ']' :: rest ∧
      AsciiClass.named? (String.ofList name) = some kind ∧ item = .ascii negated kind := by
  split at h
  case h_2 => cases h
  case h_1 name rest' hname =>
    obtain ⟨kind, hkind, heq⟩ := Option.map_eq_some_iff.mp h
    obtain ⟨rfl, rfl⟩ := Prod.mk.inj heq
    exact ⟨name, kind, (cut?_singleton_eq_some_iff.mp hname).1, hkind, rfl⟩

theorem asciiClass?_eq_some_iff {item : ClassPattern} :
    asciiClass? s = some (item, rest) ↔ ∃ negated name kind,
      s = ':' :: ((if negated then ['^'] else []) ++ name ++ ':' :: ']' :: rest) ∧
        AsciiClass.named? (String.ofList name) = some kind ∧ item = .ascii negated kind := by
  constructor
  · intro h
    unfold asciiClass? at h
    split at h
    case h_2 => cases h
    case h_1 inside =>
      obtain ⟨name, kind, htail, hkind, rfl⟩ := exists_of_named? h
      refine ⟨_, name, kind, ?_, hkind, rfl⟩
      rw [List.append_assoc, ← htail]
      split <;> rfl
  · rintro ⟨negated, name, kind, rfl, hkind, rfl⟩
    have hlower := isLower_of_named? hkind
    have hcut : cut? [':'] (name ++ ':' :: ']' :: rest) = some (name, ']' :: rest) :=
      cut?_singleton_eq_some_iff.mpr ⟨rfl, fun h => absurd (hlower _ h) (by decide)⟩
    cases negated with
    | true => simp [asciiClass?, hcut, hkind]
    | false =>
      have hhead : ∀ tail, name ++ ':' :: ']' :: rest ≠ '^' :: tail := by
        intro tail heq
        cases name with
        | nil => simp at heq
        | cons d name =>
          obtain rfl : d = '^' := by simp_all
          exact absurd (hlower '^' (by simp)) (by decide)
      simp [asciiClass?, hcut, hkind]

theorem asciiClass?_append {item : ClassPattern} (h : asciiClass? s = some (item, rest))
    (t : List Char) : asciiClass? (s ++ t) = some (item, rest ++ t) := by
  obtain ⟨negated, name, kind, rfl, hkind, rfl⟩ := asciiClass?_eq_some_iff.mp h
  exact asciiClass?_eq_some_iff.mpr ⟨negated, name, kind, by simp, hkind, rfl⟩

/-- What is no ASCII class does not become one with more text, unless that text has to close it. -/
theorem asciiClass?_append_eq_none (h : asciiClass? s = none)
    (hs : ¬ ∀ c ∈ s, isInAsciiClass c) (t : List Char) : asciiClass? (s ++ t) = none := by
  refine Option.eq_none_iff_forall_ne_some.mpr fun ⟨item, r⟩ hsome => ?_
  obtain ⟨negated, name, kind, heq, hkind, -⟩ := asciiClass?_eq_some_iff.mp hsome
  have hlower := isLower_of_named? hkind
  obtain ⟨head, hhead⟩ :
      ∃ head, head = ':' :: ((if negated then ['^'] else []) ++ name ++ [':']) := ⟨_, rfl⟩
  have hin : ∀ c ∈ head, isInAsciiClass c := by
    rw [hhead]
    cases negated <;> simp only [isInAsciiClass] <;> grind
  have hsplit : s ++ t = head ++ ']' :: r := by simp [heq, hhead]
  obtain ⟨u, rfl, hu⟩ | ⟨u, rfl, hu⟩ := List.append_eq_append_iff.mp hsplit
  · exact hs fun c hc => hin c (List.mem_append_left _ hc)
  · cases u with
    | nil => exact hs (by simpa using hin)
    | cons d u =>
      obtain ⟨rfl, hr⟩ := List.cons.inj hu
      have hclass : asciiClass? (head ++ ']' :: u) = some (.ascii negated kind, u) :=
        asciiClass?_eq_some_iff.mpr ⟨negated, name, kind, by simp [hhead], hkind, rfl⟩
      simp [hclass] at h

/-! ## Items and ranges -/

theorem classItem?_extends {p : Primitive} (h : classItem? v s = some (p, rest)) :
    Extends (fun _ => classItem? v) (fun r => (p, r)) s rest := by
  unfold classItem? at h
  split at h
  case h_1 => cases h
  case h_2 after =>
    exact (escape?_extends h).imp fun fuel t => ⟨fuel, fun x hx => by simpa [classItem?] using hx⟩
  case h_3 c after hc =>
    obtain ⟨rfl, rfl⟩ := Prod.mk.inj (Option.some.inj h)
    exact .through fun _ t => by simp [classItem?]

theorem skipSpaceAndComments_dropWhile :
    skipSpaceAndComments false s =
      skipSpaceAndComments false (s.dropWhile Text.isWhiteSpace) := by
  induction s with
  | nil => rfl
  | cons c s ih =>
    by_cases hc : Text.isWhiteSpace c
    · simpa [skipSpaceAndComments, hc] using ih
    · simp [hc]

theorem skipSpaceAndComments_of_white {comment : Bool} (h : ∀ c ∈ s, Text.isWhiteSpace c) :
    skipSpaceAndComments comment s = [] := by
  induction s generalizing comment with
  | nil => cases comment <;> rfl
  | cons c s ih =>
    obtain ⟨hc, hs⟩ := List.forall_mem_cons.mp h
    cases comment <;> simp [skipSpaceAndComments, hc, ih hs]

/-- The character that decides about a hyphen is not changed by more text, if it is one that
    counts or if something stands behind the hyphen. -/
theorem peekPast_append (h : peekPast v s = some ']' ∨ peekPast v s = some '-' ∨ skip v s ≠ [])
    (t : List Char) : peekPast v (s ++ t) = peekPast v s := by
  cases v with
  | false => cases s <;> simp_all [peekPast, skip]
  | true =>
    have hskip : skip true s = skipSpaceAndComments false (s.dropWhile Text.isWhiteSpace) :=
      skipSpaceAndComments_dropWhile
    -- Where nothing stands behind the hyphen, the first character decides, and it is one that
    -- counts, so that no white space is dropped before it.
    have hfirst (hpeek : peekPast true s = s.head?) (hempty : skip true s = []) :
        ∃ d, (d = ']' ∨ d = '-') ∧ (s.dropWhile Text.isWhiteSpace).head? = some d := by
      rw [hpeek] at h
      obtain ⟨d, hd, hhead⟩ : ∃ d, (d = ']' ∨ d = '-') ∧ s.head? = some d := by grind
      refine ⟨d, hd, ?_⟩
      cases s with
      | nil => simp at hhead
      | cons e s =>
        obtain rfl : e = d := by simpa using hhead
        have : Text.isWhiteSpace e = false := by rcases hd with rfl | rfl <;> decide
        simp [this]
    cases hdrop : s.dropWhile Text.isWhiteSpace with
    | nil =>
      obtain ⟨d, -, hhead⟩ := hfirst (by simp [peekPast, hdrop]) (by rw [hskip, hdrop]; rfl)
      simp [hdrop] at hhead
    | cons c r =>
      have happend : (s ++ t).dropWhile Text.isWhiteSpace = c :: (r ++ t) := by
        simp [List.dropWhile_append, hdrop]
      by_cases hc : c = '#'
      · subst hc
        cases hafter : r.dropWhile Text.isWhiteSpace with
        | nil =>
          have hwhite := List.dropWhile_eq_nil_iff.mp hafter
          have hcomment : skipSpaceAndComments false ('#' :: r) = [] := by
            have : Text.isWhiteSpace '#' = false := by decide
            simp [skipSpaceAndComments, this, skipSpaceAndComments_of_white hwhite]
          obtain ⟨d, hd, hhead⟩ :=
            hfirst (by simp [peekPast, hdrop, hafter]) (by rw [hskip, hdrop, hcomment])
          simp [hdrop] at hhead
          simp [← hhead] at hd
        | cons d r' =>
          have happend' : (r ++ t).dropWhile Text.isWhiteSpace = d :: (r' ++ t) := by
            simp [List.dropWhile_append, hafter]
          simp [peekPast, hdrop, happend, hafter, happend']
      · simp [peekPast, hdrop, happend]

/-- What a first item, with `behind` standing behind it after space, makes with that: an item by
    itself, or a range. -/
inductive RangeIn (v : Bool) (first : Primitive) : (behind : List Char) → (item : ClassPattern) →
    (rest : List Char) → Prop where
  | single {c : Char} {tail : List Char} {item : ClassPattern} (hitem : first.classItem? = some item)
      (hhyphen : c = '-' → peekPast v tail = some ']' ∨ peekPast v tail = some '-') :
      RangeIn v first (c :: tail) item (c :: tail)
  | range {d : Char} {tail after rest : List Char} {a b : Literal} (ha : first = .literal a)
      (hpeek : ¬ (peekPast v tail = some ']' ∨ peekPast v tail = some '-'))
      (hskip : skip v tail = d :: after)
      (hb : classItem? v (d :: after) = some (.literal b, rest)) (hle : a.code ≤ b.code) :
      RangeIn v first ('-' :: tail) (.range a b) rest

theorem classRange?_eq_some_iff {item : ClassPattern} :
    classRange? v s = some (item, rest) ↔ ∃ first after,
      classItem? v s = some (first, after) ∧ RangeIn v first (skip v after) item rest := by
  constructor
  · intro h
    obtain ⟨⟨first, after⟩, hfirst, hrange⟩ := Option.bind_eq_some_iff.mp h
    refine ⟨first, after, hfirst, ?_⟩
    dsimp only at hrange
    split at hrange
    · cases hrange
    · rename_i tail hskip
      rw [hskip]
      split at hrange
      · rename_i hpeek
        obtain ⟨item', hitem, heq⟩ := Option.bind_eq_some_iff.mp hrange
        obtain ⟨rfl, rfl⟩ := Prod.mk.inj (Option.some.inj heq)
        exact .single hitem fun _ => by simpa using hpeek
      · rename_i hpeek
        split at hrange
        · cases hrange
        · rename_i hopen
          obtain ⟨⟨last, r⟩, hlast, hends⟩ := Option.bind_eq_some_iff.mp hrange
          obtain ⟨d, after', hd⟩ := List.exists_cons_of_ne_nil hopen
          dsimp only at hends
          split at hends
          · split at hends
            · rename_i a b hle
              obtain ⟨rfl, rfl⟩ := Prod.mk.inj (Option.some.inj hends)
              exact .range rfl (by simpa using hpeek) hd (hd ▸ hlast) hle
            · cases hends
          · cases hends
    · rename_i hopen hhyphen
      obtain ⟨item', hitem, heq⟩ := Option.bind_eq_some_iff.mp hrange
      obtain ⟨rfl, rfl⟩ := Prod.mk.inj (Option.some.inj heq)
      obtain ⟨c, tail, hc⟩ := List.exists_cons_of_ne_nil hopen
      rw [hc] at hhyphen ⊢
      exact .single hitem fun h => absurd (h ▸ rfl) (hhyphen tail)
  · rintro ⟨first, after, hfirst, hrange⟩
    cases hskip : skip v after with
    | nil => rw [hskip] at hrange; cases hrange
    | cons c tail =>
      rw [hskip] at hrange
      cases hrange with
      | single hitem hhyphen =>
        by_cases hc : c = '-'
        · subst hc
          simp [classRange?, hfirst, hskip, hitem, hhyphen rfl]
        · simp [classRange?, hfirst, hskip, hitem, hc]
      | range ha hpeek hskip' hb hle =>
        simp [classRange?, hfirst, hskip, hpeek, hskip', hb, ha, hle]

/-- A range, or an item, with something left behind it. -/
theorem classRange?_append {item : ClassPattern} (h : classRange? v s = some (item, rest))
    (hrest : rest ≠ []) (t : List Char) : classRange? v (s ++ t) = some (item, rest ++ t) := by
  obtain ⟨first, after, hfirst, hrange⟩ := classRange?_eq_some_iff.mp h
  have hafter : after ≠ [] := by
    rintro rfl
    rw [skip_nil] at hrange
    cases hrange
  refine classRange?_eq_some_iff.mpr
    ⟨first, after ++ t, (classItem?_extends hfirst).append hafter 0 t, ?_⟩
  generalize hskip : skip v after = behind at hrange
  cases hrange with
  | single hitem hhyphen =>
    rw [skip_append hskip]
    exact .single hitem fun hc => by
      rw [peekPast_append ((hhyphen hc).imp_right .inl)]
      exact hhyphen hc
  | range ha hpeek hskip' hb hle =>
    rw [skip_append hskip]
    exact .range ha (by rwa [peekPast_append (.inr (.inr (by simp [hskip'])))]) (skip_append hskip' t)
      ((classItem?_extends hb).append hrest 0 t) hle

/-! ## Whole classes -/

/-- The sign of negation of a class and the space around it. -/
def classSign (v : Bool) (s : List Char) : Bool × List Char :=
  match skip v s with
  | '^' :: rest => (true, skip v rest)
  | s => (false, s)

/-- The items that stand at the beginning of a class after its sign, and what is left. -/
def classItems (v : Bool) (hyphens : Nat) (s : List Char) : List ClassPattern × List Char :=
  match hyphens, s with
  | 0, ']' :: rest => ([.literal ⟨']'.toNat, false⟩], skip v rest)
  | _, s => (List.replicate hyphens (ClassPattern.literal ⟨'-'.toNat, false⟩), s)

theorem classItems_of_leadingHyphens (v negated : Bool) (s : List Char) :
    (match leadingHyphens v (s.length + 1) s with
      | (hyphens, s) => match hyphens, s with
        | 0, ']' :: rest => (negated, [.literal ⟨']'.toNat, false⟩], skip v rest)
        | _, s => (negated, List.replicate hyphens (.literal ⟨'-'.toNat, false⟩), s)) =
      (negated, classItems v (spacedRun (· = '-') v (s.length + 1) s).1.length
        (spacedRun (· = '-') v (s.length + 1) s).2) := by
  rw [leadingHyphens_eq]
  generalize (spacedRun (· = '-') v (s.length + 1) s).1.length = hyphens
  generalize (spacedRun (· = '-') v (s.length + 1) s).2 = left
  unfold classItems
  dsimp only
  split <;> simp_all

theorem classStart_eq (v : Bool) (s : List Char) :
    classStart v s =
      let (negated, s) := classSign v s
      let (hyphens, s) := spacedRun (· = '-') v (s.length + 1) s
      (negated, classItems v hyphens.length s) :=
  classItems_of_leadingHyphens v _ _

theorem classSign_append {negated : Bool} (h : classSign v s = (negated, rest)) (hrest : rest ≠ [])
    (t : List Char) : classSign v (s ++ t) = (negated, rest ++ t) := by
  cases hskip : skip v s with
  | nil => simp [classSign, hskip, hrest.symm] at h
  | cons c tail =>
    by_cases hc : c = '^'
    · subst hc
      obtain ⟨rfl, rfl⟩ : true = negated ∧ skip v tail = rest := by simpa [classSign, hskip] using h
      obtain ⟨d, after, hd⟩ := List.exists_cons_of_ne_nil hrest
      simp [classSign, skip_append hskip, skip_append hd, hd]
    · obtain ⟨rfl, rfl⟩ : false = negated ∧ c :: tail = rest := by
        simpa [classSign, hskip, hc] using h
      simp [classSign, skip_append hskip, hc]

theorem classItems_append {hyphens : Nat} {items : List ClassPattern}
    (h : classItems v hyphens s = (items, rest)) (hrest : rest ≠ []) (t : List Char) :
    classItems v hyphens (s ++ t) = (items, rest ++ t) := by
  unfold classItems at h
  split at h
  · rename_i tail
    obtain ⟨rfl, rfl⟩ := Prod.mk.inj h
    obtain ⟨d, after, hd⟩ := List.exists_cons_of_ne_nil hrest
    simp [classItems, skip_append hd, hd]
  · rename_i hbracket
    obtain ⟨rfl, rfl⟩ := Prod.mk.inj h
    obtain ⟨c, tail, rfl⟩ := List.exists_cons_of_ne_nil hrest
    unfold classItems
    split
    · simp_all
    · rfl

theorem classStart_append {negated : Bool} {items : List ClassPattern}
    (h : classStart v s = (negated, items, rest)) (hrest : rest ≠ []) (t : List Char) :
    classStart v (s ++ t) = (negated, items, rest ++ t) := by
  rw [classStart_eq] at h
  obtain ⟨⟨negated', start⟩, hsign⟩ : ∃ r, classSign v s = r := ⟨_, rfl⟩
  obtain ⟨⟨hyphens, middle⟩, hrun⟩ :
      ∃ r, spacedRun (· = '-') v (start.length + 1) start = r := ⟨_, rfl⟩
  simp only [hsign, hrun] at h
  obtain ⟨rfl, hitems⟩ := Prod.mk.inj h
  have hmiddle : middle ≠ [] := by
    rintro rfl
    cases hyphens <;> simp [classItems, hrest.symm] at hitems
  have hstart : start ≠ [] := by
    rintro rfl
    simp [hmiddle.symm] at hrun
  rw [classStart_eq, classSign_append hsign hstart]
  dsimp only
  rw [spacedRun_append hrun hmiddle (Nat.le_succ _) (by simp), classItems_append hitems hrest]

theorem classStart_suffix (v : Bool) (s : List Char) : (classStart v s).2.2 <:+ s := by
  have hsign : (classSign v s).2 <:+ s := by
    unfold classSign
    split
    · rename_i rest hskip
      exact ((skip_suffix v rest).trans (List.suffix_cons _ _)).trans (hskip ▸ skip_suffix v s)
    · exact skip_suffix v s
  have hitems (hyphens : Nat) (s : List Char) : (classItems v hyphens s).2 <:+ s := by
    unfold classItems
    split
    · exact (skip_suffix v _).trans (List.suffix_cons _ _)
    · exact List.suffix_refl _
  rw [classStart_eq]
  exact ((hitems _ _).trans (spacedRun_suffix _ v _ _)).trans hsign

@[simp]
theorem classBody_nil {fuel : Nat} {left : Option (ClassOperator × ClassPattern)}
    {items : List ClassPattern} : classBody v fuel left items [] = none := by
  cases fuel <;> simp [classBody]

/-- A class that only holds what may stand in an ASCII class does not end. -/
theorem classBody_of_isInAsciiClass {fuel : Nat} {left : Option (ClassOperator × ClassPattern)}
    {items : List ClassPattern} (h : ∀ c ∈ s, isInAsciiClass c) :
    classBody v fuel left items s = none := by
  induction fuel generalizing s items with
  | zero => rfl
  | succ fuel ih =>
    have hother {u : List Char} (hu : u <:+ s) : ∀ d ∈ skip v u, isInAsciiClass d :=
      fun d hd => h d (((skip_suffix v u).trans hu).subset hd)
    cases hskip : skip v s with
    | nil => simp [classBody, hskip]
    | cons c tail =>
      have htail : tail <:+ s := (hskip ▸ List.suffix_cons c tail).trans (skip_suffix v s)
      have hc : isInAsciiClass c := hother (List.suffix_refl s) c (by simp [hskip])
      have hno : c ≠ '[' ∧ c ≠ ']' ∧ c ≠ '&' ∧ c ≠ '-' ∧ c ≠ '~' ∧ c ≠ '\\' := by
        refine ⟨?_, ?_, ?_, ?_, ?_, ?_⟩ <;> rintro rfl <;> revert hc <;> decide
      have hrange {item : ClassPattern} {r : List Char}
          (hr : classRange? v (c :: tail) = some (item, r)) : ∀ d ∈ r, isInAsciiClass d := by
        obtain ⟨first, after, hfirst, hin⟩ := classRange?_eq_some_iff.mp hr
        obtain rfl : tail = after := by simp_all [classItem?]
        have hbehind := hother htail
        generalize skip v tail = behind at hin hbehind
        cases hin with
        | single => exact hbehind
        | range => exact absurd (hbehind '-' List.mem_cons_self) (by decide)
      simp only [classBody, hskip]
      split
      case h_7 =>
        split
        · rename_i item r hr
          exact ih (hrange hr)
        · rfl
      all_goals simp_all

theorem exists_cons_of_classRange? {c : Char} {item : ClassPattern} {tail : List Char}
    (h : classRange? v (c :: tail) = some (item, rest)) (hc : c ≠ '\\') :
    ∃ d after, tail = d :: after := by
  obtain ⟨first, after, hfirst, hin⟩ := classRange?_eq_some_iff.mp h
  obtain rfl : tail = after := by simp_all [classItem?]
  refine List.exists_cons_of_ne_nil ?_
  rintro rfl
  rw [skip_nil] at hin
  cases hin

theorem classBody_append {fuel : Nat} {left : Option (ClassOperator × ClassPattern)}
    {items : List ClassPattern} {c : ClassPattern}
    (h : classBody v fuel left items s = some (c, rest)) (more : Nat) (t : List Char) :
    classBody v (fuel + more) left items (s ++ t) = some (c, rest ++ t) := by
  induction fuel generalizing s left items c rest with
  | zero => simp [classBody] at h
  | succ fuel ih =>
    cases hskip : skip v s with
    | nil => simp [classBody, hskip] at h
    | cons d tail =>
      simp only [classBody, hskip] at h
      simp only [Nat.succ_add, classBody, skip_append hskip t]
      split at h
      case h_1 => cases h
      case h_2 inside heq =>
        obtain ⟨rfl, rfl⟩ := List.cons.inj heq
        split at h
        · rename_i item r hclass
          simpa only [asciiClass?_append hclass t] using ih h
        · rename_i hclass
          obtain ⟨⟨negated, first, after⟩, hstart⟩ : ∃ r, classStart v tail = r := ⟨_, rfl⟩
          simp only [hstart] at h
          split at h
          · rename_i inner r hinner
            have hafter : after ≠ [] := fun hnil => by simp [hnil] at hinner
            have hopen : ¬ ∀ c ∈ tail, isInAsciiClass c := fun hall => by
              have hsuffix : after <:+ tail := by simpa [hstart] using classStart_suffix v tail
              rw [classBody_of_isInAsciiClass fun c hc => hall c (hsuffix.subset hc)] at hinner
              cases hinner
            simpa only [asciiClass?_append_eq_none hclass hopen t,
              classStart_append hstart hafter t, ih hinner] using ih h
          · cases h
      case h_3 inside heq =>
        obtain ⟨rfl, rfl⟩ := List.cons.inj heq
        obtain ⟨rfl, rfl⟩ := Prod.mk.inj (Option.some.inj h)
        rfl
      case h_4 | h_5 | h_6 =>
        rename_i inside heq
        obtain ⟨rfl, rfl⟩ := List.cons.inj heq
        exact ih h
      case h_7 u hne hopen hclose hand hminus htilde =>
        split at h
        · rename_i item r hr
          have hr' := classRange?_append hr (fun hnil => by simp [hnil] at h) t
          rw [List.cons_append] at hr'
          -- An operator takes two characters, and both of them were there before.
          have hoperator {e : Char} (he : e ≠ '\\') (hd : d = e) {inside : List Char}
              (heq : tail ++ t = e :: inside) : ∃ after, d :: tail = e :: e :: after := by
            obtain ⟨e', after, rfl⟩ := exists_cons_of_classRange? hr (hd ▸ he)
            obtain ⟨rfl, -⟩ := List.cons.inj heq
            exact ⟨after, by rw [hd]⟩
          split
          case h_1 heq' => cases heq'
          case h_2 heq' => cases heq'; exact absurd rfl (hopen _)
          case h_3 heq' => cases heq'; exact absurd rfl (hclose _)
          case h_4 inside heq' =>
            obtain ⟨hd, htail⟩ := List.cons.inj heq'
            obtain ⟨after, hand'⟩ := hoperator (by decide) hd htail
            exact absurd hand' (hand _)
          case h_5 inside heq' =>
            obtain ⟨hd, htail⟩ := List.cons.inj heq'
            obtain ⟨after, hminus'⟩ := hoperator (by decide) hd htail
            exact absurd hminus' (hminus _)
          case h_6 inside heq' =>
            obtain ⟨hd, htail⟩ := List.cons.inj heq'
            obtain ⟨after, htilde'⟩ := hoperator (by decide) hd htail
            exact absurd htilde' (htilde _)
          case h_7 => simpa only [hr'] using ih h
        · cases h

theorem class?_append {e : Pattern} (h : class? v s = some (e, rest)) (t : List Char) :
    class? v (s ++ t) = some (e, rest ++ t) := by
  obtain ⟨⟨negated, first, after⟩, hstart⟩ : ∃ r, classStart v s = r := ⟨_, rfl⟩
  obtain ⟨c, hbody, rfl⟩ : ∃ c,
      classBody v (s.length + 1) none first.reverse after = some (c, rest) ∧
        .bracketed negated c = e := by
    simp only [class?, hstart, Option.map_eq_some_iff] at h
    grind
  have hafter : after ≠ [] := fun hnil => by simp [hnil] at hbody
  have hbody' := classBody_append hbody t.length t
  rw [Nat.add_right_comm] at hbody'
  simp [class?, classStart_append hstart hafter t, hbody']

end NestedSearch.Regex.Parser
