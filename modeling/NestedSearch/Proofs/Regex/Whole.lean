import NestedSearch.Proofs.Regex.Classes
import NestedSearch.Regex.Meaning

/-!
# Patterns as a group

A pattern that is an expression of its own is not always one when it stands as a group between
the marks for the beginning and the end of a text: in verbose mode a comment in its last line
takes in what should close the group, and the group nests what is already as deep as it may be.
There are no other reasons, whatever properties of characters a pattern may name
(`parseWholeWith?_isSome_iff`).
-/

namespace NestedSearch.Regex.Parser

variable {v : Bool} {c : Char} {s rest : List Char}

/-! ## Groups -/

theorem flags?_append {negated : Bool} {seen change : FlagChange}
    (h : flags? negated seen s = some (change, rest)) (t : List Char) :
    flags? negated seen (s ++ t) = some (change, rest ++ t) := by
  fun_induction flags? negated seen s with
  | case1 => cases h
  | case2 | case3 =>
    obtain ⟨rfl, rfl⟩ := Prod.mk.inj (Option.some.inj h)
    rfl
  | case4 | case5 | case6 | case8 | case10 => cases h
  | case7 negated seen tail hcolon hclose hnegated ih =>
    cases tail with
    | nil => cases h
    | cons d tail =>
      have hd : d ≠ ':' ∧ d ≠ ')' :=
        ⟨fun hd => hcolon tail (by rw [hd]), fun hd => hclose tail (by rw [hd])⟩
      simpa [flags?, hd, hnegated] using ih h
  | case9 negated seen c tail hcolon hclose hminus f hflag hseen ih =>
    simpa [flags?, hflag, hseen] using ih h

theorem groupName?_append {names : List String} {name : String}
    (h : groupName? names s = some (name, rest)) (t : List Char) :
    groupName? names (s ++ t) = some (name, rest ++ t) := by
  unfold groupName? at h
  split at h
  · rename_i c cs after hcut
    obtain ⟨rfl, hmark⟩ := cut?_singleton_eq_some_iff.mp hcut
    have hcut' : cut? ['>'] (c :: cs ++ '>' :: after ++ t) = some (c :: cs, after ++ t) :=
      cut?_singleton_eq_some_iff.mpr ⟨by simp, hmark⟩
    dsimp only at h
    split at h
    · rename_i hname
      obtain ⟨rfl, rfl⟩ := Prod.mk.inj (Option.some.inj h)
      unfold groupName?
      rw [hcut']
      exact if_pos hname
    · cases h
  · cases h

/-- Flags begin with a sign, a flag, or what ends them. -/
theorem exists_cons_of_flags? {negated : Bool} {seen change : FlagChange}
    (h : flags? negated seen s = some (change, rest)) :
    ∃ c tail, s = c :: tail ∧ c ≠ '=' ∧ c ≠ '!' ∧ c ≠ '<' ∧ c ≠ 'P' := by
  cases s with
  | nil => cases h
  | cons c tail =>
    refine ⟨c, tail, rfl, ?_, ?_, ?_, ?_⟩ <;> rintro rfl <;> cases h

theorem named_append {st st' : State} {o : Opening}
    (h : opening?.named st s = some (o, st', rest)) (t : List Char) :
    opening?.named st (s ++ t) = some (o, st', rest ++ t) := by
  obtain ⟨⟨name, after⟩, hname, heq⟩ := Option.map_eq_some_iff.mp h
  simp only [Prod.mk.injEq] at heq
  obtain ⟨rfl, rfl, rfl⟩ := heq
  simp [opening?.named, groupName?_append hname t]

theorem opening?_append {st st' : State} {o : Opening} (h : opening? st s = some (o, st', rest))
    (hs : skip st.verbose s ≠ []) (t : List Char) :
    opening? st (s ++ t) = some (o, st', rest ++ t) := by
  obtain ⟨c, tail, hskip⟩ := List.exists_cons_of_ne_nil hs
  simp only [opening?, hskip] at h
  simp only [opening?, skip_append hskip t]
  split at h
  case h_1 | h_2 | h_3 | h_4 => cases h
  case h_5 after heq =>
    obtain ⟨rfl, rfl⟩ := List.cons.inj heq
    exact named_append h t
  case h_6 after hequal hbang heq =>
    obtain ⟨rfl, rfl⟩ := List.cons.inj heq
    cases after with
    | nil => cases h
    | cons d after =>
      have hd : d ≠ '=' ∧ d ≠ '!' := by
        constructor <;> rintro rfl
        · exact hequal _ rfl
        · exact hbang _ rfl
      simpa [hd] using named_append h t
  case h_7 after _ _ _ _ _ _ heq =>
    obtain ⟨rfl, rfl⟩ := List.cons.inj heq
    split at h
    · rename_i change r hflags
      obtain ⟨d, after', rfl, hd⟩ := exists_cons_of_flags? hflags
      have hflags' := flags?_append hflags t
      rw [List.cons_append] at hflags'
      split at h
      · cases h
      · rename_i hchange
        obtain ⟨rfl, rfl, rfl⟩ : _ ∧ _ ∧ _ := by simpa using h
        simp [hd, hflags', hchange]
    · rename_i change r hflags
      obtain ⟨d, after', rfl, hd⟩ := exists_cons_of_flags? hflags
      have hflags' := flags?_append hflags t
      rw [List.cons_append] at hflags'
      obtain ⟨rfl, rfl, rfl⟩ : _ ∧ _ ∧ _ := by simpa using h
      simp [hd, hflags']
    · cases h
  case h_8 hquestion =>
    obtain ⟨rfl, rfl, rfl⟩ : _ ∧ _ ∧ _ := by simpa using h
    have hc : c ≠ '?' := by
      rintro rfl
      exact hquestion _ rfl
    simp [hc]

/-! ## Expressions -/

theorem skipSpaceAndComments_of_skip {comment : Bool}
    (h : skipSpaceAndComments comment s = c :: rest) :
    skipSpaceAndComments false (c :: rest) = c :: rest := by
  fun_induction skipSpaceAndComments comment s with
  | case1 => cases h
  | case2 _ _ ih | case3 _ _ _ ih | case4 _ _ ih => exact ih h
  | case5 d after hspace hcomment =>
    obtain ⟨rfl, rfl⟩ := List.cons.inj h
    simp [skipSpaceAndComments, hspace, hcomment]

theorem skip_of_skip (h : skip v s = c :: rest) : skip v (c :: rest) = c :: rest := by
  cases v with
  | false => rfl
  | true => exact skipSpaceAndComments_of_skip h

@[simp]
theorem skip_skip : skip v (skip v s) = skip v s := by
  cases h : skip v s with
  | nil => simp
  | cons c rest => exact skip_of_skip h

variable {st st' : State} {branches parts : List Pattern} {e : Pattern} {fuel : Nat}

theorem expression_skip :
    expression (fuel + 1) st branches parts (skip st.verbose s) =
      expression (fuel + 1) st branches parts s := by
  simp only [expression, skip_skip]

theorem expression_rests (h : expression fuel st branches parts [] = some (e, st', rest)) :
    rest = [] ∧
      Rests (fun more => expression (fuel + more) st branches parts) (fun r => (e, st', r)) := by
  cases fuel with
  | zero => cases h
  | succ fuel =>
    simp only [expression, skip_nil] at h
    obtain ⟨rfl, rfl, rfl⟩ := by simpa using h
    refine ⟨rfl, fun more => ?_, fun more u => ?_⟩ <;> simp [Nat.succ_add, expression]

/-- With this fuel, expressions are read on in more text. The cases below are the characters that
    something else is read after, before the rest of the expression. -/
def ReadsOn (fuel : Nat) : Prop :=
  ∀ {st st' : State} {branches parts : List Pattern} {s rest : List Char} {e : Pattern},
    expression fuel st branches parts s = some (e, st', rest) →
      Extends (fun more => expression (fuel + more) st branches parts) (fun r => (e, st', r)) s rest

namespace ReadsOn

variable {tail : List Char}

theorem group (ih : ReadsOn fuel) (hskip : skip st.verbose ('(' :: tail) = '(' :: tail)
    (h : expression (fuel + 1) st branches parts ('(' :: tail) = some (e, st', rest)) :
    Extends (fun more => expression (fuel + 1 + more) st branches parts) (fun r => (e, st', r))
      ('(' :: tail) rest := by
  have hlonger (t : List Char) : skip st.verbose ('(' :: (tail ++ t)) = '(' :: (tail ++ t) :=
    skip_append hskip t
  simp only [expression, hskip] at h
  split at h
  · cases h
  · rename_i change inside after hopening
    have hne : skip st.verbose tail ≠ [] := fun hnil => by simp [opening?, hnil] at hopening
    refine (ih h).imp fun more t => ⟨more, fun x hx => ?_⟩
    rw [Nat.succ_add]
    simpa [expression, hlonger, opening?_append hopening hne t] using hx
  · rename_i change inside after hopening
    split at h
    · rename_i inner last after' hinner
      -- Nothing behind the parenthesis would leave nothing to close the group.
      have hne : skip st.verbose tail ≠ [] := fun hnil => by
        obtain ⟨-, rfl, rfl⟩ : _ ∧ st = inside ∧ [] = after := by
          simpa [opening?, hnil] using hopening
        exact absurd (expression_rests hinner).1 (by simp)
      refine (ih h).imp fun more t => ⟨more, fun x hx => ?_⟩
      have hinner' := (ih hinner).append (by simp) more t
      rw [Nat.succ_add]
      simpa [expression, hlonger, opening?_append hopening hne t, hinner'] using hx
    · cases h

theorem lazy (ih : ReadsOn fuel)
    (h : expression fuel st branches parts (dropLazy s) = some (e, st', rest)) :
    Extends (fun more u => expression (fuel + more) st branches parts (dropLazy u))
      (fun r => (e, st', r)) s rest := by
  refine ((dropLazy_extends s).comp (fun _ => ih h) fun hnil => ?_).imp
    fun more t => ⟨more, fun x hx => hx⟩
  rw [hnil] at h
  exact expression_rests h

theorem bounds (ih : ReadsOn fuel) (hskip : skip st.verbose ('\x7b' :: tail) = '\x7b' :: tail)
    (h : expression (fuel + 1) st branches parts ('\x7b' :: tail) = some (e, st', rest)) :
    Extends (fun more => expression (fuel + 1 + more) st branches parts) (fun r => (e, st', r))
      ('\x7b' :: tail) rest := by
  have hlonger (t : List Char) : skip st.verbose ('\x7b' :: (tail ++ t)) = '\x7b' :: (tail ++ t) :=
    skip_append hskip t
  simp only [expression, hskip] at h
  split at h
  · rename_i least most after hbounds
    split at h
    · rename_i parts' hparts
      refine ((bounds?_extends hbounds).bindValue
        (k := fun more b u => (repeatLast b.1 b.2 parts).bind fun parts =>
          expression (fuel + more) st branches parts u) (fun _ => ?_) fun hnil => ?_).imp
        fun more t => ⟨more, fun x hx => ?_⟩
      · simpa only [hparts, Option.bind_some] using ih h
      · subst hnil
        simpa only [hparts, Option.bind_some] using expression_rests h
      · obtain ⟨⟨⟨least', most'⟩, after'⟩, hbounds', hx⟩ := Option.bind_eq_some_iff.mp hx
        obtain ⟨parts'', hparts', hx⟩ := Option.bind_eq_some_iff.mp hx
        rw [Nat.succ_add]
        simpa [expression, hlonger, hbounds', hparts'] using hx
    · cases h
  · cases h

theorem escape (ih : ReadsOn fuel) (hskip : skip st.verbose ('\\' :: tail) = '\\' :: tail)
    (h : expression (fuel + 1) st branches parts ('\\' :: tail) = some (e, st', rest)) :
    Extends (fun more => expression (fuel + 1 + more) st branches parts) (fun r => (e, st', r))
      ('\\' :: tail) rest := by
  have hlonger (t : List Char) : skip st.verbose ('\\' :: (tail ++ t)) = '\\' :: (tail ++ t) :=
    skip_append hskip t
  simp only [expression, hskip] at h
  split at h
  · rename_i p after hescape
    refine ((escape?_extends hescape).bindValue
      (k := fun more p => expression (fuel + more) st branches (p.pattern :: parts))
      (fun _ => ih h) fun hnil => ?_).imp fun more t => ⟨more, fun x hx => ?_⟩
    · subst hnil
      exact expression_rests h
    · obtain ⟨⟨p', after'⟩, hescape', hx⟩ := Option.bind_eq_some_iff.mp hx
      rw [Nat.succ_add]
      simpa [expression, hlonger, hescape'] using hx
  · cases h

end ReadsOn

theorem expression_extends (h : expression fuel st branches parts s = some (e, st', rest)) :
    Extends (fun more => expression (fuel + more) st branches parts) (fun r => (e, st', r)) s
      rest := by
  induction fuel generalizing st st' branches parts s e rest with
  | zero => cases h
  | succ fuel ih =>
    have hon : ReadsOn fuel := fun h => ih h
    rw [← expression_skip] at h
    have htrim (hne : skip st.verbose s ≠ []) :
        Extends (fun more => expression (fuel + 1 + more) st branches parts)
          (fun r => (e, st', r)) (skip st.verbose s) rest := by
      obtain ⟨c, tail, hc⟩ := List.exists_cons_of_ne_nil hne
      have hskip := skip_of_skip hc
      rw [hc] at h ⊢
      have hlonger (t : List Char) : skip st.verbose (c :: (tail ++ t)) = c :: (tail ++ t) :=
        skip_append hskip t
      have hread := h
      simp only [expression, hskip] at h
      split at h
      case h_1 =>
        obtain ⟨rfl, rfl, rfl⟩ : _ ∧ _ ∧ _ := by simpa using h
        exact .through fun more t => by simp [Nat.succ_add, expression]
      case h_2 => exact hon.group hskip hread
      case h_4 =>
        split at h
        · rename_i class_ after hclass
          refine (hon h).imp fun more t => ⟨more, fun x hx => ?_⟩
          rw [Nat.succ_add]
          simpa [expression, hlonger, class?_append hclass t] using hx
        · cases h
      case h_5 | h_6 | h_7 =>
        split at h
        · rename_i parts' hparts
          refine (hon.lazy h).imp fun more t => ⟨more, fun x hx => ?_⟩
          rw [Nat.succ_add]
          simpa [expression, hlonger, hparts] using hx
        · cases h
      case h_8 => exact hon.bounds hskip hread
      case h_9 => exact hon.escape hskip hread
      case h_3 | h_10 | h_11 | h_12 | h_13 =>
        -- The character stands for itself, and the rest follows at once.
        refine (hon h).imp fun more t => ⟨more, fun x hx => ?_⟩
        rw [Nat.succ_add]
        simpa [expression, hlonger] using hx
    refine ((skip_extends st.verbose s).comp htrim fun hnil => ?_).imp
      fun more t => ⟨more, fun x hx => ?_⟩
    · rw [hnil] at h
      exact expression_rests h
    · rw [Nat.succ_add] at hx ⊢
      rwa [expression_skip] at hx

end NestedSearch.Regex.Parser

namespace NestedSearch.Regex

open NestedSearch.Regex.Parser

variable {pattern : List Char} {e : Pattern}

/-! ## The group around a pattern -/

/-- The pattern ends within a comment: what is added on the same line makes no difference. -/
def LeavesCommentOpen (pattern : List Char) : Prop :=
  ∀ t, '\n' ∉ t → Pattern.parse? (pattern ++ t) = Pattern.parse? pattern

/-- The pattern may be nested twice more. -/
def HasRoom (pattern : List Char) : Prop :=
  ∃ e, Pattern.parse? pattern = some e ∧ e.depth + 2 ≤ Pattern.maxDepth

theorem Pattern.parse?_eq_some_iff :
    Pattern.parse? pattern = some e ↔
      (∃ st, expression (pattern.length + 1) ⟨false, []⟩ [] [] pattern = some (e, st, [])) ∧
        e.depth ≤ Pattern.maxDepth := by
  unfold Pattern.parse?
  split <;> grind

/-- No expression ends before a closing parenthesis. -/
theorem parse?_closing_ne {st : State}
    (h : ∀ more u, expression (pattern.length + 1 + more) ⟨false, []⟩ [] [] (pattern ++ ')' :: u) =
      some (e, st, ')' :: u)) {e' : Pattern} : Pattern.parse? (pattern ++ [')']) ≠ some e' := by
  intro he'
  obtain ⟨⟨st', hread⟩, -⟩ := Pattern.parse?_eq_some_iff.mp he'
  rw [List.length_append] at hread
  exact absurd (hread.symm.trans (h 1 [])) (by simp)

/-- A pattern that is an expression either takes in what follows on its line or ends before a
    closing parenthesis. -/
theorem expression_of_parse? (h : Pattern.parse? pattern = some e) :
    ∃ st,
      (LeavesCommentOpen pattern ∧ ∀ more t, '\n' ∉ t →
        expression (pattern.length + 1 + more) ⟨false, []⟩ [] [] (pattern ++ t) =
          some (e, st, [])) ∨
      (¬ LeavesCommentOpen pattern ∧ ∀ more u,
        expression (pattern.length + 1 + more) ⟨false, []⟩ [] [] (pattern ++ ')' :: u) =
          some (e, st, ')' :: u)) := by
  obtain ⟨⟨st, hread⟩, hdepth⟩ := Pattern.parse?_eq_some_iff.mp h
  have hclosed (hends : ∀ more u,
      expression (pattern.length + 1 + more) ⟨false, []⟩ [] [] (pattern ++ ')' :: u) =
        some (e, st, ')' :: u)) : ¬ LeavesCommentOpen pattern := fun hopen => by
    rw [LeavesCommentOpen, h] at hopen
    exact parse?_closing_ne hends (hopen [')'] (by decide))
  refine ⟨st, ?_⟩
  cases expression_extends hread with
  | through hread' =>
    have hends (more : Nat) (u : List Char) := hread' more (')' :: u)
    exact .inr ⟨hclosed hends, hends⟩
  | closed hends => exact .inr ⟨hclosed hends, hends⟩
  | inComment hread' =>
    refine .inl ⟨fun t ht => ?_, hread'⟩
    rw [h, Pattern.parse?_eq_some_iff]
    refine ⟨⟨st, ?_⟩, hdepth⟩
    rw [List.length_append, Nat.add_right_comm]
    exact hread' t.length t ht

/-- A closing parenthesis tells whether a comment is open. -/
theorem leavesCommentOpen_iff (h : (Pattern.parse? pattern).isSome) :
    LeavesCommentOpen pattern ↔ (Pattern.parse? (pattern ++ [')'])).isSome := by
  obtain ⟨e, he⟩ := Option.isSome_iff_exists.mp h
  constructor
  · intro hopen
    rw [hopen [')'] (by decide)]
    exact h
  · intro hsome
    obtain ⟨st, ⟨hopen, -⟩ | ⟨-, hread⟩⟩ := expression_of_parse? he
    · exact hopen
    · obtain ⟨e', he'⟩ := Option.isSome_iff_exists.mp hsome
      exact absurd he' (parse?_closing_ne hread)

/-- The pattern as a group between the marks for the beginning and the end. -/
def Pattern.whole (e : Pattern) : Pattern :=
  .concatenation [.assertion .startLine, .group [] e, .assertion .endLine]

@[simp]
theorem Pattern.depth_whole : e.whole.depth = e.depth + 2 := by
  simp [Pattern.whole, Pattern.depth, Pattern.depthOf]

theorem Pattern.meaning_whole (properties : PropertyQuery → Option (Nat → Bool)) (flags : Flags) :
    e.whole.meaning properties flags = (e.meaning properties flags).map fun r =>
      (sequence [.look (Assertion.startLine.look flags), r.1,
        .look (Assertion.endLine.look flags)], flags) := by
  simp only [Pattern.whole, Pattern.meaning, Pattern.meanings]
  cases h : e.meaning properties flags <;> simp [Flags.apply, h]

/-- Behind the mark for the beginning and the parenthesis of the group, the pattern is read. -/
theorem expression_whole (fuel : Nat) (u : List Char) :
    expression (fuel + 2) ⟨false, []⟩ [] [] ('^' :: '(' :: '?' :: ':' :: u) =
      match expression fuel ⟨false, []⟩ [] [] u with
      | some (inner, after, ')' :: rest) =>
        expression fuel ⟨false, after.names⟩ [] [.group [] inner, .assertion .startLine] rest
      | _ => none := by
  rfl

/-- A pattern is an expression as a group too, unless it takes in the end of the group or nests
    too deeply. -/
theorem Pattern.parse?_whole_eq_some_iff (h : Pattern.parse? pattern = some e) {e' : Pattern} :
    Pattern.parse? ("^(?:".toList ++ pattern ++ ")$".toList) = some e' ↔
      ¬ LeavesCommentOpen pattern ∧ e.depth + 2 ≤ maxDepth ∧ e.whole = e' := by
  have htext : "^(?:".toList ++ pattern ++ ")$".toList =
      '^' :: '(' :: '?' :: ':' :: (pattern ++ ')' :: ['$']) := by simp
  have hlength : ("^(?:".toList ++ pattern ++ ")$".toList).length + 1 = pattern.length + 5 + 2 := by
    simp
  unfold Pattern.parse?
  rw [hlength, htext, expression_whole]
  obtain ⟨st, ⟨hopen, hread⟩ | ⟨hclosed, hread⟩⟩ := expression_of_parse? h
  · have hinner : expression (pattern.length + 5) ⟨false, []⟩ [] [] (pattern ++ ')' :: ['$']) =
        some (e, st, []) := hread 4 _ (by decide)
    simp [hinner, hopen]
  · have hinner : expression (pattern.length + 5) ⟨false, []⟩ [] [] (pattern ++ ')' :: ['$']) =
        some (e, st, [')', '$']) := hread 4 ['$']
    have hend : expression (pattern.length + 5) ⟨false, st.names⟩ []
        [.group [] e, .assertion .startLine] ['$'] = some (e.whole, ⟨false, st.names⟩, []) := rfl
    simp [hinner, hend, hclosed]

variable {properties : PropertyQuery → Option (Nat → Bool)}

theorem parseWith?_isSome_iff :
    (parseWith? properties pattern).isSome ↔
      ∃ e, Pattern.parse? pattern = some e ∧ (e.meaning properties .initial).isSome := by
  cases he : Pattern.parse? pattern with
  | none => simp [parseWith?, he]
  | some e =>
    cases hr : e.meaning properties .initial <;> simp [parseWith?, he, hr]

/-- **When a pattern can be matched against whole texts.** Of the patterns that are expressions,
    those are refused that leave a comment open in their last line, and those without room for
    the group around them. Which properties of characters there are makes no difference. -/
theorem parseWholeWith?_isSome_iff (h : (parseWith? properties pattern).isSome) :
    (parseWholeWith? properties pattern).isSome ↔
      ¬ LeavesCommentOpen pattern ∧ HasRoom pattern := by
  obtain ⟨e, he, hmeaning⟩ := parseWith?_isSome_iff.mp h
  have hwhole : (e.whole.meaning properties .initial).isSome := by
    rwa [Pattern.meaning_whole, Option.isSome_map]
  rw [parseWholeWith?, parseWith?_isSome_iff]
  constructor
  · rintro ⟨e', he', -⟩
    obtain ⟨hclosed, hdepth, -⟩ := (Pattern.parse?_whole_eq_some_iff he).mp he'
    exact ⟨hclosed, e, he, hdepth⟩
  · rintro ⟨hclosed, e', he', hdepth⟩
    obtain rfl : e = e' := Option.some.inj (he.symm.trans he')
    exact ⟨e.whole, (Pattern.parse?_whole_eq_some_iff he).mpr ⟨hclosed, hdepth, rfl⟩, hwhole⟩

end NestedSearch.Regex
