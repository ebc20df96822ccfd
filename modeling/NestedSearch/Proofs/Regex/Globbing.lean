import Mathlib.Tactic.FinCases
import NestedSearch.Proofs.Regex.Matching
import NestedSearch.Proofs.Regex.Whole

/-!
# Wildcard patterns

What a wildcard pattern stands for is told without expressions: an asterisk is replaced by any
characters, a question mark by any one, and all else stays (`Globs`). The expression of a pattern
matches such texts, but not all of them: its dots do not match a line feed, so there must be none
in what an asterisk or a question mark is replaced by. Where the text has as many line feeds as the
pattern this is so, for those of the pattern stay (`wildcard_matches_iff`).

The expression can also be written down and read back. That is where the other characters matter:
each one that has a meaning of its own in expressions is escaped, and nothing else is.
-/

namespace NestedSearch.Regex

/-- The text comes from the wildcard pattern by replacing each asterisk by some characters and each
    question mark by one character. -/
inductive Globs : (pattern text : List Char) → Prop where
  | nil : Globs [] []
  | star {pattern rest : List Char} (run : List Char) :
    Globs pattern rest → Globs ('*' :: pattern) (run ++ rest)
  | one {pattern rest : List Char} (c : Char) :
    Globs pattern rest → Globs ('?' :: pattern) (c :: rest)
  | literal {pattern rest : List Char} {c : Char} (hstar : c ≠ '*') (hone : c ≠ '?') :
    Globs pattern rest → Globs (c :: pattern) (c :: rest)

variable {pattern before rest run : List Char} {c d : Char} {i j k n : Nat}

/-- The line feeds of the pattern stay. -/
theorem Globs.count_le (h : Globs pattern rest) : pattern.count '\n' ≤ rest.count '\n' := by
  induction h with
  | nil => exact Nat.le_refl _
  | star run _ ih =>
    rw [List.count_append, List.count_cons_of_ne (by decide)]
    omega
  | one c _ ih =>
    rw [List.count_cons_of_ne (by decide)]
    exact ih.trans List.count_le_count_cons
  | literal _ _ _ ih =>
    simp only [List.count_cons]
    omega

/-! ## Classes -/

theorem CharClass.containsAny_eq_true_iff {classes : List CharClass} {code : Nat} :
    containsAny classes code = true ↔ ∃ set ∈ classes, set.contains code = true := by
  induction classes with
  | nil => simp [containsAny]
  | cons set classes ih => simp [containsAny, ih]

@[simp]
theorem CharClass.contains_single {code other : Nat} :
    (single code).contains other = true ↔ other = code := by
  simp only [single, contains, Bool.and_eq_true, decide_eq_true_eq]
  omega

@[simp]
theorem CharClass.contains_except {excluded : List Char} :
    (except excluded).contains c.toNat = true ↔ c ∉ excluded := by
  simp [except, contains, ← Bool.not_eq_true, containsAny_eq_true_iff, Char.toNat_inj]

/-! ## Pieces of the text -/

/-- The characters stand in the text from the one place to the other. -/
def Reads (text : Array Char) : List Char → Nat → Nat → Prop
  | [], i, j => i = j
  | c :: piece, i, j => text[i]? = some c ∧ Reads text piece (i + 1) j

variable {text : Array Char} {piece : List Char}

theorem reads_append {first second : List Char} :
    Reads text (first ++ second) i j ↔ ∃ k, Reads text first i k ∧ Reads text second k j := by
  induction first generalizing i with
  | nil => simp [Reads]
  | cons c first ih =>
    simp only [List.cons_append, Reads, ih]
    tauto

/-- Up to the end of the text, the piece is the rest of it. -/
theorem reads_finish_iff {chars : List Char} :
    Reads chars.toArray piece i chars.length ↔ i ≤ chars.length ∧ piece = chars.drop i := by
  induction piece generalizing i with
  | nil =>
    simp only [Reads, @eq_comm _ [], List.drop_eq_nil_iff]
    omega
  | cons c piece ih =>
    simp only [Reads, ih, List.getElem?_toArray]
    rcases Nat.lt_or_ge i chars.length with hi | hi
    · simp only [List.getElem?_eq_getElem hi, List.drop_eq_getElem_cons hi, List.cons.injEq,
        Option.some.injEq]
      grind
    · simp [List.getElem?_eq_none hi, List.drop_eq_nil_of_le hi]

theorem spans_char_iff {set : CharClass} :
    (Regex.char set).Spans text i j ↔ ∃ c, set.contains c.toNat ∧ Reads text [c] i j := by
  simp only [Spans, Reads]
  grind

theorem chained_char_iff {set : CharClass} :
    Chained ((Regex.char set).Spans text) n i j ↔
      ∃ run : List Char, run.length = n ∧ (∀ c ∈ run, set.contains c.toNat) ∧
        Reads text run i j := by
  induction n generalizing i with
  | zero => simp [Chained, Reads]
  | succ n ih =>
    simp only [Chained, spans_char_iff, ih]
    constructor
    · rintro ⟨k, ⟨c, hc, hread⟩, run, hlength, hrun, hrest⟩
      exact ⟨c :: run, by simp [hlength], by simpa [hc] using hrun,
        reads_append.mpr ⟨k, hread, hrest⟩⟩
    · rintro ⟨run, hlength, hrun, hread⟩
      obtain ⟨c, run, rfl⟩ := List.exists_cons_of_length_eq_add_one hlength
      rw [List.forall_mem_cons] at hrun
      rw [← List.singleton_append, reads_append] at hread
      obtain ⟨k, hfirst, hrest⟩ := hread
      exact ⟨k, ⟨c, hrun.1, hfirst⟩, run, by simpa using hlength, hrun.2, hrest⟩

theorem spans_star_iff {set : CharClass} :
    (Regex.repeated (.char set) 0 none).Spans text i j ↔
      ∃ run : List Char, (∀ c ∈ run, set.contains c.toNat) ∧ Reads text run i j := by
  rw [Spans]
  simp only [chained_char_iff]
  constructor
  · rintro ⟨n, -, run, -, hrun, hread⟩
    exact ⟨run, hrun, hread⟩
  · rintro ⟨run, hrun, hread⟩
    exact ⟨run.length, by simp, run, by simp, hrun, hread⟩

/-! ## One piece for each character of the pattern -/

/-- What the expression of one character of a wildcard pattern matches. -/
def Fills (c : Char) (piece : List Char) : Prop :=
  if c = '*' then ∀ d ∈ piece, d ≠ '\n'
  else if c = '?' then ∃ d ≠ '\n', piece = [d]
  else piece = [c]

theorem spans_ofWildcard_iff :
    (ofWildcard c).Spans text i j ↔ ∃ piece, Fills c piece ∧ Reads text piece i j := by
  unfold ofWildcard Fills
  split
  · simp [spans_star_iff]
  · split
    · simp only [spans_char_iff, CharClass.contains_except, List.mem_singleton]
      constructor
      · rintro ⟨d, hd, hread⟩
        exact ⟨[d], ⟨d, hd, rfl⟩, hread⟩
      · rintro ⟨_, ⟨d, hd, rfl⟩, hread⟩
        exact ⟨d, hd, hread⟩
    · simp [spans_char_iff, Char.toNat_inj]

/-- A text begins with what fills the first character of the pattern. -/
theorem globs_cons_iff :
    (Globs (c :: pattern) rest ∧ rest.count '\n' = (c :: pattern).count '\n') ↔
      ∃ piece rest', rest = piece ++ rest' ∧ Fills c piece ∧ Globs pattern rest' ∧
        rest'.count '\n' = pattern.count '\n' := by
  constructor
  · rintro ⟨hglobs, hcount⟩
    cases hglobs with
    | star run hglobs =>
      rw [List.count_append, List.count_cons_of_ne (by decide)] at hcount
      have := hglobs.count_le
      have hrun : run.count '\n' = 0 := by omega
      refine ⟨run, _, rfl, fun d hd hfeed => ?_, hglobs, by omega⟩
      exact List.count_eq_zero.mp hrun (hfeed ▸ hd)
    | one d hglobs =>
      rw [List.count_cons, List.count_cons_of_ne (by decide)] at hcount
      have := hglobs.count_le
      have hd : d ≠ '\n' := by
        rintro rfl
        simp only [beq_self_eq_true, if_true] at hcount
        omega
      exact ⟨[d], _, rfl, ⟨d, hd, rfl⟩, hglobs, by simpa [hd] using hcount⟩
    | literal hstar hone hglobs =>
      refine ⟨[c], _, rfl, ?_, hglobs, by simpa [List.count_cons] using hcount⟩
      rw [Fills, if_neg hstar, if_neg hone]
  · rintro ⟨piece, rest', rfl, hfills, hglobs, hcount⟩
    unfold Fills at hfills
    split at hfills
    · subst c
      have hpiece : piece.count '\n' = 0 := List.count_eq_zero.mpr fun hmem => hfills _ hmem rfl
      exact ⟨.star piece hglobs, by simp [hpiece, hcount]⟩
    · split at hfills
      · obtain ⟨d, hd, rfl⟩ := hfills
        subst c
        exact ⟨.one d hglobs, by simp [hd, hcount]⟩
      · subst piece
        exact ⟨.literal ‹_› ‹_› hglobs, by simp [List.count_cons, hcount]⟩

theorem spans_sequence_append {first second : List Regex} :
    (sequence (first ++ second)).Spans text i j ↔
      ∃ k, (sequence first).Spans text i k ∧ (sequence second).Spans text k j := by
  induction first generalizing i with
  | nil => simp [sequence, Spans]
  | cons r first ih =>
    simp only [List.cons_append, sequence, Spans, ih]
    tauto

theorem spans_wildcard_iff :
    (wildcard pattern).Spans text i j ↔ ∃ piece,
      (Globs pattern piece ∧ piece.count '\n' = pattern.count '\n') ∧ Reads text piece i j := by
  induction pattern generalizing i with
  | nil =>
    constructor
    · intro h
      exact ⟨[], ⟨.nil, rfl⟩, h⟩
    · rintro ⟨_, ⟨⟨⟩, -⟩, hread⟩
      exact hread
  | cons c pattern ih =>
    have hcons : (wildcard (c :: pattern)).Spans text i j ↔
        ∃ k, (ofWildcard c).Spans text i k ∧ (wildcard pattern).Spans text k j := Iff.rfl
    simp only [hcons, spans_ofWildcard_iff, ih, globs_cons_iff]
    constructor
    · rintro ⟨k, ⟨piece, hfills, hread⟩, rest, ⟨hglobs, hcount⟩, hrest⟩
      exact ⟨piece ++ rest, ⟨piece, rest, rfl, hfills, hglobs, hcount⟩,
        reads_append.mpr ⟨k, hread, hrest⟩⟩
    · rintro ⟨_, ⟨piece, rest, rfl, hfills, hglobs, hcount⟩, hread⟩
      obtain ⟨k, hfirst, hrest⟩ := reads_append.mp hread
      exact ⟨k, ⟨piece, hfills, hfirst⟩, rest, ⟨hglobs, hcount⟩, hrest⟩

theorem wildcard_matchesWhole_iff {chars : List Char} :
    (wildcard pattern).matchesWhole chars.toArray ↔
      Globs pattern chars ∧ chars.count '\n' = pattern.count '\n' := by
  rw [matchesWhole_iff, spans_wildcard_iff, List.size_toArray]
  simp [reads_finish_iff]

/-! ## The pattern as the text of an expression -/

/-- A character as an expression that matches it. -/
def escaped (c : Char) : List Char := if Parser.isMeta c then ['\\', c] else [c]

/-- The text of the expression of one character of a wildcard pattern. -/
def wildcardPiece (c : Char) : List Char :=
  if c = '*' then ['.', '*'] else if c = '?' then ['.'] else escaped c

/-- The text of the expression of a wildcard pattern, between the marks for the beginning and the
    end of what it is searched in. -/
def wildcardText (pattern : List Char) : List Char :=
  '^' :: (pattern.flatMap wildcardPiece ++ ['$'])

/-- What the text of a wildcard pattern is the text of. -/
def anchoredWildcard (pattern : List Char) : Regex :=
  sequence (.look .start :: (pattern.map ofWildcard ++ [.look .finish]))

/-- One character of a wildcard pattern as an expression that is not yet understood. -/
def Pattern.ofWildcard (c : Char) : Pattern :=
  if c = '*' then .repetition .dot 0 none else if c = '?' then .dot else .literal ⟨c.toNat, false⟩

section

open NestedSearch.Regex.Parser

/-- An escaped character stands for itself if it has a meaning of its own. -/
theorem escape?_of_isMeta (h : isMeta c) : escape? false (c :: rest) = some (.ofChar c, rest) := by
  simp only [isMeta, List.contains_iff_mem] at h
  fin_cases h <;> rfl

/-- A character that is escaped if it has a meaning of its own is read as itself. -/
theorem expression_escaped (parts : List Pattern) :
    expression (n + 1) ⟨false, []⟩ [] parts (escaped c ++ rest) =
      expression n ⟨false, []⟩ [] (.literal ⟨c.toNat, false⟩ :: parts) rest := by
  unfold escaped
  split
  · rename_i hmeta
    simp [expression, skip, escape?_of_isMeta hmeta, Primitive.ofChar, Primitive.pattern]
  · rename_i hmeta
    -- All characters that an expression is read by are escaped.
    have hne : c ≠ ')' ∧ c ≠ '(' ∧ c ≠ '|' ∧ c ≠ '[' ∧ c ≠ '?' ∧ c ≠ '*' ∧ c ≠ '+' ∧ c ≠ '\x7b' ∧
        c ≠ '\\' ∧ c ≠ '.' ∧ c ≠ '^' ∧ c ≠ '$' := by
      refine ⟨?_, ?_, ?_, ?_, ?_, ?_, ?_, ?_, ?_, ?_, ?_, ?_⟩ <;> rintro rfl <;>
        exact hmeta (by decide)
    simp [expression, skip, hne]

/-- What one character of a wildcard pattern is written as is read as one part, in at most as many
    steps as it has characters. -/
theorem expression_wildcardPiece (parts : List Pattern) (c : Char) (hrest : dropLazy rest = rest) :
    ∃ steps ≤ (wildcardPiece c).length, ∀ n,
      expression (n + steps) ⟨false, []⟩ [] parts (wildcardPiece c ++ rest) =
        expression n ⟨false, []⟩ [] (Pattern.ofWildcard c :: parts) rest := by
  unfold wildcardPiece Pattern.ofWildcard
  split
  · refine ⟨2, Nat.le_refl 2, fun n => ?_⟩
    have hread : expression (n + 2) ⟨false, []⟩ [] parts ('.' :: '*' :: rest) =
        expression n ⟨false, []⟩ [] (.repetition .dot 0 none :: parts) (dropLazy rest) := rfl
    rwa [hrest] at hread
  · split
    · exact ⟨1, Nat.le_refl 1, fun n => rfl⟩
    · refine ⟨1, ?_, fun n => expression_escaped parts⟩
      unfold escaped
      split <;> simp

/-- Behind an asterisk there is no sign that the repetition should be short: a question mark of the
    pattern has become a dot. -/
theorem dropLazy_wildcardText (pattern : List Char) :
    dropLazy (pattern.flatMap wildcardPiece ++ ['$']) = pattern.flatMap wildcardPiece ++ ['$'] := by
  cases pattern with
  | nil => rfl
  | cons c pattern =>
    simp only [List.flatMap_cons, wildcardPiece, escaped]
    split
    · rfl
    · rename_i hstar
      split
      · rfl
      · rename_i hone
        split
        · rfl
        · simp [dropLazy, hone]

theorem expression_wildcardText (parts : List Pattern)
    (hfuel : (pattern.flatMap wildcardPiece).length + 2 ≤ n) :
    expression n ⟨false, []⟩ [] parts (pattern.flatMap wildcardPiece ++ ['$']) =
      some (Pattern.concat (parts.reverse ++ pattern.map Pattern.ofWildcard ++
        [.assertion .endLine]), ⟨false, []⟩, []) := by
  induction pattern generalizing parts n with
  | nil =>
    obtain ⟨n, rfl⟩ := Nat.exists_eq_add_of_le' hfuel
    simp [expression, skip, Pattern.alternate]
  | cons c pattern ih =>
    obtain ⟨steps, hsteps, hread⟩ :=
      expression_wildcardPiece parts c (dropLazy_wildcardText pattern)
    rw [List.flatMap_cons, List.length_append] at hfuel
    obtain ⟨n, rfl⟩ := Nat.exists_eq_add_of_le' (show steps ≤ n by omega)
    rw [List.flatMap_cons, List.append_assoc, hread, ih _ (by omega)]
    simp

end

/-! ## What the text of a wildcard pattern means -/

variable {properties : PropertyQuery → Option (Nat → Bool)}

theorem Pattern.meaning_ofWildcard (c : Char) :
    (Pattern.ofWildcard c).meaning properties .initial = some (Regex.ofWildcard c, .initial) := by
  unfold Pattern.ofWildcard Regex.ofWildcard
  split
  · rfl
  · split <;> rfl

theorem Pattern.meanings_wildcard :
    meanings properties .initial (pattern.map Pattern.ofWildcard ++ [.assertion .endLine]) =
      some (pattern.map Regex.ofWildcard ++ [.look .finish], .initial) := by
  induction pattern with
  | nil => rfl
  | cons c pattern ih => simp [meanings, meaning_ofWildcard, ih]

theorem Pattern.depthOf_wildcard (pattern : List Char) :
    depthOf (pattern.map Pattern.ofWildcard ++ [.assertion .endLine]) ≤ 1 := by
  induction pattern with
  | nil => decide
  | cons c pattern ih =>
    refine max_le ?_ ih
    unfold Pattern.ofWildcard
    split
    · rfl
    · split <;> exact Nat.zero_le 1

theorem Pattern.parse?_wildcardText :
    Pattern.parse? (wildcardText pattern) = some (.concatenation (.assertion .startLine ::
      (pattern.map Pattern.ofWildcard ++ [.assertion .endLine]))) := by
  rw [Pattern.parse?_eq_some_iff]
  refine ⟨⟨⟨false, []⟩, ?_⟩, ?_⟩
  · have hfuel : (pattern.flatMap wildcardPiece).length + 2 ≤ (wildcardText pattern).length := by
      simp [wildcardText]
    have hparts : Pattern.concat (.assertion .startLine ::
        (pattern.map Pattern.ofWildcard ++ [.assertion .endLine])) = .concatenation
          (.assertion .startLine :: (pattern.map Pattern.ofWildcard ++ [.assertion .endLine])) := by
      cases pattern <;> rfl
    exact (expression_wildcardText [.assertion .startLine] hfuel).trans (by simp [hparts])
  · have hdepth := Pattern.depthOf_wildcard pattern
    simp only [Pattern.depth, Pattern.depthOf, Pattern.maxDepth]
    omega

/-- The text of a wildcard pattern is an expression. -/
theorem parseWith?_wildcardText :
    parseWith? properties (wildcardText pattern) = some (anchoredWildcard pattern) := by
  have hmeaning : (Pattern.concatenation (.assertion .startLine ::
      (pattern.map Pattern.ofWildcard ++ [.assertion .endLine]))).meaning properties .initial =
        some (anchoredWildcard pattern, .initial) := by
    have hlook : Assertion.look .initial .startLine = .start := rfl
    simp [Pattern.meaning, Pattern.meanings, hlook, Pattern.meanings_wildcard, anchoredWildcard]
  simp [parseWith?, Pattern.parse?_wildcardText, hmeaning]

theorem holds_start_iff (hi : i ≤ text.size) : Look.start.holds text i ↔ i = 0 := by
  cases i with
  | zero => simp [Look.holds, Look.before?]
  | succ i => simp [Look.holds, Look.before?, Nat.lt_of_succ_le hi]

theorem holds_finish_iff : Look.finish.holds text i ↔ text.size ≤ i := by
  simp [Look.holds]

/-- Between the marks, the expression occurs in a text where it matches the whole of it. -/
theorem occursIn_anchoredWildcard_iff :
    (anchoredWildcard pattern).OccursIn text ↔ (wildcard pattern).matchesWhole text := by
  have hspans (i j : Nat) : (anchoredWildcard pattern).Spans text i j ↔
      Look.start.holds text i ∧ (wildcard pattern).Spans text i j ∧ Look.finish.holds text j := by
    simp only [anchoredWildcard, sequence, Spans, spans_sequence_append]
    constructor
    · rintro ⟨_, ⟨hstart, rfl⟩, _, hmatch, _, ⟨hfinish, rfl⟩, rfl⟩
      exact ⟨hstart, hmatch, hfinish⟩
    · rintro ⟨hstart, hmatch, hfinish⟩
      exact ⟨i, ⟨hstart, rfl⟩, j, hmatch, j, ⟨hfinish, rfl⟩, rfl⟩
  rw [matchesWhole_iff]
  constructor
  · rintro ⟨i, j, hi, hmatch⟩
    rw [hspans, holds_start_iff hi, holds_finish_iff] at hmatch
    obtain ⟨rfl, hmatch, hj⟩ := hmatch
    obtain rfl : j = text.size := by
      have := hmatch.forward
      omega
    exact hmatch
  · intro hmatch
    refine ⟨0, text.size, Nat.zero_le _, (hspans _ _).mpr ⟨?_, hmatch, ?_⟩⟩
    · exact (holds_start_iff (Nat.zero_le _)).mpr rfl
    · exact holds_finish_iff.mpr (Nat.le_refl _)

/-- **Wildcard patterns stand for texts with as many line feeds.** Of the texts that come from the
    pattern by replacing asterisks and question marks, those are matched that have no line feed in
    what was put in their place. The pattern can be written as the text of an expression, in which
    it is searched between the marks for the beginning and the end, and this makes no
    difference. -/
theorem wildcard_matches_iff (pattern chars : List Char) :
    ((wildcard pattern).matchesWhole chars.toArray ↔
      Globs pattern chars ∧ chars.count '\n' = pattern.count '\n') ∧
    (parse? (wildcardText pattern) = some (anchoredWildcard pattern)) ∧
    ((anchoredWildcard pattern).OccursIn chars.toArray ↔
      (wildcard pattern).matchesWhole chars.toArray) :=
  ⟨wildcard_matchesWhole_iff, parseWith?_wildcardText, occursIn_anchoredWildcard_iff⟩

/-- A line feed in the place of an asterisk is not matched. -/
example : Globs ['a', '*', 'b'] ['a', '\n', 'b'] ∧
    (wildcard ['a', '*', 'b']).matchesWhole #['a', '\n', 'b'] = false :=
  ⟨.literal (by decide) (by decide) (.star ['\n'] (.literal (by decide) (by decide) .nil)),
    by decide⟩

end NestedSearch.Regex
