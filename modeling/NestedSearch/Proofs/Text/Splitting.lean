import NestedSearch.Text

/-!
# Texts taken apart

What a text is taken apart at is in none of its parts (`not_of_mem_splitOnP`). So words are not
empty and hold no white space, and words that are written with blanks between them come apart again
(`words_intercalate`). White space between two texts keeps their words apart, so the words of the
one are followed by those of the other (`words_append_blank`).
-/

namespace NestedSearch.Text

section

variable {α : Type}

/-- No part of a list holds what the list was split at. -/
theorem not_of_mem_splitOnP {p : α → Bool} {l part : List α} (h : part ∈ l.splitOnP p) :
    ∀ a ∈ part, p a = false := by
  induction l generalizing part with
  | nil =>
    rw [List.splitOnP_nil, List.mem_singleton] at h
    rw [h]
    exact fun a ha => absurd ha List.not_mem_nil
  | cons a l ih =>
    rw [List.splitOnP_cons_eq_if_modifyHead] at h
    split at h
    · rcases List.mem_cons.mp h with rfl | h
      · exact fun b hb => absurd hb List.not_mem_nil
      · exact ih h
    · rename_i ha
      obtain ⟨first, parts, hparts⟩ := List.exists_cons_of_ne_nil (List.splitOnP_ne_nil p l)
      rw [hparts, List.modifyHead_cons] at h
      rcases List.mem_cons.mp h with rfl | h
      · intro b hb
        rcases List.mem_cons.mp hb with rfl | hb
        · exact Bool.eq_false_iff.mpr ha
        · exact ih (hparts ▸ List.mem_cons_self) b hb
      · exact ih (hparts ▸ List.mem_cons_of_mem _ h)

theorem not_mem_of_mem_splitOn [BEq α] [LawfulBEq α] {x : α} {l part : List α}
    (h : part ∈ l.splitOn x) : x ∉ part := by
  rw [List.splitOn_eq_splitOnP] at h
  intro hx
  exact Bool.false_ne_true ((not_of_mem_splitOnP h x hx).symm.trans (beq_self_eq_true x))

end

/-! ## Runs -/

variable {p : Char → Bool} {s : List Char}

theorem runs_append_cons {c : Char} (hc : p c = false) (before after : List Char) :
    runs p (before ++ c :: after) = runs p before ++ runs p after := by
  have hsplit : (!p c) = true := by rw [hc, Bool.not_false]
  rw [runs, List.splitOnP_append_cons before after hsplit, List.filter_append]
  rfl

theorem runs_eq_singleton (hne : s ≠ []) (h : ∀ c ∈ s, p c = true) : runs p s = [s] := by
  have hwhole : s.splitOnP (fun c => !p c) = [s] :=
    List.splitOnP_eq_singleton fun c hc => by rw [h c hc, Bool.not_true]
  rw [runs, hwhole, List.filter_cons_of_pos (by simpa using hne), List.filter_nil]

/-- A character with the property is in some run. -/
theorem runs_ne_nil {c : Char} (hmem : c ∈ s) (hc : p c = true) : runs p s ≠ [] := by
  induction s with
  | nil => cases hmem
  | cons a s ih =>
    obtain ⟨first, parts, hparts⟩ := List.exists_cons_of_ne_nil
      (List.splitOnP_ne_nil (fun c => !p c) s)
    rw [runs, List.splitOnP_cons_eq_if_modifyHead]
    by_cases ha : p a = true
    · simp [ha, hparts]
    · have hrest : c ∈ s := by
        rcases List.mem_cons.mp hmem with rfl | hmem
        · exact absurd hc ha
        · exact hmem
      simpa [ha, runs] using ih hrest

/-! ## Words -/

/-- A word is not empty and holds no white space. -/
theorem of_mem_words {text word : String} (h : word ∈ words text) :
    word ≠ "" ∧ ∀ c ∈ word.toList, isWhiteSpace c = false := by
  obtain ⟨run, hrun, rfl⟩ := List.mem_map.mp h
  obtain ⟨hpart, hne⟩ := List.mem_filter.mp hrun
  refine ⟨?_, ?_⟩
  · simpa using hne
  · intro c hc
    rw [String.toList_ofList] at hc
    simpa using not_of_mem_splitOnP hpart c hc

theorem words_append_blank (s t : String) : words (s ++ " " ++ t) = words s ++ words t := by
  have hchars : (s ++ " " ++ t).toList = s.toList ++ ' ' :: t.toList := by simp
  have hblank : (!isWhiteSpace ' ') = false := by decide
  rw [words, hchars, runs_append_cons hblank, List.map_append]
  rfl

theorem words_eq_singleton {word : String} (hne : word ≠ "")
    (h : ∀ c ∈ word.toList, isWhiteSpace c = false) : words word = [word] := by
  have hchars : word.toList ≠ [] := fun hnil => hne (String.toList_eq_nil_iff.mp hnil)
  rw [words, runs_eq_singleton hchars fun c hc => by rw [h c hc, Bool.not_false],
    List.map_singleton, String.ofList_toList]

/-- A text that is not blank has a word. -/
theorem words_ne_nil {text : String} (h : isBlank text = false) : words text ≠ [] := by
  obtain ⟨c, hc, hword⟩ := List.all_eq_false.mp h
  have hruns := runs_ne_nil hc (p := fun c => !isWhiteSpace c) (by simpa using hword)
  simpa [words] using hruns

/-- **Words written with blanks between them come apart again.** -/
theorem words_intercalate {ws : List String}
    (h : ∀ w ∈ ws, w ≠ "" ∧ ∀ c ∈ w.toList, isWhiteSpace c = false) :
    words (" ".intercalate ws) = ws := by
  induction ws with
  | nil => rfl
  | cons w rest ih =>
    obtain ⟨⟨hne, hword⟩, hrest⟩ := List.forall_mem_cons.mp h
    cases rest with
    | nil => exact words_eq_singleton hne hword
    | cons w' rest =>
      rw [String.intercalate_cons_cons, words_append_blank, words_eq_singleton hne hword, ih hrest,
        List.singleton_append]

end NestedSearch.Text
