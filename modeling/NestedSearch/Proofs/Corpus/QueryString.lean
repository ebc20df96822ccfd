import Mathlib.Logic.Basic
import Mathlib.Tactic.MkIffOfInductiveProp
import NestedSearch.Corpus.Evaluation
import NestedSearch.Proofs.Text.Splitting

/-!
# Query strings word by word

A query string selects or does not by three kinds of words under two operators, and by what holds
where there are no words of a kind. All of this asks nothing but which words there are
(`selects_iff`): not how often, and not in which order (`selects_congr`). So what a query string
selects can be put together from what parts of it select (`Evaluation.isSelected_words`): under
`and` a string is its parts, one more excluded word takes away what that word finds, and beside a
required word the plain ones make no difference under `or`.
-/

namespace NestedSearch

/-! ## What the words ask for -/

section

variable {words : List QueryWord} {demand : Demand} {test : QueryWord → Bool}

theorem all_demanding_iff :
    (words.filter fun w => w.demand = demand).all test = true ↔
      ∀ w ∈ words, w.demand = demand → test w = true := by
  simp only [List.all_eq_true, List.mem_filter, decide_eq_true_eq, and_imp]

theorem any_demanding_iff :
    (words.filter fun w => w.demand = demand).any test = true ↔
      ∃ w ∈ words, w.demand = demand ∧ test w = true := by
  simp only [List.any_eq_true, List.mem_filter, decide_eq_true_eq, and_assoc]

theorem isEmpty_demanding_iff :
    (words.filter fun w => w.demand = demand).isEmpty = true ↔
      ¬ ∃ w ∈ words, w.demand = demand := by
  simp only [List.isEmpty_iff, List.filter_eq_nil_iff, decide_eq_true_eq, not_exists, not_and]

end

/-- Whether a word has a sign in front. Words without one are plain. -/
def QueryWord.isSigned (w : QueryWord) : Bool := w.demand ≠ .optional

/-- What the plain words ask for. -/
def PlainMet (found : String → Bool) (words : List QueryWord) : BoolOperator → Prop
  | .and => ∀ w ∈ words, w.demand = .optional → found w.text = true
  | .or => (∃ w ∈ words, w.demand = .optional) → (∃ w ∈ words, w.demand = .required) ∨
      ∃ w ∈ words, w.demand = .optional ∧ found w.text = true

/-- What the words of a query string ask for. -/
@[mk_iff]
structure DemandsMet (found : String → Bool) (operator : BoolOperator) (words : List QueryWord) :
    Prop where
  hasWord : ∃ w, w ∈ words
  required : ∀ w ∈ words, w.demand = .required → found w.text = true
  excluded : ∀ w ∈ words, w.demand = .excluded → found w.text = false
  plain : PlainMet found words operator

variable {found : String → Bool} {operator : BoolOperator} {words words' : List QueryWord}

theorem selects_iff : selects operator words found = true ↔ DemandsMet found operator words := by
  have hsome : words.isEmpty = false ↔ ∃ w, w ∈ words := by
    cases words <;> simp
  have hexcluded :
      ((words.filter fun w => w.demand = .excluded).any fun w => found w.text) = false ↔
        ∀ w ∈ words, w.demand = .excluded → found w.text = false := by
    rw [← Bool.not_eq_true, any_demanding_iff]
    simp only [not_exists, not_and, Bool.not_eq_true]
  unfold selects
  simp only [demandsMet_iff, Bool.and_eq_true, Bool.not_eq_true', hsome, all_demanding_iff,
    hexcluded, and_assoc]
  refine and_congr_right fun _ => and_congr_right fun _ => and_congr_right fun _ => ?_
  cases operator with
  | and => exact all_demanding_iff
  | or =>
    simp only [Bool.or_eq_true, Bool.not_eq_true', ← Bool.not_eq_true, isEmpty_demanding_iff,
      any_demanding_iff, not_not, PlainMet, or_assoc]
    exact imp_iff_not_or.symm

/-- **A query string asks nothing but which words there are.** -/
theorem selects_congr (h : ∀ w, w ∈ words ↔ w ∈ words') :
    selects operator words found = selects operator words' found := by
  have hplain : PlainMet found words operator ↔ PlainMet found words' operator := by
    cases operator <;> simp only [PlainMet, h]
  rw [Bool.eq_iff_iff, selects_iff, selects_iff, demandsMet_iff, demandsMet_iff, hplain]
  simp only [h]

/-! ## Putting words together -/

/-- Under `and` fewer words ask for less. -/
theorem DemandsMet.of_subset (h : DemandsMet found .and words) (hsubset : ∀ w ∈ words', w ∈ words)
    (hword : ∃ w, w ∈ words') : DemandsMet found .and words' where
  hasWord := hword
  required w hw := h.required w (hsubset w hw)
  excluded w hw := h.excluded w (hsubset w hw)
  plain w hw := h.plain w (hsubset w hw)

theorem selects_and_append (hword : ∃ w, w ∈ words) (hword' : ∃ w, w ∈ words') :
    selects .and (words ++ words') found =
      (selects .and words found && selects .and words' found) := by
  rw [Bool.eq_iff_iff, Bool.and_eq_true, selects_iff, selects_iff, selects_iff]
  constructor
  · intro h
    exact ⟨h.of_subset (fun w hw => List.mem_append_left _ hw) hword,
      h.of_subset (fun w hw => List.mem_append_right _ hw) hword'⟩
  · rintro ⟨h, h'⟩
    obtain ⟨w, hw⟩ := hword
    exact ⟨⟨w, List.mem_append_left _ hw⟩, List.forall_mem_append.mpr ⟨h.required, h'.required⟩,
      List.forall_mem_append.mpr ⟨h.excluded, h'.excluded⟩,
      List.forall_mem_append.mpr ⟨h.plain, h'.plain⟩⟩

/-- An excluded word has no say in what the plain ones ask for. -/
theorem plainMet_concat_excluded (text : String) :
    PlainMet found (words ++ [⟨.excluded, text⟩]) operator ↔ PlainMet found words operator := by
  cases operator <;>
    simp [PlainMet, or_imp, forall_and, or_and_right, exists_or]

theorem selects_concat_excluded (hword : ∃ w, w ∈ words) (text : String) :
    selects operator (words ++ [⟨.excluded, text⟩]) found =
      (selects operator words found && !found text) := by
  rw [Bool.eq_iff_iff, Bool.and_eq_true, Bool.not_eq_true', selects_iff, selects_iff]
  constructor
  · intro h
    refine ⟨⟨hword, fun w hw => h.required w (List.mem_append_left _ hw),
      fun w hw => h.excluded w (List.mem_append_left _ hw), ?_⟩, ?_⟩
    · exact (plainMet_concat_excluded text).mp h.plain
    · exact h.excluded ⟨.excluded, text⟩ (List.mem_append_right _ List.mem_cons_self) rfl
  · rintro ⟨h, htext⟩
    obtain ⟨w, hw⟩ := hword
    refine ⟨⟨w, List.mem_append_left _ hw⟩, List.forall_mem_append.mpr ⟨h.required, ?_⟩,
      List.forall_mem_append.mpr ⟨h.excluded, ?_⟩, (plainMet_concat_excluded text).mpr h.plain⟩
    · simp
    · simpa using htext

theorem selects_required (text : String) :
    selects operator [⟨.required, text⟩] found = found text := by
  cases operator <;> simp [selects]

/-- Beside a required word the plain ones make no difference under `or`. -/
theorem selects_or_filter (h : ∃ w ∈ words, w.demand = .required) :
    selects .or (words.filter QueryWord.isSigned) found = selects .or words found := by
  obtain ⟨r, hr, hrequired⟩ := h
  have hmem : r ∈ words.filter QueryWord.isSigned := by
    simp [QueryWord.isSigned, hr, hrequired]
  rw [Bool.eq_iff_iff, selects_iff, selects_iff]
  constructor
  · intro h
    refine ⟨⟨r, hr⟩, fun w hw hdemand => h.required w ?_ hdemand,
      fun w hw hdemand => h.excluded w ?_ hdemand, fun _ => .inl ⟨r, hr, hrequired⟩⟩
    all_goals simp [QueryWord.isSigned, hw, hdemand]
  · intro h
    exact ⟨⟨r, hmem⟩, fun w hw => h.required w (List.mem_filter.mp hw).1,
      fun w hw => h.excluded w (List.mem_filter.mp hw).1, fun _ => .inl ⟨r, hmem, hrequired⟩⟩

/-! ## Reading words -/

/-- The words of a query string that have a sign, as they are written. -/
def signedWords (query : String) : List String :=
  (Text.words query).filter fun word => (QueryWord.ofString word).isSigned

/-- A query string without its plain words. -/
def withoutPlain (query : String) : String := " ".intercalate (signedWords query)

section

variable {query r t : String}

theorem words_withoutPlain (query : String) :
    Text.words (withoutPlain query) = signedWords query :=
  Text.words_intercalate fun _ hword => Text.of_mem_words (List.mem_filter.mp hword).1

theorem exists_queryWord (h : Text.isBlank query = false) : ∃ w, w ∈ queryWords query := by
  obtain ⟨word, hword⟩ := List.exists_mem_of_ne_nil _ (Text.words_ne_nil h)
  exact ⟨_, List.mem_map_of_mem hword⟩

theorem queryWords_append (s t : String) :
    queryWords (s ++ " " ++ t) = queryWords s ++ queryWords t := by
  rw [queryWords, Text.words_append_blank, List.map_append]
  rfl

/-- The blank before a sign ends the text before it. -/
theorem append_sign (s sign t : String) : s ++ (" " ++ sign) ++ t = s ++ " " ++ (sign ++ t) := by
  simp only [String.append_assoc]

/-- A sign and what follows it are one word. -/
theorem queryWords_sign {sign : Char} {word : String} (hword : word.toList = sign :: t.toList)
    (hsign : Text.isWhiteSpace sign = false) (ht : ∀ c ∈ t.toList, Text.isWhiteSpace c = false) :
    queryWords word = [QueryWord.ofString word] := by
  have hne : word ≠ "" := by
    rintro rfl
    cases hword
  have hwhole : Text.words word = [word] :=
    Text.words_eq_singleton hne (hword ▸ List.forall_mem_cons.mpr ⟨hsign, ht⟩)
  rw [queryWords, hwhole, List.map_singleton]

theorem queryWords_required (ht : ∀ c ∈ t.toList, Text.isWhiteSpace c = false) :
    queryWords ("+" ++ t) = [⟨.required, t⟩] := by
  have hword : ("+" ++ t).toList = '+' :: t.toList := by simp
  rw [queryWords_sign hword (by decide) ht, QueryWord.ofString, hword]
  simp only [String.ofList_toList]

theorem queryWords_excluded (ht : ∀ c ∈ t.toList, Text.isWhiteSpace c = false) :
    queryWords ("-" ++ t) = [⟨.excluded, t⟩] := by
  have hword : ("-" ++ t).toList = '-' :: t.toList := by simp
  rw [queryWords_sign hword (by decide) ht, QueryWord.ofString, hword]
  simp only [String.ofList_toList]

/-- Leaving out plain words before or after reading them is the same. -/
theorem queryWords_of_words_eq (h : Text.words r = signedWords query) :
    queryWords r = (queryWords query).filter QueryWord.isSigned := by
  rw [queryWords, queryWords, h, signedWords, List.filter_map]
  rfl

end

namespace Evaluation

/-- Whether a query string selects a document with these terms in the fields it is matched with. -/
def isSelected (targets : List (QueryAnalysis × List String)) (operator : BoolOperator)
    (query : String) : Bool := selects operator (queryWords query) (isFound targets)

/-- **What a query string selects is put together from its words.** It selects where what its words
    ask for is met. Of strings that are not blank, two joined by `and` select what both select, and
    one more excluded word takes away what the word selects if it is required. Beside a required word
    the plain words can be left out under `or`. And strings with the same words select the same,
    whatever the order and the number of times. -/
theorem isSelected_words (targets : List (QueryAnalysis × List String)) {s₁ s₂ t : String}
    (h₁ : Text.isBlank s₁ = false) (h₂ : Text.isBlank s₂ = false)
    (ht : ∀ c ∈ t.toList, Text.isWhiteSpace c = false) :
    (∀ operator query, isSelected targets operator query = true ↔
        DemandsMet (isFound targets) operator (queryWords query)) ∧
      isSelected targets .and (s₁ ++ " " ++ s₂) =
        (isSelected targets .and s₁ && isSelected targets .and s₂) ∧
      (∀ operator, isSelected targets operator (s₁ ++ " -" ++ t) =
        (isSelected targets operator s₁ && !isSelected targets operator ("+" ++ t))) ∧
      Text.words (withoutPlain s₁) = signedWords s₁ ∧
      (∀ r, Text.words r = signedWords s₁ →
        isSelected targets .or (s₁ ++ " +" ++ t) = isSelected targets .or (r ++ " +" ++ t)) ∧
      ∀ operator s s', (∀ word, word ∈ Text.words s ↔ word ∈ Text.words s') →
        isSelected targets operator s = isSelected targets operator s' := by
  have hminus : s₁ ++ " -" ++ t = s₁ ++ " " ++ ("-" ++ t) := append_sign s₁ "-" t
  have hplus (s : String) : s ++ " +" ++ t = s ++ " " ++ ("+" ++ t) := append_sign s "+" t
  refine ⟨fun _ _ => selects_iff, ?_, fun operator => ?_, words_withoutPlain s₁, fun r hr => ?_,
    fun operator s s' h => ?_⟩
  · rw [isSelected, queryWords_append,
      selects_and_append (exists_queryWord h₁) (exists_queryWord h₂)]
    rfl
  · rw [isSelected, hminus, queryWords_append, queryWords_excluded ht,
      selects_concat_excluded (exists_queryWord h₁), isSelected, isSelected, queryWords_required ht,
      selects_required]
  · have hrequired : ∀ ws : List QueryWord,
        ∃ w ∈ ws ++ [⟨.required, t⟩], w.demand = .required :=
      fun ws => ⟨⟨.required, t⟩, List.mem_append_right _ List.mem_cons_self, rfl⟩
    rw [isSelected, isSelected, hplus, hplus, queryWords_append, queryWords_append,
      queryWords_required ht, ← selects_or_filter (hrequired _), ← selects_or_filter (hrequired _),
      List.filter_append, List.filter_append, queryWords_of_words_eq hr, List.filter_filter]
    simp only [Bool.and_self]
  · refine selects_congr fun w => ?_
    simp only [queryWords, List.mem_map, h]

end Evaluation

namespace Sample

/-- A colour as it is, and the terms of a text. -/
def painted : List (QueryAnalysis × List String) :=
  [(.raw, ["red"]), (.analyzer "standard", ["blue", "sky"])]

end Sample

/-- `isSelected_words` for what is selected, until the sky is excluded. -/
theorem isSelected_words_sample :
    Text.isBlank "blue +red" = false ∧ Text.isBlank "-grey" = false ∧
      Evaluation.isSelected Sample.painted .and ("blue +red" ++ " " ++ "-grey") = true ∧
      Evaluation.isSelected Sample.painted .or ("blue +red" ++ " -" ++ "sky") = false ∧
      Evaluation.isSelected Sample.painted .or ("blue +red" ++ " +" ++ "sky") =
        Evaluation.isSelected Sample.painted .or ("+red" ++ " +" ++ "sky") := by
  have hblank : Text.isBlank "blue +red" = false := by decide
  have hblank' : Text.isBlank "-grey" = false := by decide
  have hsky : ∀ c ∈ "sky".toList, Text.isWhiteSpace c = false := by
    have hnone : "sky".toList.any Text.isWhiteSpace = false := by decide
    exact fun c hc => Bool.eq_false_iff.mpr (List.any_eq_false.mp hnone c hc)
  obtain ⟨-, hand, hminus, -, hplain, -⟩ :=
    Evaluation.isSelected_words Sample.painted hblank hblank' hsky
  refine ⟨hblank, hblank', ?_, ?_, hplain "+red" (by decide +kernel)⟩
  · rw [hand]
    decide +kernel
  · rw [hminus]
    decide +kernel

end NestedSearch
