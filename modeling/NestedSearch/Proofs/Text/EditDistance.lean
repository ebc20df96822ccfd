import Mathlib.Order.Bounds.Defs
import Mathlib.Order.MinMax
import NestedSearch.Corpus.Evaluation

/-!
# Edit distance

What is computed row by row is the least length of a script of edits, each of them the insertion,
deletion or substitution of one item anywhere in the list (`isDistance_editDistance`).

Scripts may edit one place again and again, so there is no recursion over them. They are compared with
alignments, in which each item of either list is paired with one of the other or left alone. An
alignment is a script (`Aligned.edits`), and one more edit costs an alignment at most one more
(`Edit.costs`), so both have the same least cost. Alignments end in one of three ways, and those are the
three cells from which the next one follows (`IsDistance.concat`).
-/

namespace NestedSearch.Text

variable {α : Type}

/-! ## Scripts -/

/-- The insertion, deletion or substitution of one item. -/
inductive Edit : List α → List α → Prop
  | insert (before after : List α) (a : α) : Edit (before ++ after) (before ++ a :: after)
  | delete (before after : List α) (a : α) : Edit (before ++ a :: after) (before ++ after)
  | substitute (before after : List α) (a b : α) :
      Edit (before ++ a :: after) (before ++ b :: after)

/-- So many edits, one after the other, turn one list into the other. -/
inductive Edits : Nat → List α → List α → Prop
  | nil (as : List α) : Edits 0 as as
  | snoc {n : Nat} {as bs cs : List α} : Edits n as bs → Edit bs cs → Edits (n + 1) as cs

theorem Edit.symm {as bs : List α} (h : Edit as bs) : Edit bs as := by
  cases h with
  | insert before after a => exact .delete before after a
  | delete before after a => exact .insert before after a
  | substitute before after a b => exact .substitute before after b a

theorem Edit.cons (a : α) {as bs : List α} (h : Edit as bs) : Edit (a :: as) (a :: bs) := by
  cases h with
  | insert before after b => exact .insert (a :: before) after b
  | delete before after b => exact .delete (a :: before) after b
  | substitute before after b c => exact .substitute (a :: before) after b c

namespace Edits

variable {m n : Nat} {as bs cs : List α}

theorem cons (a : α) (h : Edits n as bs) : Edits n (a :: as) (a :: bs) := by
  induction h with
  | nil as => exact .nil _
  | snoc _ hedit ih => exact .snoc ih (hedit.cons a)

theorem trans (h : Edits m as bs) (h' : Edits n bs cs) : Edits (m + n) as cs := by
  induction h' with
  | nil as => exact h
  | snoc _ hedit ih => exact .snoc (ih h) hedit

theorem symm (h : Edits n as bs) : Edits n bs as := by
  induction h with
  | nil as => exact .nil _
  | @snoc n as bs cs _ hedit ih =>
    have hfirst : Edits 1 cs bs := .snoc (.nil cs) hedit.symm
    rw [Nat.add_comm]
    exact hfirst.trans ih

theorem eq_of_zero (h : Edits 0 as bs) : as = bs := by
  cases h
  rfl

end Edits

/-- The least number of edits that turn one list into the other. -/
def IsDistance (as bs : List α) (n : Nat) : Prop := IsLeast {m | Edits m as bs} n

namespace IsDistance

variable {m n k : Nat} {as bs cs : List α}

theorem symm (h : IsDistance as bs n) : IsDistance bs as n :=
  ⟨Edits.symm h.1, fun _ hm => h.2 (Edits.symm hm)⟩

theorem unique (h : IsDistance as bs m) (h' : IsDistance as bs n) : m = n :=
  Nat.le_antisymm (h.2 h'.1) (h'.2 h.1)

theorem eq_zero_iff (h : IsDistance as bs n) : n = 0 ↔ as = bs := by
  constructor
  · rintro rfl
    exact Edits.eq_of_zero h.1
  · rintro rfl
    exact Nat.le_zero.mp (h.2 (.nil as))

theorem triangle (h : IsDistance as bs m) (h' : IsDistance bs cs n) (h'' : IsDistance as cs k) :
    k ≤ m + n := h''.2 (Edits.trans h.1 h'.1)

end IsDistance

/-! ## Alignments -/

variable [DecidableEq α]

/-- Two lists side by side: each item is paired with one of the other list, or stands alone. What is
    counted are the items alone and the pairs of different items. -/
inductive Aligned : Nat → List α → List α → Prop
  | nil : Aligned 0 [] []
  | insert {n : Nat} {as bs : List α} (b : α) : Aligned n as bs → Aligned (n + 1) as (b :: bs)
  | delete {n : Nat} {as bs : List α} (a : α) : Aligned n as bs → Aligned (n + 1) (a :: as) bs
  | pair {n : Nat} {as bs : List α} (a b : α) :
      Aligned n as bs → Aligned (n + if a = b then 0 else 1) (a :: as) (b :: bs)

/-- An alignment says how to edit. -/
theorem Aligned.edits {n : Nat} {as bs : List α} (h : Aligned n as bs) : Edits n as bs := by
  induction h with
  | nil => exact .nil []
  | @insert n as bs b _ ih => exact .snoc ih (.insert [] bs b)
  | @delete n as bs a _ ih => exact .snoc (ih.cons a) (.delete [] bs a)
  | @pair n as bs a b _ ih =>
    by_cases hab : a = b
    · rw [if_pos hab, ← hab]
      exact ih.cons a
    · rw [if_neg hab]
      exact .snoc (ih.cons a) (.substitute [] bs a b)

/-- Whatever is aligned with the first list is aligned with the second one for at most one more. -/
def Costs (bs cs : List α) : Prop :=
  ∀ n as, Aligned n as bs → ∃ m ≤ n + 1, Aligned m as cs

namespace Costs

variable {bs cs : List α}

theorem insert (b : α) (bs : List α) : Costs bs (b :: bs) :=
  fun n _ h => ⟨n + 1, Nat.le_refl _, h.insert b⟩

/-- Before its first item is aligned a list is met by deletions alone, which stay as they are. -/
theorem ofHead {b : α} (hinsert : ∀ n as, Aligned n as bs → ∃ m ≤ n + 2, Aligned m as cs)
    (hpair : ∀ n a as, Aligned n as bs →
      ∃ m ≤ (n + if a = b then 0 else 1) + 1, Aligned m (a :: as) cs) :
    Costs (b :: bs) cs := by
  intro n as h
  generalize hlist : b :: bs = list at h
  induction h with
  | nil => cases hlist
  | insert _ h _ =>
    cases hlist
    exact hinsert _ _ h
  | delete a _ ih =>
    obtain ⟨m, hm, h⟩ := ih hlist
    exact ⟨m + 1, by omega, h.delete a⟩
  | pair a _ h _ =>
    cases hlist
    exact hpair _ a _ h

theorem delete (b : α) (bs : List α) : Costs (b :: bs) bs := by
  refine ofHead (fun n as h => ?_) fun n a as h => ?_
  · exact ⟨n, by omega, h⟩
  · exact ⟨n + 1, by omega, h.delete a⟩

theorem substitute (b c : α) (bs : List α) : Costs (b :: bs) (c :: bs) := by
  refine ofHead (fun n as h => ?_) fun n a as h => ?_
  · exact ⟨n + 1, by omega, h.insert c⟩
  · exact ⟨_, by split <;> omega, h.pair a c⟩

theorem cons (b : α) (hcosts : Costs bs cs) : Costs (b :: bs) (b :: cs) := by
  refine ofHead (fun n as h => ?_) fun n a as h => ?_
  · obtain ⟨m, hm, h⟩ := hcosts n as h
    exact ⟨m + 1, by omega, h.insert b⟩
  · obtain ⟨m, hm, h⟩ := hcosts n as h
    exact ⟨_, by omega, h.pair a b⟩

theorem append (before : List α) (hcosts : Costs bs cs) :
    Costs (before ++ bs) (before ++ cs) := by
  induction before with
  | nil => exact hcosts
  | cons b before ih => exact ih.cons b

end Costs

/-- **One more edit costs an alignment at most one more.** -/
theorem Edit.costs {bs cs : List α} (h : Edit bs cs) : Costs bs cs := by
  cases h with
  | insert before after b => exact (Costs.insert b after).append before
  | delete before after b => exact (Costs.delete b after).append before
  | substitute before after b c => exact (Costs.substitute b c after).append before

theorem Aligned.refl (as : List α) : Aligned 0 as as := by
  induction as with
  | nil => exact .nil
  | cons a as ih =>
    have h := ih.pair a a
    rwa [if_pos rfl] at h

theorem Edits.exists_aligned {n : Nat} {as bs : List α} (h : Edits n as bs) :
    ∃ m ≤ n, Aligned m as bs := by
  induction h with
  | nil as => exact ⟨0, Nat.le_refl _, .refl as⟩
  | snoc _ hedit ih =>
    obtain ⟨m, hm, h⟩ := ih
    obtain ⟨k, hk, h⟩ := hedit.costs m _ h
    exact ⟨k, by omega, h⟩

/-- The distance is the least cost of an alignment. -/
theorem isDistance_iff {as bs : List α} {n : Nat} :
    IsDistance as bs n ↔ Aligned n as bs ∧ ∀ m, Aligned m as bs → n ≤ m := by
  constructor
  · rintro ⟨hedits, hleast⟩
    obtain ⟨m, hm, haligned⟩ := Edits.exists_aligned hedits
    have heq : n = m := Nat.le_antisymm (hleast haligned.edits) hm
    exact ⟨heq ▸ haligned, fun k hk => hleast hk.edits⟩
  · rintro ⟨haligned, hleast⟩
    refine ⟨haligned.edits, fun m hm => ?_⟩
    obtain ⟨k, hk, h⟩ := Edits.exists_aligned hm
    exact Nat.le_trans (hleast k h) hk

/-! ## Cells -/

namespace Aligned

variable {m n : Nat} {as bs as' bs' : List α}

theorem append (h : Aligned m as bs) (h' : Aligned n as' bs') :
    Aligned (m + n) (as ++ as') (bs ++ bs') := by
  induction h with
  | nil => rwa [Nat.zero_add]
  | insert b _ ih =>
    rw [Nat.add_right_comm]
    exact ih.insert b
  | delete a _ ih =>
    rw [Nat.add_right_comm]
    exact ih.delete a
  | pair a b _ ih =>
    rw [Nat.add_right_comm]
    exact ih.pair a b

theorem reverse (h : Aligned n as bs) : Aligned n as.reverse bs.reverse := by
  induction h with
  | nil => exact .nil
  | @insert n as bs b _ ih =>
    have h := ih.append (Aligned.nil.insert b)
    rwa [List.append_nil, ← List.reverse_cons] at h
  | @delete n as bs a _ ih =>
    have h := ih.append (Aligned.nil.delete a)
    rwa [List.append_nil, ← List.reverse_cons] at h
  | @pair n as bs a b _ ih =>
    have h := ih.append (Aligned.nil.pair a b)
    rwa [Nat.zero_add, ← List.reverse_cons, ← List.reverse_cons] at h

/-- An alignment ends with an item alone, on either side, or with a pair. -/
theorem cases_concat {a b : α} (h : Aligned n (as ++ [a]) (bs ++ [b])) :
    (∃ m, n = m + 1 ∧ Aligned m (as ++ [a]) bs) ∨ (∃ m, n = m + 1 ∧ Aligned m as (bs ++ [b])) ∨
      ∃ m, n = (m + if a = b then 0 else 1) ∧ Aligned m as bs := by
  have hrev := h.reverse
  rw [List.reverse_concat, List.reverse_concat] at hrev
  cases hrev with
  | insert _ h =>
    have h := h.reverse
    rw [List.reverse_cons, List.reverse_reverse, List.reverse_reverse] at h
    exact .inl ⟨_, rfl, h⟩
  | delete _ h =>
    have h := h.reverse
    rw [List.reverse_cons, List.reverse_reverse, List.reverse_reverse] at h
    exact .inr (.inl ⟨_, rfl, h⟩)
  | pair _ _ h =>
    have h := h.reverse
    rw [List.reverse_reverse, List.reverse_reverse] at h
    exact .inr (.inr ⟨_, rfl, h⟩)

theorem nil_left (bs : List α) : Aligned bs.length [] bs := by
  induction bs with
  | nil => exact .nil
  | cons b bs ih => exact ih.insert b

theorem length_le_add (h : Aligned n as bs) : bs.length ≤ as.length + n := by
  induction h with
  | nil => exact Nat.le_refl _
  | insert | delete | pair =>
    simp only [List.length_cons]
    omega

end Aligned

namespace IsDistance

theorem nil_left (bs : List α) : IsDistance [] bs bs.length := by
  refine isDistance_iff.mpr ⟨.nil_left bs, fun m hm => ?_⟩
  have hlen := hm.length_le_add
  rwa [List.length_nil, Nat.zero_add] at hlen

theorem nil_right (as : List α) : IsDistance as [] as.length := (nil_left as).symm

/-- **Each cell follows from the three beside it.** -/
theorem concat {as bs : List α} {a b : α} {diagonal above left : Nat}
    (hdiagonal : IsDistance as bs diagonal) (habove : IsDistance as (bs ++ [b]) above)
    (hleft : IsDistance (as ++ [a]) bs left) :
    IsDistance (as ++ [a]) (bs ++ [b])
      (min (min (diagonal + if a = b then 0 else 1) (above + 1)) (left + 1)) := by
  obtain ⟨hdiagonal, hdiagonal_le⟩ := isDistance_iff.mp hdiagonal
  obtain ⟨habove, habove_le⟩ := isDistance_iff.mp habove
  obtain ⟨hleft, hleft_le⟩ := isDistance_iff.mp hleft
  refine isDistance_iff.mpr ⟨?_, fun n hn => ?_⟩
  · have hpair : Aligned (diagonal + if a = b then 0 else 1) (as ++ [a]) (bs ++ [b]) := by
      have h := hdiagonal.append (Aligned.nil.pair a b)
      rwa [Nat.zero_add] at h
    have hdelete : Aligned (above + 1) (as ++ [a]) (bs ++ [b]) := by
      have h := habove.append (Aligned.nil.delete a)
      rwa [List.append_nil] at h
    have hinsert : Aligned (left + 1) (as ++ [a]) (bs ++ [b]) := by
      have h := hleft.append (Aligned.nil.insert b)
      rwa [List.append_nil] at h
    rcases min_choice (min (diagonal + if a = b then 0 else 1) (above + 1)) (left + 1) with h | h
    · rw [h]
      rcases min_choice (diagonal + if a = b then 0 else 1) (above + 1) with h | h
      · rwa [h]
      · rwa [h]
    · rwa [h]
  · rcases hn.cases_concat with ⟨m, rfl, h⟩ | ⟨m, rfl, h⟩ | ⟨m, rfl, h⟩
    · have := hleft_le m h
      omega
    · have := habove_le m h
      omega
    · have := hdiagonal_le m h
      omega

end IsDistance

/-! ## Rows -/

/-- The cells of a row from `done` on: the distances to `done` and to each longer initial part of
    `done ++ bs`. -/
inductive IsRow (as : List α) : (done bs : List α) → List Nat → Prop
  | last {done : List α} {n : Nat} : IsDistance as done n → IsRow as done [] [n]
  | cell {done bs : List α} {b : α} {n : Nat} {row : List Nat} :
      IsDistance as done n → IsRow as (done ++ [b]) bs row → IsRow as done (b :: bs) (n :: row)

theorem nextCells_nil (a : α) (left : Nat) (row : List Nat) : nextCells a left [] row = [] := by
  rw [nextCells]
  simp

namespace IsRow

variable {as done bs : List α} {row : List Nat}

omit [DecidableEq α] in
theorem head (h : IsRow as done bs row) : ∃ n rest, row = n :: rest ∧ IsDistance as done n := by
  cases h with
  | last h => exact ⟨_, _, rfl, h⟩
  | cell h _ => exact ⟨_, _, rfl, h⟩

theorem nextCells {a : α} {left : Nat} (h : IsRow as done bs row)
    (hleft : IsDistance (as ++ [a]) done left) :
    IsRow (as ++ [a]) done bs (left :: Text.nextCells a left bs row) := by
  induction h generalizing left with
  | last h =>
    rw [nextCells_nil]
    exact .last hleft
  | cell hdiagonal hrest ih =>
    obtain ⟨above, rest, rfl, habove⟩ := hrest.head
    rw [Text.nextCells]
    exact .cell hleft (ih (hdiagonal.concat habove hleft))

/-- The first row counts insertions. -/
theorem range' (done bs : List α) :
    IsRow [] done bs (List.range' done.length (bs.length + 1)) := by
  induction bs generalizing done with
  | nil => exact .last (.nil_left done)
  | cons b bs ih =>
    have h := ih (done ++ [b])
    rw [List.length_append, List.length_singleton] at h
    exact .cell (.nil_left done) h

omit [DecidableEq α] in
theorem getLastD (h : IsRow as done bs row) : IsDistance as (done ++ bs) (row.getLastD 0) := by
  induction h with
  | last h => rwa [List.append_nil]
  | cell _ hrest ih =>
    obtain ⟨n, rest, rfl, -⟩ := hrest.head
    rw [List.append_assoc] at ih
    exact ih

end IsRow

theorem IsRow.nextRow {as bs : List α} {row : List Nat} {a : α} (h : IsRow as [] bs row) :
    IsRow (as ++ [a]) [] bs (nextRow bs row a) := by
  obtain ⟨n, rest, rfl, hn⟩ := h.head
  have hlength : n = as.length := hn.unique (.nil_right as)
  have hfirst : IsDistance (as ++ [a]) [] (n + 1) := by
    have h := IsDistance.nil_right (as ++ [a])
    rwa [List.length_append, List.length_singleton, ← hlength] at h
  exact h.nextCells hfirst

theorem isRow_foldl {done as bs : List α} {row : List Nat} (h : IsRow done [] bs row) :
    IsRow (done ++ as) [] bs (as.foldl (nextRow bs) row) := by
  induction as generalizing done row with
  | nil => rwa [List.append_nil]
  | cons a as ih =>
    have hall := ih (h.nextRow (a := a))
    rwa [List.append_assoc] at hall

/-- **The last cell of the last row is the distance.** -/
theorem isDistance_editDistance (as bs : List α) : IsDistance as bs (editDistance as bs) := by
  have hfirst : IsRow [] [] bs (List.range (bs.length + 1)) := by
    rw [List.range_eq_range']
    exact .range' [] bs
  exact (isRow_foldl hfirst).getLastD

/-! ## By index -/

/-- Puts a cell into a row that is being filled, from the row above; `none` if one of the cells that
    are read or written is not there. -/
def setCell? (above : List Nat) (a : α) (row : List Nat) (cell : α × Nat) : Option (List Nat) := do
  let diagonal ← above[cell.2]?
  let upper ← above[cell.2 + 1]?
  let left ← row[cell.2]?
  let value := min (min (diagonal + if a = cell.1 then 0 else 1) (upper + 1)) (left + 1)
  if cell.2 + 1 < row.length then some (row.set (cell.2 + 1) value) else none

/-- The row of the item `a` at place `i`, filled cell by cell. -/
def fillRow? (bs : List α) (above : List Nat) (item : α × Nat) : Option (List Nat) :=
  bs.zipIdx.foldlM (setCell? above item.1) (List.replicate (bs.length + 1) (item.2 + 1))

/-- The edit distance, computed with rows of one length that are filled by index; `none` if an index
    is out of range. -/
def editDistance? (as bs : List α) : Option Nat := do
  let row ← as.zipIdx.foldlM (fillRow? bs) (List.range (bs.length + 1))
  row[bs.length]?

theorem setCell?_eq {above above' before rest : List Nat} {a b : α} {diagonal upper left old : Nat}
    (h : above.length = before.length) :
    setCell? (above ++ diagonal :: upper :: above') a (before ++ left :: old :: rest)
        (b, before.length) =
      some (before ++ left ::
        min (min (diagonal + if a = b then 0 else 1) (upper + 1)) (left + 1) :: rest) := by
  unfold setCell?
  have hdiagonal : (above ++ diagonal :: upper :: above')[before.length]? = some diagonal := by
    simp [← h]
  have hupper : (above ++ diagonal :: upper :: above')[before.length + 1]? = some upper := by
    simp [← h]
  have hleft : (before ++ left :: old :: rest)[before.length]? = some left := by simp
  have hlength : before.length + 1 < (before ++ left :: old :: rest).length := by simp
  simp only [hdiagonal, hupper, hleft, Option.bind_eq_bind, Option.bind_some, if_pos hlength]
  simp

/-- Filling the rest of a row never leaves it. -/
theorem foldlM_setCell?_eq {bs : List α} {a : α} (above row before : List Nat) (left : Nat)
    {filler : Nat} (habove : above.length = before.length) (hrow : row.length = bs.length + 1) :
    (bs.zipIdx before.length).foldlM (setCell? (above ++ row) a)
        (before ++ left :: List.replicate bs.length filler) =
      some (before ++ left :: nextCells a left bs row) := by
  induction bs generalizing above row before left with
  | nil =>
    rw [nextCells_nil]
    rfl
  | cons b bs ih =>
    match row, hrow with
    | diagonal :: upper :: row, hrow =>
      have hnext := ih (above ++ [diagonal]) (upper :: row) (before ++ [left])
        (min (min (diagonal + if a = b then 0 else 1) (upper + 1)) (left + 1))
        (by simp [habove]) (by simpa using hrow)
      simp only [List.append_assoc, List.singleton_append, List.length_append,
        List.length_singleton] at hnext
      rw [List.zipIdx_cons, List.foldlM_cons, List.length_cons, List.replicate_succ,
        setCell?_eq habove, Option.bind_eq_bind, Option.bind_some, hnext, nextCells]

theorem length_nextCells (a : α) (left : Nat) (bs : List α) {row : List Nat}
    (h : row.length = bs.length + 1) : (nextCells a left bs row).length = bs.length := by
  induction bs generalizing left row with
  | nil =>
    rw [nextCells_nil]
    rfl
  | cons b bs ih =>
    match row, h with
    | diagonal :: upper :: row, h =>
      rw [nextCells, List.length_cons, ih _ (by simpa using h), List.length_cons]

theorem length_nextRow (a : α) (bs : List α) {row : List Nat} (h : row.length = bs.length + 1) :
    (nextRow bs row a).length = bs.length + 1 := by
  rw [nextRow, List.length_cons, length_nextCells a _ bs h]

theorem length_foldl_nextRow (as bs : List α) {row : List Nat} (h : row.length = bs.length + 1) :
    (as.foldl (nextRow bs) row).length = bs.length + 1 := by
  induction as generalizing row with
  | nil => exact h
  | cons a as ih => exact ih (length_nextRow a bs h)

/-- A row begins with its place, from which the next row is filled. -/
theorem foldlM_fillRow?_eq (as bs : List α) {row : List Nat} (h : row.length = bs.length + 1) :
    (as.zipIdx (row.headD 0)).foldlM (fillRow? bs) row = some (as.foldl (nextRow bs) row) := by
  induction as generalizing row with
  | nil => rfl
  | cons a as ih =>
    have hfill : fillRow? bs row (a, row.headD 0) = some (nextRow bs row a) :=
      foldlM_setCell?_eq [] row [] _ rfl h
    rw [List.zipIdx_cons, List.foldlM_cons, hfill, List.foldl_cons]
    exact ih (length_nextRow a bs h)

/-- **By index nothing is ever out of range.** -/
theorem editDistance?_eq (as bs : List α) : editDistance? as bs = some (editDistance as bs) := by
  have hfirst : (List.range (bs.length + 1)).headD 0 = 0 := by
    rw [List.range_succ_eq_map]
    rfl
  have hfold := foldlM_fillRow?_eq as bs (List.length_range (n := bs.length + 1))
  have hlength := length_foldl_nextRow as bs (List.length_range (n := bs.length + 1))
  rw [hfirst] at hfold
  rw [editDistance?, hfold, Option.bind_eq_bind, Option.bind_some, editDistance,
    List.getLastD_eq_getLast?, List.getLast?_eq_getElem?, hlength, Nat.add_sub_cancel,
    List.getElem?_eq_getElem (by omega)]
  rfl

end NestedSearch.Text

namespace NestedSearch

open Text

/-- **Within so many edits is within that edit distance,** also where no edits are allowed and the
    terms are compared at once. -/
theorem isWithinEdits_iff {edits : Nat} {query term : String} :
    isWithinEdits edits query term = true ↔
      editDistance query.toList term.toList ≤ edits := by
  unfold isWithinEdits
  split
  · rename_i hzero
    rw [hzero, Nat.le_zero, (isDistance_editDistance _ _).eq_zero_iff, decide_eq_true_eq,
      String.toList_inj]
  · rw [decide_eq_true_eq]

/-- **The edit distance is the least number of insertions, deletions and substitutions of single
    characters,** which makes it a distance. It decides whether a term is near enough, for every
    number of edits, and is computed without an index out of range. -/
theorem editDistance_exact (s t : String) :
    IsLeast {n | Edits n s.toList t.toList} (editDistance s.toList t.toList) ∧
      (∀ edits, isWithinEdits edits s t = true ↔ editDistance s.toList t.toList ≤ edits) ∧
      editDistance? s.toList t.toList = some (editDistance s.toList t.toList) ∧
      editDistance t.toList s.toList = editDistance s.toList t.toList ∧
      (editDistance s.toList t.toList = 0 ↔ s = t) ∧
      ∀ u : String, editDistance s.toList u.toList ≤
        editDistance s.toList t.toList + editDistance t.toList u.toList := by
  have hdistance := isDistance_editDistance s.toList t.toList
  refine ⟨hdistance, fun edits => isWithinEdits_iff, editDistance?_eq _ _, ?_, ?_, fun u => ?_⟩
  · exact (isDistance_editDistance _ _).unique hdistance.symm
  · rw [hdistance.eq_zero_iff, String.toList_inj]
  · exact hdistance.triangle (isDistance_editDistance _ _) (isDistance_editDistance _ _)

end NestedSearch
