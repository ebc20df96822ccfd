import NestedSearch.Proofs.Corpus.Containment
import NestedSearch.Proofs.Corpus.Lacking
import NestedSearch.Proofs.Regex.Whole

/-!
# Which patterns fail in a search

The check of a leaf reads its pattern as it stands, a search reads it as a group between the marks
for the beginning and the end of a term. So a predicate that compiles may still turn out to be
invalid once documents are looked at, but only for a pattern that takes in the end of the group,
or that has no room for it (`search_invalid_only_if`).
-/

namespace NestedSearch

/-- A checked leaf has a pattern that is an expression. -/
theorem Leaf.isSome_parse?_of_check {l : Leaf} {pattern : String} (hcheck : l.check = .ok ())
    (hkind : l.kind = .regexp pattern) : (Regex.parse? pattern.toList).isSome := by
  unfold Leaf.check at hcheck
  rw [hkind] at hcheck
  split at hcheck
  · cases hcheck
  · unfold PredicateKind.checkParameters at hcheck
    dsimp only at hcheck
    split at hcheck
    · assumption
    · cases hcheck

/-- The leaves of a compiled query have been checked. -/
theorem check_leaves_of_compile {scope : SearchScope} {config : CompilerConfig} {p : Predicate}
    {q : CompiledQuery} (hcompile : compile scope config p = .ok q) :
    ∀ l ∈ q.predicate.leaves, l.check = .ok () := by
  obtain ⟨r, hplace, hpredicate, -⟩ := compile_ok hcompile
  rw [hpredicate]
  exact (derivation_of_place hplace).check_leaves

/-- **A search finds a compiled predicate invalid only for a pattern that ends in a comment or has
    no room for the group around it.** These are the patterns that the check of a leaf accepts and
    the search refuses, and they are the same whatever properties of characters a pattern may
    name. -/
theorem search_invalid_only_if {scope : SearchScope} {config : CompilerConfig} {p : Predicate}
    {q : CompiledQuery} (hcompile : compile scope config p = .ok q) (c : Corpus) :
    (∀ (properties : Regex.PropertyQuery → Option (Nat → Bool)) (pattern : List Char),
      (Regex.parseWith? properties pattern).isSome →
        ((Regex.parseWholeWith? properties pattern).isSome ↔
          ¬ Regex.LeavesCommentOpen pattern ∧ Regex.HasRoom pattern)) ∧
      (∀ l : Leaf, l.check = .ok () → ∀ pattern, l.kind = .regexp pattern →
        ((Regex.parseWhole? pattern.toList).isSome ↔
          ¬ Regex.LeavesCommentOpen pattern.toList ∧ Regex.HasRoom pattern.toList)) ∧
      (∀ l ∈ q.predicate.leaves, l.check = .ok ()) ∧
      ∀ fault, c.search scope q = .error (.invalidPredicate fault) →
        ∃ l ∈ q.predicate.leaves, ∃ pattern, l.kind = .regexp pattern ∧
          (Regex.LeavesCommentOpen pattern.toList ∨ ¬ Regex.HasRoom pattern.toList) := by
  have hwhole (l : Leaf) (hcheck : l.check = .ok ()) (pattern : String)
      (hkind : l.kind = .regexp pattern) :
      (Regex.parseWhole? pattern.toList).isSome ↔
        ¬ Regex.LeavesCommentOpen pattern.toList ∧ Regex.HasRoom pattern.toList :=
    Regex.parseWholeWith?_isSome_iff (Leaf.isSome_parse?_of_check hcheck hkind)
  have hchecked := check_leaves_of_compile hcompile
  refine ⟨fun _ _ => Regex.parseWholeWith?_isSome_iff, hwhole, hchecked, fun fault hsearch => ?_⟩
  obtain ⟨-, l, hl, pattern, hkind, hnone⟩ :=
    search_error hcompile (ensureScope_of_compile hcompile) hsearch
  refine ⟨l, hl, pattern, hkind, ?_⟩
  have hrefused : ¬ (Regex.parseWhole? pattern.toList).isSome := by simp [hnone]
  rw [hwhole l (hchecked l hl) pattern hkind] at hrefused
  tauto

namespace Sample

/-- A pattern in verbose mode that is explained in the same line. -/
def explained : String := "(?x)l.*  # what begins like lean"

def titleLike (pattern : String) : Predicate := .leaf ⟨[⟨title, []⟩], .regexp pattern⟩

end Sample

/-- The hypothesis of `search_invalid_only_if` can be met where the search does find the predicate
    invalid, because of a comment. -/
theorem search_invalid_only_if_sample :
    ∃ q, compile Sample.scope .default (Sample.titleLike Sample.explained) = .ok q ∧
      Sample.corpus.search Sample.scope q = .error (.invalidPredicate .unwrappablePattern) ∧
      Regex.LeavesCommentOpen Sample.explained.toList ∧
      ∃ l ∈ q.predicate.leaves, ∃ pattern, l.kind = .regexp pattern ∧
        (Regex.LeavesCommentOpen pattern.toList ∨ ¬ Regex.HasRoom pattern.toList) := by
  have hfails : (compile Sample.scope .default (Sample.titleLike Sample.explained)).toOption.map
      (fun q => (Sample.corpus.hitsOf Sample.scope q.predicate).isOk) = some false := by
    decide +kernel
  have hopen : Regex.LeavesCommentOpen Sample.explained.toList :=
    (Regex.leavesCommentOpen_iff (by decide +kernel)).mpr (by decide +kernel)
  cases hcompile : compile Sample.scope .default (Sample.titleLike Sample.explained) with
  | error e =>
    rw [hcompile] at hfails
    cases hfails
  | ok q =>
    have hscope := ensureScope_of_compile hcompile
    rw [hcompile, Except.toOption, Option.map_some, ← Corpus.search_eq_hitsOf hscope] at hfails
    cases hsearch : Sample.corpus.search Sample.scope q with
    | ok hits =>
      rw [hsearch] at hfails
      cases hfails
    | error e =>
      obtain ⟨rfl, -⟩ := search_error hcompile hscope hsearch
      obtain ⟨-, -, -, hinvalid⟩ := search_invalid_only_if hcompile Sample.corpus
      exact ⟨q, rfl, hsearch, hopen, hinvalid _ hsearch⟩

end NestedSearch
