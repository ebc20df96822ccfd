import NestedSearch.Proofs.Obstacle

/-!
# Scopes still to be opened

Inside an open scope, `NestingChain.after` passes over the satisfied scopes at the front of a chain
and stops at the first one that is not. A satisfied scope further on would be missed, but in a chain
that a path needs there is none: its scopes lie inside one another, so if a scope is the open one or
encloses it, the scopes before it enclose it as well. What is left over is therefore exactly what is
not satisfied (`NestingChain.after_eq_filter`).

For this nothing is asked of the open path. It may lead nowhere, end at a flattened object or leave
the path of the chain. Where it is an ancestor of that path, the satisfied scopes are its own chain
(`Definition.scopes_eq_append_after`).
-/

namespace NestedSearch

/-- If an item passes only where all before it do, dropping from the front drops all that pass. -/
theorem dropWhile_eq_filter {α : Type} {test : α → Bool} {l : List α}
    (h : l.Pairwise fun a b => test b = true → test a = true) :
    l.dropWhile test = l.filter fun a => !test a := by
  induction l with
  | nil => rfl
  | cons a l ih =>
    obtain ⟨hfirst, hrest⟩ := List.pairwise_cons.mp h
    by_cases ha : test a = true
    · rw [List.dropWhile_cons_of_pos ha, List.filter_cons_of_neg (by simp [ha]), ih hrest]
    · have hnone : ∀ b ∈ a :: l, (!test b) = true := by
        intro b hb
        rw [Bool.not_eq_true', Bool.eq_false_iff]
        rcases List.mem_cons.mp hb with rfl | hb
        · exact ha
        · exact fun hpass => ha (hfirst b hb hpass)
      rw [List.dropWhile_cons_of_neg ha, List.filter_eq_self.mpr hnone]

namespace NestingChain

/-- Scopes that lie inside one another are satisfied from the outermost one on. -/
theorem after_eq_filter {c : NestingChain} (opened : FieldPath)
    (h : c.paths.Pairwise fun a b => a.isAncestorOf b = true) :
    c.after (some opened) = c.scopes.filter fun scope => !opened.startsWith scope.path := by
  refine dropWhile_eq_filter (List.Pairwise.imp ?_ (List.pairwise_map.mp h))
  intro outer inner hinside hstarts
  obtain ⟨r, hr⟩ := FieldPath.isAncestorOf_iff.mp hinside
  rw [hr] at hstarts
  exact FieldPath.startsWith_trans hstarts (FieldPath.startsWith_join outer.path r)

end NestingChain

namespace Definition

theorem after_chainTo (d : Definition) (p opened : FieldPath) :
    (d.chainTo p).after (some opened) =
      (d.chainTo p).scopes.filter fun scope => !opened.startsWith scope.path :=
  NestingChain.after_eq_filter opened (paths_chainTo_pairwise d p)

/-- **Inside an ancestor its own chain is satisfied**, and no more than that. -/
theorem scopes_eq_append_after (d : Definition) {p opened : FieldPath}
    (h : opened.isAncestorOf p = true) :
    (d.chainTo p).scopes = (d.chainTo opened).scopes ++ (d.chainTo p).after (some opened) := by
  obtain ⟨r, rfl⟩ := FieldPath.isAncestorOf_iff.mp h
  obtain ⟨below, hbelow, hlonger⟩ := paths_chainTo_join d opened r
  have hsatisfied : ∀ a ∈ (d.chainTo opened).paths, opened.startsWith a = true :=
    fun a ha => startsWith_of_mem_chainTo ha
  have hinside : ∀ a ∈ below, opened.startsWith a = false := by
    intro a ha
    rw [Bool.eq_false_iff]
    intro hstarts
    exact Nat.not_le_of_lt (hlonger a ha) (FieldPath.length_le_of_startsWith hstarts)
  rw [after_chainTo, scopes_chainTo, scopes_chainTo, hbelow, List.filter_map, List.filter_append,
    List.filter_eq_nil_iff.mpr (by simpa using hsatisfied),
    List.filter_eq_self.mpr (by simpa using hinside), List.nil_append, List.map_append]

/-- **What is left to open is what is not satisfied**, whatever path is open: the scopes of the
    chain that are neither at that path nor around it, in their order. Above the end of the path
    that is all that the chain has more than the chain of the open path. -/
theorem after_exact {d : Definition} {p : FieldPath} {r : Resolution} (h : d.resolve p = .ok r)
    (opened : FieldPath) :
    r.chain.after (some opened) =
        r.chain.scopes.filter (fun scope =>
          decide (scope.path ≠ opened ∧ scope.path.isAncestorOf opened = false)) ∧
      (opened.isAncestorOf p = true → ∃ above, d.resolve opened = .ok above ∧
        r.chain.scopes = above.chain.scopes ++ r.chain.after (some opened)) := by
  obtain ⟨node, hnode, rfl⟩ := resolve_eq_ok_iff.mp h
  constructor
  · rw [after_chainTo]
    refine List.filter_congr fun scope _ => ?_
    rw [Bool.eq_iff_iff, decide_eq_true_iff, Bool.not_eq_true', Bool.eq_false_iff, ne_eq,
      FieldPath.startsWith_iff_eq_or_isAncestorOf, not_or, Bool.not_eq_true]
  · intro hancestor
    obtain ⟨rest, hrest⟩ := FieldPath.isAncestorOf_iff.mp hancestor
    rw [hrest] at hnode
    obtain ⟨above, habove⟩ := node?_of_node?_join hnode
    exact ⟨_, resolve_eq_ok_iff.mpr ⟨above, habove, rfl⟩, d.scopes_eq_append_after hancestor⟩

end Definition

namespace Sample

/-- The remark on the way to the currency, which is flattened. -/
def remarkPath : FieldPath := ⟨currencyPath.head, currencyPath.tail.take 1⟩

def accountPath : FieldPath := ⟨currencyPath.head, currencyPath.tail.take 2⟩

/-- A path that leaves the one to the currency inside of the remark, and leads nowhere. -/
def authorPath : FieldPath := remarkPath.join ⟨.literal "author", []⟩

end Sample

/-- `after_exact` for the currency in a ledger: beside a path that leads nowhere the entry is open,
    and so it is in the remark, which is no scope itself. -/
theorem after_exact_ledger :
    ∃ r, Sample.ledger.resolve Sample.currencyPath = .ok r ∧
      Sample.ledger.node? Sample.authorPath = none ∧
      r.chain.after (some Sample.authorPath) = [⟨Sample.accountPath, .nested⟩] ∧
      ∃ above, Sample.ledger.resolve Sample.remarkPath = .ok above ∧
        r.chain.scopes = above.chain.scopes ++ r.chain.after (some Sample.remarkPath) := by
  have hresolve : Sample.ledger.resolve Sample.currencyPath = .ok
      ⟨"ledger", Sample.currencyPath, Sample.ledger.chainTo Sample.currencyPath,
        .value (.ofType .string)⟩ := rfl
  refine ⟨_, hresolve, rfl, ?_, (Definition.after_exact hresolve Sample.remarkPath).2 (by decide)⟩
  rw [(Definition.after_exact hresolve Sample.authorPath).1]
  decide

end NestedSearch
