import NestedSearch.Proofs.Placement.Containment
import NestedSearch.Proofs.Placement.Scoping

/-!
# What placement leaves alone

Placement makes paths absolute and writes scopes out; all else is to stay as it was written. Both
things can be taken away again: `Predicate.absolute` makes the paths of an authored tree absolute
by looking at nothing but the nested nodes around them, and `Predicate.withoutScopes` removes the
nested nodes of a tree. After that an authored tree and what it is placed as are the same tree
(`place_withoutScopes`), so that operators, clauses and their order, boosts, leaves and their
parameters are all kept.

Names are left out: what a provider makes is no part of the authored tree.
-/

namespace NestedSearch

namespace Predicate

mutual

/-- The tree without its nested nodes. What stands inside of one takes its place. -/
def withoutScopes : Predicate → Predicate
  | .leaf l => .leaf l
  | .bool operator clauses => .bool operator (withoutScopesOf clauses)
  | .not inner => .not inner.withoutScopes
  | .nested _ inner => inner.withoutScopes
  | .named name params => .named name params
  | .boosted inner boost => .boosted inner.withoutScopes boost
  | .constantScore inner => .constantScore inner.withoutScopes

def withoutScopesOf : List Predicate → List Predicate
  | [] => []
  | p :: ps => p.withoutScopes :: withoutScopesOf ps

end

mutual

/-- The tree with absolute paths, if it stands below `root`: inside of a nested node paths are
    relative to the path of that node. -/
def absolute (root : Option FieldPath) : Predicate → Predicate
  | .leaf l => .leaf ⟨l.fields.map (.joinUnder root), l.kind⟩
  | .bool operator clauses => .bool operator (absoluteOf root clauses)
  | .not inner => .not (inner.absolute root)
  | .nested path inner =>
    .nested (.joinUnder root path) (inner.absolute (some (.joinUnder root path)))
  | .named name params => .named name params
  | .boosted inner boost => .boosted (inner.absolute root) boost
  | .constantScore inner => .constantScore (inner.absolute root)

def absoluteOf (root : Option FieldPath) : List Predicate → List Predicate
  | [] => []
  | p :: ps => p.absolute root :: absoluteOf root ps

end

/-- Scopes that are put around a tree are removed with the others. -/
@[simp] theorem withoutScopes_within (scopes : List NestingScope) (p : Predicate) :
    (p.within scopes).withoutScopes = p.withoutScopes := by
  induction scopes with
  | nil => rfl
  | cons s rest ih => exact ih

end Predicate

variable {scope : SearchScope} {config : CompilerConfig} {frame : Frame} {p : Predicate}
  {r : Placed}

/-- **Below any root, scopes and absolute paths are all that placement adds.** -/
theorem Placement.Derivation.withoutScopes_eq (h : Derivation scope config frame p r) :
    p.invocations = [] → r.predicate.withoutScopes = (p.absolute frame.root).withoutScopes := by
  induction h with
  | @bare frame l hcheck husage =>
    intro _
    obtain ⟨fields, kind⟩ := l
    cases fields_eq_nil_of_check hcheck husage
    rfl
  | leaf hcheck husage hfields =>
    intro _
    rw [Predicate.withoutScopes_within, (resolveFields_ok hfields).1]
    rfl
  | noClause =>
    intro _
    rfl
  | clause hfirst hrest ihfirst ihrest =>
    intro hnames
    obtain ⟨hp, hps⟩ := List.append_eq_nil_iff.mp hnames
    have hclauses := (Predicate.bool.inj (ihrest hps)).2
    exact congrArg₂ (fun q qs => Predicate.bool _ (q :: qs)) (ihfirst hp) hclauses
  | not hinner ih =>
    intro hnames
    exact congrArg Predicate.not (ih hnames)
  | nested houter hrequire hinner ih =>
    intro hnames
    -- The frame inside has the resolved path as its root, which is the authored one made absolute.
    rw [SearchScope.resolve_joinUnder] at houter
    have hpath := (SearchScope.agreement houter).path_eq
    rw [Predicate.withoutScopes_within, ih hnames, hpath]
    rfl
  | named =>
    intro hnames
    cases hnames
  | @boosted frame inner boost r hboost hinner ih =>
    intro hnames
    exact congrArg (fun q => Predicate.boosted q boost) (ih hnames)
  | constantScore hinner ih =>
    intro hnames
    exact congrArg Predicate.constantScore (ih hnames)

/-- **Placement loses, repeats and reorders nothing.** Without its scopes the placed tree is the
    authored tree with absolute paths and without its scopes. -/
theorem place_withoutScopes (h : place scope config p = .ok r) (hnames : p.invocations = []) :
    r.predicate.withoutScopes = (p.absolute none).withoutScopes :=
  (derivation_of_place h).withoutScopes_eq hnames

namespace Sample

/-- Scopes that are written out, left unsaid, and said in part. -/
def unnamedQuery : Predicate :=
  .bool .or
    [.nested ⟨orders, []⟩ (.bool .and
        [.not (.leaf ⟨[⟨lines, [note, tag, label]⟩], .exists⟩),
          .nested ⟨lines, []⟩ (.constantScore (.leaf ⟨[⟨sku, []⟩, ⟨sku, []⟩], .wildcard "a*"⟩))]),
      .leaf ⟨[], .matchAll⟩,
      .boosted (.leaf ⟨[⟨orders, [lines, sku]⟩], .exists⟩) 1]

/-- The same query with absolute paths and no scope. -/
def unscopedQuery : Predicate :=
  .bool .or
    [.bool .and
        [.not (.leaf ⟨[⟨orders, [lines, note, tag, label]⟩], .exists⟩),
          .constantScore
            (.leaf ⟨[⟨orders, [lines, sku]⟩, ⟨orders, [lines, sku]⟩], .wildcard "a*"⟩)],
      .leaf ⟨[], .matchAll⟩,
      .boosted (.leaf ⟨[⟨orders, [lines, sku]⟩], .exists⟩) 1]

end Sample

/-- The hypotheses of `place_withoutScopes` can be met by a query of which some scopes were written
    out and others were left unsaid. -/
theorem place_withoutScopes_sample :
    ∃ r, place Sample.scope .default Sample.unnamedQuery = .ok r ∧
      r.predicate.fieldOccurrences.map (fun o => o.scopes.length) = [3, 2, 2] ∧
      r.predicate.withoutScopes = Sample.unscopedQuery := by
  have hscopes : (place Sample.scope .default Sample.unnamedQuery).toOption.map (fun r =>
      r.predicate.fieldOccurrences.map fun o => o.scopes.length) = some [3, 2, 2] := by
    decide +kernel
  obtain ⟨r, hr, hlengths⟩ := Option.map_eq_some_iff.mp hscopes
  have hplace := toOption_eq_some_iff.mp hr
  exact ⟨r, hplace, hlengths, place_withoutScopes hplace rfl⟩

end NestedSearch
