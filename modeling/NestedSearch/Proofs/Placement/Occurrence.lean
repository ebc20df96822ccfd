import Mathlib.Data.List.Forall2
import NestedSearch.Placement

/-!
# Leaves where they stand

A leaf of a predicate matters together with what encloses it: the nested objects it is evaluated
in, and whether an `or` lets documents match without it. `Predicate.occurrences` lists the leaves
depth first, each with its enclosing nodes from the outermost to the innermost. It carries
nothing along on the way down, so it can be compared with what placement did carry along.
-/

namespace NestedSearch

/-- A node that encloses a leaf. -/
inductive Enclosure where
  | bool (operator : BoolOperator)
  | not
  | nested (path : FieldPath)
  | boosted (boost : Float32)
  | constantScore

namespace Enclosure

/-- The nested object that the node opens. -/
def scope? : Enclosure → Option FieldPath
  | .nested path => some path
  | _ => none

/-- Whether the node lets documents match without one of its clauses. -/
def isOr : Enclosure → Bool
  | .bool .or => true
  | _ => false

/-- The nested objects that these nodes open, outermost first. -/
def scopes (context : List Enclosure) : List FieldPath := context.filterMap scope?

/-- The nodes that open these scopes. -/
def ofScopes (scopes : List NestingScope) : List Enclosure := scopes.map fun s => .nested s.path

@[simp] theorem scopes_append (a b : List Enclosure) : scopes (a ++ b) = scopes a ++ scopes b :=
  List.filterMap_append

@[simp] theorem scopes_ofScopes (s : List NestingScope) :
    scopes (ofScopes s) = s.map NestingScope.path := by
  unfold scopes ofScopes
  rw [List.filterMap_map]
  show s.filterMap (some ∘ NestingScope.path) = s.map NestingScope.path
  rw [List.filterMap_eq_map]

@[simp] theorem any_isOr_ofScopes (s : List NestingScope) : (ofScopes s).any isOr = false := by
  unfold ofScopes
  rw [List.any_map]
  exact List.any_eq_false.mpr fun _ _ => by simp [isOr]

end Enclosure

/-- A leaf and the nodes that enclose it, outermost first. -/
structure Occurrence where
  enclosing : List Enclosure
  leaf : Leaf

namespace Occurrence

/-- The nested objects that the leaf is evaluated in, outermost first. -/
def scopes (o : Occurrence) : List FieldPath := Enclosure.scopes o.enclosing

/-- Whether an `or` encloses the leaf. -/
def isOptional (o : Occurrence) : Bool := o.enclosing.any Enclosure.isOr

/-- Whether the leaf targets fields at all. -/
def targetsFields (o : Occurrence) : Bool := o.leaf.kind.usage?.isSome

/-- The occurrence as it is seen from further outside. -/
def within (context : List Enclosure) (o : Occurrence) : Occurrence :=
  { o with enclosing := context ++ o.enclosing }

@[simp] theorem within_nil : within [] = id := rfl

theorem within_within (a b : List Enclosure) (o : Occurrence) :
    (o.within b).within a = o.within (a ++ b) := by
  unfold within
  rw [List.append_assoc]

theorem map_within_map_within (a b : List Enclosure) (os : List Occurrence) :
    (os.map (within b)).map (within a) = os.map (within (a ++ b)) := by
  rw [List.map_map]
  exact List.map_congr_left fun o _ => within_within a b o

end Occurrence

namespace Predicate

mutual

/-- The leaves, depth first, each with the nodes that enclose it. -/
def occurrences : Predicate → List Occurrence
  | .leaf l => [⟨[], l⟩]
  | .bool operator clauses => (occurrencesOf clauses).map (.within [.bool operator])
  | .not inner => inner.occurrences.map (.within [.not])
  | .nested path inner => inner.occurrences.map (.within [.nested path])
  | .named .. => []
  | .boosted inner boost => inner.occurrences.map (.within [.boosted boost])
  | .constantScore inner => inner.occurrences.map (.within [.constantScore])

/-- The leaves of several trees, one tree after the other. -/
def occurrencesOf : List Predicate → List Occurrence
  | [] => []
  | p :: ps => p.occurrences ++ occurrencesOf ps

end

mutual

theorem map_leaf_occurrences : ∀ p : Predicate, p.occurrences.map Occurrence.leaf = p.leaves
  | .leaf l => rfl
  | .bool operator clauses => by
    rw [occurrences, leaves, List.map_map]
    exact map_leaf_occurrencesOf clauses
  | .not inner | .nested _ inner | .boosted inner _ | .constantScore inner => by
    rw [occurrences, leaves, List.map_map]
    exact map_leaf_occurrences inner
  | .named .. => rfl

theorem map_leaf_occurrencesOf :
    ∀ ps : List Predicate, (occurrencesOf ps).map Occurrence.leaf = leavesOf ps
  | [] => rfl
  | p :: ps => by
    rw [occurrencesOf, leavesOf, List.map_append, map_leaf_occurrences p,
      map_leaf_occurrencesOf ps]

end

/-- The leaves that target fields, depth first. -/
def fieldOccurrences (p : Predicate) : List Occurrence :=
  p.occurrences.filter Occurrence.targetsFields

/-- The leaves of several trees that target fields. -/
def fieldOccurrencesOf (ps : List Predicate) : List Occurrence :=
  (occurrencesOf ps).filter Occurrence.targetsFields

/-- What encloses a leaf does not change what it targets. -/
theorem filter_map_within (context : List Enclosure) (os : List Occurrence) :
    (os.map (Occurrence.within context)).filter Occurrence.targetsFields =
      (os.filter Occurrence.targetsFields).map (.within context) := by
  rw [List.filter_map]
  rfl

theorem fieldOccurrencesOf_cons (p : Predicate) (ps : List Predicate) :
    fieldOccurrencesOf (p :: ps) = p.fieldOccurrences ++ fieldOccurrencesOf ps :=
  List.filter_append _ _

theorem fieldOccurrences_bool (operator : BoolOperator) (clauses : List Predicate) :
    (Predicate.bool operator clauses).fieldOccurrences =
      (fieldOccurrencesOf clauses).map (.within [.bool operator]) :=
  filter_map_within _ _

/-- The nodes around a tree are the nodes around each of its leaves. -/
theorem fieldOccurrences_enclosed {context : List Enclosure} {outer inner : Predicate}
    (h : outer.occurrences = inner.occurrences.map (.within context)) :
    outer.fieldOccurrences = inner.fieldOccurrences.map (.within context) := by
  unfold fieldOccurrences
  rw [h]
  exact filter_map_within context inner.occurrences

/-- Wrapping a tree in scopes puts these scopes around each of its leaves. -/
theorem fieldOccurrences_within (scopes : List NestingScope) (p : Predicate) :
    (p.within scopes).fieldOccurrences =
      p.fieldOccurrences.map (.within (Enclosure.ofScopes scopes)) := by
  induction scopes with
  | nil => simp [Predicate.within, Enclosure.ofScopes]
  | cons s rest ih =>
    have houter : (p.within (s :: rest)).fieldOccurrences =
        (p.within rest).fieldOccurrences.map (.within [.nested s.path]) :=
      fieldOccurrences_enclosed rfl
    rw [houter, ih, Occurrence.map_within_map_within]
    rfl

end Predicate
end NestedSearch
