import NestedSearch.Error
import NestedSearch.Regex.Meaning

/-!
# What a predicate must look like

The rules that a leaf and a boost must keep, whatever the schema: how many fields a kind of
predicate targets, and what its parameters may be.
-/

namespace NestedSearch

/-- Whether a number may be a boost. -/
def isBoost (boost : Float32) : Bool := boost.isFinite && !(boost < 0)

/-- Checks a boost. -/
def checkBoost (boost : Float32) : Except PredicateFault Unit :=
  if isBoost boost then .ok () else .error (.badBoost boost)

namespace PredicateKind

/-- Checks the number of fields. -/
def checkFields (kind : PredicateKind) (given : Nat) : Except PredicateFault Unit :=
  match kind.usage? with
  | none => if given = 0 then .ok () else .error (.takesNoField kind.name)
  | some _ =>
    if given = 0 then .error (.needsField kind.name)
    else if 1 < given && !kind.isMultiField then .error (.needsOneField kind.name given)
    else .ok ()

/-- Checks the parameters. -/
def checkParameters : PredicateKind → Except PredicateFault Unit
  | .regexp pattern =>
    if (Regex.parse? pattern.toList).isSome then .ok () else .error (.badPattern pattern)
  | .range none none => .error .openRange
  | .withinCircle center radius =>
    if center.isValid && radius.isFinite && !(radius < 0) then .ok () else .error .badCircle
  | .withinPolygon points =>
    if 3 ≤ points.length && points.all GeoPoint.isValid then .ok () else .error .badPolygon
  | .withinBoundingBox topLeft bottomRight =>
    if topLeft.isValid && bottomRight.isValid && !(topLeft.lat < bottomRight.lat) then .ok ()
    else .error .badBox
  | .knn vector k =>
    if !vector.isEmpty && k ≠ 0 then .ok () else .error .badNeighbours
  | _ => .ok ()

end PredicateKind

/-- Checks a leaf: first its fields, then its parameters. -/
def Leaf.check (l : Leaf) : Except PredicateFault Unit :=
  match l.kind.checkFields l.fields.length with
  | .error fault => .error fault
  | .ok () => l.kind.checkParameters

namespace Predicate

mutual

/-- Whether every leaf and every boost keeps the rules. -/
def isWellFormed : Predicate → Bool
  | .leaf l => l.check.isOk
  | .bool _ clauses => areWellFormed clauses
  | .not inner => inner.isWellFormed
  | .nested _ inner => inner.isWellFormed
  | .named .. => true
  | .boosted inner boost => isBoost boost && inner.isWellFormed
  | .constantScore inner => inner.isWellFormed

def areWellFormed : List Predicate → Bool
  | [] => true
  | p :: ps => p.isWellFormed && areWellFormed ps

end

end Predicate

end NestedSearch
