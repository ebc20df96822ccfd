import NestedSearch.Error
import NestedSearch.Json.Reader

/-!
# Configuration of the compiler
-/

namespace NestedSearch

open Json (Origin Record)

/-- What becomes of a conflict on a field that documents need not have for the query to match. -/
inductive OptionalConflictPolicy where
  /-- The query compiles, and the conflict is reported beside it. -/
  | warn
  /-- The query does not compile. -/
  | fail
deriving DecidableEq, Repr

/-- What the compiler checks, and how far it goes. -/
structure CompilerConfig where
  optionalConflicts : OptionalConflictPolicy
  /-- Whether fields must support what they are used for. -/
  validateUsages : Bool
  /-- The largest number of leaves. -/
  maxClauseCount : Nat
  /-- The largest number of named predicates inside one another. -/
  maxExpansionDepth : Nat
deriving DecidableEq, Repr

namespace OptionalConflictPolicy

def table : List (String × OptionalConflictPolicy) := [("warn", .warn), ("fail", .fail)]

def ofJson? : Origin → Json → Option OptionalConflictPolicy := Json.oneOf? table

def toJson : OptionalConflictPolicy → Json
  | .warn => .ofString "warn"
  | .fail => .ofString "fail"

end OptionalConflictPolicy

namespace CompilerConfig

/-- The configuration that holds where none is given. -/
def default : CompilerConfig := ⟨.warn, true, 1024, 32⟩

def ofJson? (j : Json) : Option CompilerConfig := do
  let r ← Record.ofJson?
    ["optional_conflicts", "validate_traits", "max_clause_count", "max_named_expansion_depth"] j
  return ⟨← r.defaulted? "optional_conflicts" default.optionalConflicts
      (OptionalConflictPolicy.ofJson? .text),
    ← r.defaulted? "validate_traits" default.validateUsages Json.bool?,
    ← r.defaulted? "max_clause_count" default.maxClauseCount Json.nat64?,
    ← r.defaulted? "max_named_expansion_depth" default.maxExpansionDepth Json.nat64?⟩

def toJson (c : CompilerConfig) : Json :=
  .ofMembers [("optional_conflicts", c.optionalConflicts.toJson),
    ("validate_traits", .bool c.validateUsages), ("max_clause_count", .ofInt c.maxClauseCount),
    ("max_named_expansion_depth", .ofInt c.maxExpansionDepth)]

/-- The configuration that a text writes. -/
def parse (text : String) : Except QueryError CompilerConfig :=
  match (Json.parse? Json.nestingLimit text).bind ofJson? with
  | some c => .ok c
  | none => .error .serialization

end CompilerConfig

end NestedSearch
