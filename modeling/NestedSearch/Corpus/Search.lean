import NestedSearch.Compile
import NestedSearch.Corpus.Evaluation

/-!
# Searching

The documents of a scope that match a compiled query, in the order of the scope's indexes and,
within an index, of the identifiers.
-/

namespace NestedSearch

/-- The elements that are accepted, in order; the first error ends it. -/
def filterAccepted {α : Type} (test : α → Except QueryError Bool) :
    List α → Except QueryError (List α)
  | [] => .ok []
  | a :: rest => do
    let accepted ← test a
    let others ← filterAccepted test rest
    return if accepted then a :: others else others

namespace Corpus

/-- The documents of an index with their names. -/
def named (c : Corpus) (i : TargetIndex) : List (TargetIndex × Hit × Document) :=
  (c.documents i.name).entries.map fun (id, d) => (i, ⟨i.name, id⟩, d)

/-- Whether a document of an index matches a predicate, whose leaves select these neighbours. -/
def accepts (neighbours : List (List Hit)) (p : Predicate) :
    TargetIndex × Hit × Document → Except QueryError Bool
  | (i, hit, d) =>
    Evaluation.accepts ⟨i.schema.toDefinition, hit, neighbours⟩ ⟨d, none⟩ 0 p

/-- The documents of a scope that match a query compiled for it. -/
def search (c : Corpus) (scope : SearchScope) (q : CompiledQuery) :
    Except QueryError (List Hit) := do
  q.ensureScope scope
  let neighbours := q.predicate.leaves.map (c.neighbours scope)
  let found ← filterAccepted (accepts neighbours q.predicate) (scope.indexes.flatMap c.named)
  return found.map fun (_, hit, _) => hit

end Corpus

/-! ## In JSON -/

namespace Hit

def ofJson? (j : Json) : Option Hit := do
  let r ← Json.Record.ofJson? ["index", "id"] j
  return ⟨← r.required? "index" Json.text?, ← r.required? "id" Json.text?⟩

def toJson (h : Hit) : Json := .ofMembers [("index", .ofString h.index), ("id", .ofString h.id)]

end Hit

end NestedSearch
