import NestedSearch.Corpus.Neighbours
import NestedSearch.Predicate.Check
import NestedSearch.Spatial
import NestedSearch.Text

/-!
# Evaluation

Whether a document matches a predicate. A nested predicate matches if one instance of the object
matches what is inside; outside of such a scope a leaf sees the values of all instances
together. Fields that the schema does not have are passed over.

Evaluation stops at the first clause that decides, and so does what can go wrong in it: a field
outside of the scope it is evaluated in, a named predicate, a pattern that is no expression
once it has to span a whole term.
-/

namespace NestedSearch

/-! ## Analysis

What becomes of a text, in a document or in a query, before the two are compared. Every analyzer
takes a text apart into its terms, and every normalizer puts it into lower case as a whole; a
field without either is compared as it is.
-/

/-- The terms that a text stands for. -/
def QueryAnalysis.terms (text : String) : QueryAnalysis → List String
  | .analyzer _ => Text.terms text
  | .normalizer _ => [Text.lowercase text]
  | .raw => [text]

/-- The analysis that the texts of documents go through. -/
def ValueField.indexAnalysis (f : ValueField) : QueryAnalysis :=
  match f.analyzer, f.normalizer with
  | some name, _ => .analyzer name
  | none, some name => .normalizer name
  | none, none => .raw

/-- The terms of a document's text in the field. -/
def ValueField.indexTerms (f : ValueField) (text : String) : List String :=
  f.indexAnalysis.terms text

/-- Whether a term of a document is the one that is looked for, so many edits allowed. -/
def isWithinEdits (edits : Nat) (query term : String) : Bool :=
  if edits = 0 then query = term
  else Text.editDistance query.toList term.toList ≤ edits

/-! ## Query strings

A query string is a list of words. A word after a plus sign is required and one after a minus
sign is excluded; the others are optional, and an operator says how many of them are needed.
-/

/-- What a word of a query string asks for. -/
inductive Demand where
  | required
  | excluded
  | optional
deriving DecidableEq, Repr

/-- A word of a query string. -/
structure QueryWord where
  demand : Demand
  text : String
deriving DecidableEq, Repr

namespace QueryWord

/-- Reads a word: one sign in front is not part of its text. -/
def ofString (word : String) : QueryWord :=
  match word.toList with
  | '+' :: rest => ⟨.required, String.ofList rest⟩
  | '-' :: rest => ⟨.excluded, String.ofList rest⟩
  | _ => ⟨.optional, word⟩

end QueryWord

/-- The words of a query string. -/
def queryWords (query : String) : List QueryWord := (Text.words query).map QueryWord.ofString

/-- Whether a text is selected in which the words with the property are found. Without words nothing
    is; optional words joined by `or` need not be found beside a required one. -/
def selects (operator : BoolOperator) (words : List QueryWord) (found : String → Bool) : Bool :=
  let those (demand : Demand) := words.filter fun w => w.demand = demand
  let isFound (w : QueryWord) := found w.text
  !words.isEmpty && (those .required).all isFound && !(those .excluded).any isFound &&
    match operator with
    | .and => (those .optional).all isFound
    | .or =>
      (those .optional).isEmpty || !(those .required).isEmpty || (those .optional).any isFound

/-! ## Values -/

mutual

/-- Whether a value, or something below it that the schema has, is more than `null`. -/
def Node.holdsValue : Node → Document → Bool
  | .value _, d => d.instances.any fun v => !v.isNull
  | .object _ _ children, d => d.instances.any (holdsChild children)

/-- Whether the value of one of these fields is more than `null`. -/
def holdsChild : List (String × Node) → Document → Bool
  | [], _ => false
  | (name, node) :: rest, d =>
    (match d.get? name with
      | some v => node.holdsValue v
      | none => false) || holdsChild rest d

end

/-- How a value of a document compares with a bound, if they are of one type. -/
def compareWith (v : Document) (bound : ParamValue) : Option Ordering :=
  match v, bound with
  | .text s, .string t => some (compare s t)
  | .bool a, .bool b => some (compare a.toNat b.toNat)
  | v, bound => do
    let x ← v.float?
    let y ← bound.float?
    if x < y then some .lt else if y < x then some .gt else if x == y then some .eq else none

/-- Whether a value is on the given side of a bound. Without a bound all values are. -/
def isBeyond (v : Document) (side : Ordering) (bound : Option RangeBound) : Bool :=
  match bound with
  | none => true
  | some bound =>
    match compareWith v bound.value with
    | some .eq => bound.inclusive
    | some order => order = side
    | none => false

/-- The point that a value writes as a latitude and a longitude. -/
def Document.point? (d : Document) : Option GeoPoint := do
  let lat ← (← d.get? "lat").float?
  let lon ← (← d.get? "lon").float?
  return ⟨lat, lon⟩

/-- Whether a value of a field is the one looked for: one of the terms of a text, the same number,
    or the same truth value. -/
def ValueField.matchesValue (f : ValueField) (value : ParamValue) (analysis : AnalysisOverride)
    (edits : Nat) (v : Document) : Bool :=
  match value with
  | .string text =>
    let query := (f.queryAnalysis analysis).terms text
    v.text?.any fun t =>
      (f.indexTerms t).any fun term => query.any fun q => isWithinEdits edits q term
  | .int _ | .float _ =>
    match v.float?, value.float? with
    | some x, some y => x == y
    | _, _ => false
  | .bool b => v.bool? = some b
  | .vector _ | .null => false

/-! ## Places -/

/-- A part of a document: the whole, or an instance of the object at `base`. -/
structure DocumentPart where
  value : Document
  base : Option FieldPath

namespace DocumentPart

/-- The values at a path from the root of the document, which must lead into this part. -/
def values (d : DocumentPart) (path : FieldPath) : Except QueryError (List Document) :=
  match d.base with
  | none => .ok (d.value.values path.segments)
  | some base =>
    if path.startsWith base then .ok (d.value.values (path.segments.drop base.length))
    else .error (.unsupportedEvaluation (.outsideScope path base))

end DocumentPart

/-- Whether one of these is accepted; what comes after it is not looked at. -/
def anyAccepted {α : Type} (test : α → Except QueryError Bool) : List α → Except QueryError Bool
  | [] => .ok false
  | a :: rest => do if ← test a then return true else anyAccepted test rest

/-! ## Leaves -/

/-- A document that is evaluated. -/
structure Evaluation where
  schema : Definition
  hit : Hit
  /-- For each leaf of the query, the documents it selects by their distance. -/
  neighbours : List (List Hit)

namespace Evaluation

/-- Whether the values of one of these fields pass the test. -/
def anyField (e : Evaluation) (d : DocumentPart) (fields : List FieldPath)
    (test : Node → List Document → Bool) : Except QueryError Bool :=
  anyAccepted (fun field =>
    match e.schema.node? field with
    | none => .ok false
    | some node => (d.values field).map (test node)) fields

/-- Whether one of the values of these fields passes the test. -/
def anyValue (e : Evaluation) (d : DocumentPart) (fields : List FieldPath)
    (test : Document → Bool) : Except QueryError Bool :=
  e.anyField d fields fun _ values => values.any test

/-- Whether one of the values of these fields passes the test; object fields have none. -/
def anyFieldValue (e : Evaluation) (d : DocumentPart) (fields : List FieldPath)
    (test : ValueField → Document → Bool) : Except QueryError Bool :=
  e.anyField d fields fun node values => node.value?.any fun f => values.any (test f)

/-- Whether the expression matches one of the terms in these fields. -/
def anyTerm (e : Evaluation) (d : DocumentPart) (fields : List FieldPath) (r : Regex) :
    Except QueryError Bool :=
  e.anyFieldValue d fields fun f v =>
    v.text?.any fun t => (f.indexTerms t).any fun term => r.matchesWhole term.toList.toArray

/-- Whether one of the points in these fields passes the test. -/
def anyPoint (e : Evaluation) (d : DocumentPart) (fields : List FieldPath)
    (test : GeoPoint → Bool) : Except QueryError Bool :=
  e.anyValue d fields fun v => v.point?.any test

/-- The terms in each of these fields, with the analysis that the query goes through there. -/
def targets (e : Evaluation) (d : DocumentPart) (analysis : AnalysisOverride) :
    List FieldPath → Except QueryError (List (QueryAnalysis × List String))
  | [] => .ok []
  | field :: rest =>
    match (e.schema.node? field).bind Node.value? with
    | none => e.targets d analysis rest
    | some f => do
      let values ← d.values field
      let others ← e.targets d analysis rest
      return (f.queryAnalysis analysis, (values.filterMap Document.text?).flatMap f.indexTerms) ::
        others

/-- Whether all terms of a word occur in one of the targets. -/
def isFound (targets : List (QueryAnalysis × List String)) (word : String) : Bool :=
  targets.any fun (analysis, terms) =>
    let query := analysis.terms word
    !query.isEmpty && query.all terms.contains

/-- Whether the document matches a leaf that so many leaves precede. -/
def matchesLeaf (e : Evaluation) (d : DocumentPart) (ordinal : Nat) (l : Leaf) :
    Except QueryError Bool :=
  match l.kind with
  | .matchAll => .ok true
  | .matchNone => .ok false
  | .ids documents => .ok (documents.contains e.hit.id)
  | .exists => e.anyField d l.fields fun node values => values.any node.holdsValue
  | .matching value analysis edits =>
    e.anyFieldValue d l.fields fun f v => f.matchesValue value analysis edits v
  | .phrase text slop analysis =>
    e.anyFieldValue d l.fields fun f v =>
      v.text?.any fun t =>
        Text.containsPhrase slop ((f.queryAnalysis analysis).terms text) (f.indexTerms t)
  | .wildcard pattern => e.anyTerm d l.fields (Regex.wildcard pattern.toList)
  | .regexp pattern =>
    match Regex.parseWhole? pattern.toList with
    | some r => e.anyTerm d l.fields r
    | none => .error (.invalidPredicate .unwrappablePattern)
  | .simpleQueryString query operator analysis => do
    return selects operator (queryWords query) (isFound (← e.targets d analysis l.fields))
  | .range lower upper =>
    e.anyValue d l.fields fun v => isBeyond v .gt lower && isBeyond v .lt upper
  | .withinCircle center radius =>
    e.anyPoint d l.fields fun p => center.distance p ≤ radius
  | .withinPolygon points => e.anyPoint d l.fields (GeoPoint.inPolygon points)
  | .withinBoundingBox topLeft bottomRight =>
    e.anyPoint d l.fields (GeoPoint.inBox topLeft bottomRight)
  | .knn .. =>
    if (e.neighbours[ordinal]?.getD []).contains e.hit then
      e.anyField d l.fields fun _ values => !values.isEmpty
    else .ok false

/-! ## Trees -/

mutual

/-- Whether a part of the document matches a predicate that so many leaves precede. -/
def accepts (e : Evaluation) (d : DocumentPart) (ordinal : Nat) :
    Predicate → Except QueryError Bool
  | .leaf l => e.matchesLeaf d ordinal l
  | .bool operator clauses => e.acceptsClauses d operator ordinal clauses
  | .not inner => do return !(← e.accepts d ordinal inner)
  | .nested path inner => do
    anyAccepted (fun v => e.accepts ⟨v, some path⟩ ordinal inner)
      ((← d.values path).filter Document.isObject)
  | .named name _ => .error (.unsupportedEvaluation (.namedPredicate name))
  | .boosted inner _ => e.accepts d ordinal inner
  | .constantScore inner => e.accepts d ordinal inner

/-- Whether a part of the document matches these clauses as the operator joins them. -/
def acceptsClauses (e : Evaluation) (d : DocumentPart) (operator : BoolOperator)
    (ordinal : Nat) : List Predicate → Except QueryError Bool
  | [] => .ok (operator = .and)
  | p :: ps => do
    let accepted ← e.accepts d ordinal p
    if accepted = (operator = .or) then return accepted
    else e.acceptsClauses d operator (ordinal + p.leafCount) ps

end

end Evaluation

end NestedSearch
