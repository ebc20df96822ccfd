/-!
# Field paths

A field path leads from an enclosing object to a field: one or more segments, written with
dots between them. That every path has a segment, and that no segment is empty or holds the
separator, is part of the types, so a path and its dotted form determine each other.
-/

namespace NestedSearch

/-- The character between the segments of a written path. -/
def separator : Char := '.'

/-- The name of a field within its object. -/
structure Segment where
  name : String
  nonempty : name ≠ ""
  unseparated : separator ∉ name.toList
deriving DecidableEq

/-- Why a string is no segment. -/
inductive SegmentError where
  | empty
  | separated
deriving DecidableEq, Repr

namespace SegmentError

def message : SegmentError → String
  | .empty => "segment is empty"
  | .separated => "segment contains the path separator"

end SegmentError

namespace Segment

/-- The segment of this name. -/
def ofName (name : String) : Except SegmentError Segment :=
  if nonempty : name = "" then .error .empty
  else if unseparated : separator ∈ name.toList then .error .separated
  else .ok ⟨name, nonempty, unseparated⟩

/-- The segment of this name, if it names one. -/
def ofName? (name : String) : Option Segment :=
  match ofName name with
  | .ok segment => some segment
  | .error _ => none

end Segment

/-- Why a string, or a list of names, is no path. -/
inductive PathError where
  | empty
  | emptySegment
  | noSegments
  | segment (cause : SegmentError)
deriving DecidableEq, Repr

namespace PathError

def message : PathError → String
  | .empty => "path is empty"
  | .emptySegment => "path contains an empty segment"
  | .noSegments => "path has no segments"
  | .segment cause => cause.message

end PathError

/-- A path of at least one segment. -/
structure FieldPath where
  head : Segment
  tail : List Segment
deriving DecidableEq

namespace FieldPath

/-- The segments, outermost first. -/
def segments (p : FieldPath) : List Segment := p.head :: p.tail

/-- The names of the segments, outermost first. -/
def names (p : FieldPath) : List String := p.segments.map Segment.name

/-- The path of these segments, unless there are none. -/
def ofSegments? : List Segment → Option FieldPath
  | [] => none
  | head :: tail => some ⟨head, tail⟩

/-- How many segments the path has. -/
def length (p : FieldPath) : Nat := p.segments.length

/-- The last segment: the field's own name. -/
def last (p : FieldPath) : Segment := p.tail.getLastD p.head

/-- The dotted form. -/
def toString (p : FieldPath) : String := ".".intercalate p.names

instance : ToString FieldPath := ⟨toString⟩

/-- The path of these names; the first name that is no segment makes it fail. -/
def ofNames (names : List String) : Except PathError FieldPath :=
  match names.mapM Segment.ofName with
  | .error cause => .error (.segment cause)
  | .ok segments =>
    match ofSegments? segments with
    | some p => .ok p
    | none => .error .noSegments

/-- The path of one segment. -/
def single (name : String) : Except PathError FieldPath :=
  match Segment.ofName name with
  | .ok segment => .ok ⟨segment, []⟩
  | .error cause => .error (.segment cause)

/-- Reads the dotted form. -/
def parse (text : String) : Except PathError FieldPath :=
  if text = "" then .error .empty
  else
    match ofNames ((text.toList.splitOn separator).map String.ofList) with
    | .ok p => .ok p
    | .error _ => .error .emptySegment

/-- Reads the dotted form, without a reason for failure. -/
def parse? (text : String) : Option FieldPath := (parse text).toOption

/-- The enclosing path; a path of one segment has none. -/
def parent? (p : FieldPath) : Option FieldPath := ofSegments? p.segments.dropLast

/-- A path relative to this one, as seen from where this one starts. -/
def join (p relative : FieldPath) : FieldPath := ⟨p.head, p.tail ++ relative.segments⟩

/-- A path relative to a root; without a root it is relative to the whole document. -/
def joinUnder (root : Option FieldPath) (relative : FieldPath) : FieldPath :=
  match root with
  | some root => root.join relative
  | none => relative

/-- The path of a child of the root. -/
def childOf (root : Option FieldPath) (segment : Segment) : FieldPath :=
  joinUnder root ⟨segment, []⟩

/-- Whether `root` is this path or one of its ancestors. -/
def startsWith (p root : FieldPath) : Bool := root.segments.isPrefixOf p.segments

/-- Whether this path is a strict ancestor of the other. -/
def isAncestorOf (p other : FieldPath) : Bool :=
  p.length < other.length && other.startsWith p

/-- The rest of the path below a strict ancestor. -/
def below? (p root : FieldPath) : Option FieldPath :=
  if root.isAncestorOf p then ofSegments? (p.segments.drop root.length) else none

/-- The ancestors and the path itself, shortest first. -/
def ancestors (p : FieldPath) : List FieldPath :=
  (List.range (p.tail.length + 1)).map fun n => ⟨p.head, p.tail.take n⟩

/-- The order of paths: by their first difference, a path before its descendants. -/
def compare (p q : FieldPath) : Ordering :=
  if p.names = q.names then .eq else if p.names < q.names then .lt else .gt

end FieldPath

end NestedSearch
