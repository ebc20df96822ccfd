import Mathlib.Data.List.Rotate
import NestedSearch.Proofs.Rounding
import NestedSearch.Spatial

/-!
# Polygons, however they are written

A polygon is written as a list of vertices that may begin anywhere, may name its first vertex once
more at the end and may name any vertex twice in a row. Which points lie in it does not depend on
that (`GeoPoint.inPolygon_ring`): to begin elsewhere only changes the order of the edges
(`edges_rotate`), and a vertex named twice adds an edge from the vertex to itself, which no ray
crosses (`crosses_self`). Of coordinates no more is used than that a comparison gives the same
answer for the same operands.

The test for a crossing divides by the difference of two latitudes. It does so only on an edge with
one end to the north of the point and one end that is not, so these latitudes differ, as doubles and
as the numbers that they stand for: a walk around the polygon that has no answer to any other
division has an answer in the end, and it is the same (`GeoPoint.inPolygon?_eq`).
-/

namespace NestedSearch

open Float.Model

/-! ## Equal numbers -/

/-- Two doubles that compare as equal are one double, or both are zeros. -/
theorem eq_or_zeros_of_compare_eq {u v : UnpackedFloat} (h : u.compare v = some .eq) :
    u = v ∨ ∃ s s', u = .zero s ∧ v = .zero s' := by
  cases u with
  | notANumber => cases h
  | zero s =>
    cases v with
    | zero s' => exact .inr ⟨s, s', rfl, rfl⟩
    | notANumber => cases h
    | infinity s' | finite s' => cases s' <;> cases h
  | infinity s =>
    cases v with
    | infinity s' => cases s <;> cases s' <;> first | exact .inl rfl | cases h
    | notANumber | zero | finite => cases s <;> cases h
  | finite s m e hpos =>
    cases v with
    | finite s' m' e' hpos' =>
      have hparts (hsame : (compare e e').then (compare m m') = .eq) : e = e' ∧ m = m' := by
        rwa [Ordering.then_eq_eq, Int.compare_eq_eq, Nat.compare_eq_eq] at hsame
      cases s <;> cases s'
      case negative.negative =>
        obtain ⟨rfl, rfl⟩ := hparts (Ordering.swap_eq_eq.mp (Option.some.inj h))
        exact .inl rfl
      case positive.positive =>
        obtain ⟨rfl, rfl⟩ := hparts (Option.some.inj h)
        exact .inl rfl
      all_goals cases h
    | notANumber => cases s <;> cases h
    | infinity s' => cases s <;> cases s' <;> cases h
    | zero => cases s <;> cases h

/-- The sign of a zero makes no difference. -/
theorem compare_zero (w : UnpackedFloat) (s s' : UnpackedFloat.Sign) :
    w.compare (.zero s) = w.compare (.zero s') := by
  cases w with
  | notANumber | zero => rfl
  | infinity sign | finite sign => cases sign <;> rfl

/-- Numbers that are equal lie on the same side of every other one. -/
theorem lt_iff_of_beq {x y : Float} (h : (x == y) = true) (z : Float) : z < x ↔ z < y := by
  rw [float_lt_iff, float_lt_iff]
  obtain heq | ⟨s, s', hx, hy⟩ := eq_or_zeros_of_compare_eq (float_beq_iff.mp h)
  · rw [heq]
  · rw [hx, hy, compare_zero _ s s']

namespace GeoPoint

/-! ## Edges -/

/-- The edges of a line that goes on from a point through these vertices. -/
def edgesFrom (previous : GeoPoint) (vertices : List GeoPoint) : List (GeoPoint × GeoPoint) :=
  vertices.zip (previous :: vertices)

theorem edgesFrom_cons (previous v : GeoPoint) (vertices : List GeoPoint) :
    edgesFrom previous (v :: vertices) = (v, previous) :: edgesFrom v vertices := rfl

theorem edgesFrom_append (previous : GeoPoint) (as bs : List GeoPoint) :
    edgesFrom previous (as ++ bs) =
      edgesFrom previous as ++ edgesFrom (as.getLast?.getD previous) bs := by
  induction as generalizing previous with
  | nil => rfl
  | cons a as ih =>
    rw [List.cons_append, edgesFrom_cons, edgesFrom_cons, ih, List.cons_append, List.getLast?_cons,
      Option.getD_some]

/-- A polygon is a line that starts at its own last vertex. -/
theorem edges_eq {ring : List GeoPoint} {last : GeoPoint} (h : ring.getLast? = some last) :
    edges ring = edgesFrom last ring := by
  rw [edges, h]
  rfl

theorem edges_cons (v : GeoPoint) (rest : List GeoPoint) :
    edges (v :: rest) = (v, rest.getLast?.getD v) :: edgesFrom v rest := by
  rw [edges_eq List.getLast?_cons, edgesFrom_cons]

theorem edges_concat (v : GeoPoint) (rest : List GeoPoint) :
    edges (rest ++ [v]) = edgesFrom v rest ++ [(v, rest.getLast?.getD v)] := by
  rw [edges_eq List.getLast?_concat, edgesFrom_append]
  rfl

/-- A polygon written from its next vertex on has the same edges, the first one last. -/
theorem edges_rotate_one (ring : List GeoPoint) : (edges (ring.rotate 1)).Perm (edges ring) := by
  cases ring with
  | nil => exact .refl _
  | cons v rest =>
    rw [List.rotate_cons_succ, List.rotate_zero, edges_concat, edges_cons]
    exact List.perm_append_singleton _ _

/-- **Where the vertices begin does not matter to the edges.** -/
theorem edges_rotate (ring : List GeoPoint) (n : Nat) :
    (edges (ring.rotate n)).Perm (edges ring) := by
  induction n with
  | zero => rw [List.rotate_zero]
  | succ n ih =>
    rw [← List.rotate_rotate]
    exact (edges_rotate_one _).trans ih

/-! ## Crossings -/

theorem inPolygon_rotate (ring : List GeoPoint) (n : Nat) (p : GeoPoint) :
    inPolygon (ring.rotate n) p = inPolygon ring p := by
  rw [inPolygon, inPolygon, (edges_rotate ring n).countP_eq]

theorem crosses_eq (p a b : GeoPoint) :
    p.crosses (a, b) = ((decide (p.lat < a.lat) != decide (p.lat < b.lat)) &&
      decide (p.lon < (b.lon - a.lon) * (p.lat - a.lat) / (b.lat - a.lat) + a.lon)) := rfl

/-- No ray crosses an edge from a vertex to itself. -/
theorem crosses_self (p v : GeoPoint) : p.crosses (v, v) = false := by
  rw [crosses_eq, bne_self_eq_false, Bool.false_and]

theorem countP_crosses_twice (p previous v : GeoPoint) (before after : List GeoPoint) :
    (edgesFrom previous (before ++ v :: v :: after)).countP p.crosses =
      (edgesFrom previous (before ++ v :: after)).countP p.crosses := by
  have hself : (edgesFrom v (v :: after)).countP p.crosses =
      (edgesFrom v after).countP p.crosses := by
    rw [edgesFrom_cons, List.countP_cons_of_neg (by rw [crosses_self]; exact Bool.false_ne_true)]
  rw [edgesFrom_append, edgesFrom_append, List.countP_append, List.countP_append,
    edgesFrom_cons _ v (v :: after), List.countP_cons, hself, edgesFrom_cons _ v after,
    List.countP_cons]

theorem inPolygon_twice (before after : List GeoPoint) (v p : GeoPoint) :
    inPolygon (before ++ v :: v :: after) p = inPolygon (before ++ v :: after) p := by
  have hlast : (before ++ v :: after).getLast? = some (after.getLast?.getD v) := by
    rw [List.getLast?_append, List.getLast?_cons, Option.some_or]
  have hlast' : (before ++ v :: v :: after).getLast? = some (after.getLast?.getD v) := by
    rw [List.getLast?_append, List.getLast?_cons, List.getLast?_cons, Option.getD_some,
      Option.some_or]
  rw [inPolygon, inPolygon, edges_eq hlast, edges_eq hlast', countP_crosses_twice]

/-- Seen from its second vertex, a polygon that is closed ends with its first vertex twice. -/
theorem inPolygon_closed (first : GeoPoint) (rest : List GeoPoint) (p : GeoPoint) :
    inPolygon (first :: rest ++ [first]) p = inPolygon (first :: rest) p := by
  calc inPolygon (first :: rest ++ [first]) p
      = inPolygon ((first :: rest ++ [first]).rotate 1) p := (inPolygon_rotate _ 1 p).symm
    _ = inPolygon (rest ++ [first, first]) p := by
        rw [List.cons_append, List.rotate_cons_succ, List.rotate_zero, List.append_assoc]
        rfl
    _ = inPolygon (rest ++ [first]) p := inPolygon_twice rest [] first p
    _ = inPolygon ((first :: rest).rotate 1) p := by
        rw [List.rotate_cons_succ, List.rotate_zero]
    _ = inPolygon (first :: rest) p := inPolygon_rotate _ 1 p

/-! ## Walking around -/

/-- The longitude at which the line through two points meets the parallel of a point. A line along a
    parallel has no answer. -/
def meets? (p a b : GeoPoint) : Option Float :=
  if a.lat = b.lat ∨ (a.lat == b.lat) = true then none
  else some ((b.lon - a.lon) * (p.lat - a.lat) / (b.lat - a.lat) + a.lon)

/-- Whether a ray from the point crosses the edge between two vertices, by dividing for an edge that
    the parallel of the point divides. -/
def crosses? (p a b : GeoPoint) : Option Bool :=
  if decide (p.lat < a.lat) != decide (p.lat < b.lat) then
    (p.meets? a b).map fun lon => decide (p.lon < lon)
  else some false

/-- Goes on from a vertex through these ones, and changes sides at each edge that is crossed. -/
def walk? (p : GeoPoint) (previous : GeoPoint) (inside : Bool) : List GeoPoint → Option Bool
  | [] => some inside
  | v :: rest => do p.walk? v (inside != (← p.crosses? v previous)) rest

/-- Walks around a polygon, from its last vertex to its last vertex. -/
def inPolygon? (ring : List GeoPoint) (p : GeoPoint) : Option Bool :=
  match ring.getLast? with
  | some last => p.walk? last false ring
  | none => some false

/-- An edge that lies along a parallel has both ends on the same side of any other. -/
theorem lt_iff_of_parallel {p a b : GeoPoint} (h : a.lat = b.lat ∨ (a.lat == b.lat) = true) :
    p.lat < a.lat ↔ p.lat < b.lat := by
  rcases h with heq | hbeq
  · rw [heq]
  · exact lt_iff_of_beq hbeq p.lat

/-- Only an edge that is no part of a parallel is divided at. -/
theorem crosses?_eq (p a b : GeoPoint) : p.crosses? a b = some (p.crosses (a, b)) := by
  rw [crosses?, crosses_eq]
  cases hdivided : decide (p.lat < a.lat) != decide (p.lat < b.lat) with
  | false => rfl
  | true =>
    have hslanted : ¬ (a.lat = b.lat ∨ (a.lat == b.lat) = true) := by
      intro hparallel
      rw [bne_iff_ne, ne_eq, decide_eq_decide] at hdivided
      exact hdivided (lt_iff_of_parallel hparallel)
    rw [if_pos rfl, meets?, if_neg hslanted, Option.map_some, Bool.true_and]

/-- What the walk keeps: it is inside if it was at first and has crossed an even number of edges, or
    it was not and has crossed an odd one. -/
theorem walk?_eq (p previous : GeoPoint) (inside : Bool) (vertices : List GeoPoint) :
    p.walk? previous inside vertices =
      some (inside != decide ((edgesFrom previous vertices).countP p.crosses % 2 = 1)) := by
  induction vertices generalizing previous inside with
  | nil => simp [walk?, edgesFrom]
  | cons v rest ih =>
    have hparity (n : Nat) : decide ((n + 1) % 2 = 1) = !decide (n % 2 = 1) := by
      rw [← decide_not, decide_eq_decide]
      omega
    rw [walk?, crosses?_eq, Option.bind_eq_bind, Option.bind_some, ih, edgesFrom_cons,
      List.countP_cons]
    cases p.crosses (v, previous) with
    | false => rw [if_neg Bool.false_ne_true, Nat.add_zero, Bool.bne_false]
    | true => rw [if_pos rfl, hparity, Bool.bne_true, Bool.bne_not, Bool.not_bne]

/-- **The walk never divides by the difference of equal latitudes**, and finds what counting the
    crossings finds. -/
theorem inPolygon?_eq (ring : List GeoPoint) (p : GeoPoint) :
    inPolygon? ring p = some (inPolygon ring p) := by
  unfold inPolygon? inPolygon
  cases hlast : ring.getLast? with
  | none =>
    rw [edges, hlast]
    rfl
  | some last =>
    simp only
    rw [walk?_eq, edges_eq hlast, Bool.false_bne]

/-- **Which points lie in a polygon does not depend on how it is written**: where its vertices
    begin, whether the first one is named again at the end, and which ones are named twice in a row.
    Walking around it, only edges whose ends differ in latitude are divided at. -/
theorem inPolygon_ring (p : GeoPoint) :
    (∀ ring n, inPolygon (ring.rotate n) p = inPolygon ring p) ∧
      (∀ first rest, inPolygon (first :: rest ++ [first]) p = inPolygon (first :: rest) p) ∧
      (∀ before v after,
        inPolygon (before ++ v :: v :: after) p = inPolygon (before ++ v :: after) p) ∧
      ∀ ring, inPolygon? ring p = some (inPolygon ring p) :=
  ⟨fun ring n => inPolygon_rotate ring n p, fun first rest => inPolygon_closed first rest p,
    fun before v after => inPolygon_twice before after v p, fun ring => inPolygon?_eq ring p⟩

end GeoPoint

end NestedSearch
