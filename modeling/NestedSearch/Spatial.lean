import NestedSearch.Predicate.Basic

/-!
# Places

Whether a point lies in a circle on the globe, in a polygon or in a box. Distances are measured
along great circles; polygons and boxes treat coordinates as planar, but a box may cross the
antimeridian.
-/

namespace NestedSearch.GeoPoint

/-- The radius of the globe in metres. -/
def earthRadius : Float := 6371000

/-- An angle in degrees, in radians. -/
def radians (degrees : Float) : Float := degrees * (3.14159265358979323846 / 180)

/-- The distance between two points along a great circle, in metres. -/
def distance (p q : GeoPoint) : Float :=
  let square (x : Float) := x * x
  let h := square (radians (q.lat - p.lat) / 2).sin +
    (radians p.lat).cos * (radians q.lat).cos * square (radians (q.lon - p.lon) / 2).sin
  earthRadius * 2 * h.sqrt.asin

/-- The edges of a closed polygon: each vertex with the one before it. -/
def edges (polygon : List GeoPoint) : List (GeoPoint × GeoPoint) :=
  match polygon.getLast? with
  | some last => polygon.zip (last :: polygon)
  | none => []

/-- Whether a ray from the point, along its parallel towards the east, crosses an edge. -/
def crosses (p : GeoPoint) (edge : GeoPoint × GeoPoint) : Bool :=
  let (a, b) := edge
  (decide (p.lat < a.lat) != decide (p.lat < b.lat)) &&
    decide (p.lon < (b.lon - a.lon) * (p.lat - a.lat) / (b.lat - a.lat) + a.lon)

/-- Whether the point lies in the polygon: a ray from it leaves the polygon once more often than it
    enters. -/
def inPolygon (polygon : List GeoPoint) (p : GeoPoint) : Bool :=
  (edges polygon).countP p.crosses % 2 = 1

/-- Whether the point lies in the box between two corners. -/
def inBox (topLeft bottomRight p : GeoPoint) : Bool :=
  let inLon :=
    if topLeft.lon ≤ bottomRight.lon then topLeft.lon ≤ p.lon && p.lon ≤ bottomRight.lon
    else topLeft.lon ≤ p.lon || p.lon ≤ bottomRight.lon
  p.lat ≤ topLeft.lat && bottomRight.lat ≤ p.lat && inLon

end NestedSearch.GeoPoint
