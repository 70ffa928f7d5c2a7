import Worksheet.Pipeline.Node

/-!
# The sides of a join

The edges into a join name their side by a handle.  The first edge of each handle takes its side; the
others, in their order, fill the sides that are left, the main side before the lookup side.
-/

namespace Worksheet.Pipeline

/-- The edges without the first one of each of the given handles. -/
def withoutFirst : List String → List Edge → List Edge
  | _, [] => []
  | handles, edge :: edges =>
    match edge.targetHandle with
    | some handle =>
      if handle ∈ handles then withoutFirst (handles.erase handle) edges
      else edge :: withoutFirst handles edges
    | none => edge :: withoutFirst handles edges

/-- The edge of one side: the one with its handle, or else the first of the edges left over; and
the edges left over then. -/
def takeSide (named : Option Edge) (left : List Edge) : Option Edge × List Edge :=
  match named, left with
  | some edge, left => (some edge, left)
  | none, edge :: left => (some edge, left)
  | none, [] => (none, [])

/-- The first edge with a handle. -/
def firstWith (handle : String) (edges : List Edge) : Option Edge :=
  edges.find? fun edge => edge.targetHandle == some handle

/-- The edges of the main side and of the lookup side, in this order, as far as there are any. -/
def joinSides (mainHandle lookupHandle : String) (edges : List Edge) : List Edge :=
  let left := withoutFirst (Keyed.distinct [mainHandle, lookupHandle]) edges
  let (main, left) := takeSide (firstWith mainHandle edges) left
  let (lookup, _) := takeSide (firstWith lookupHandle edges) left
  main.toList ++ lookup.toList

end Worksheet.Pipeline
