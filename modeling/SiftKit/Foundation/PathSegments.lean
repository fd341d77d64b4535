import Mathlib.Data.List.Basic

/-! # Paths as segments

A path is resolved segment by segment against a base: a segment that stands for here is passed over, one that stands for
up takes the last segment away, any other is added.
-/

namespace SiftKit.PathSegments

variable {Segment : Type*} (isHere isUp : Segment → Bool)

/-- One segment further. -/
def climb (path : List Segment) (segment : Segment) : List Segment :=
  if isHere segment then path else if isUp segment then path.dropLast else path ++ [segment]

def resolve (base segments : List Segment) : List Segment := segments.foldl (climb isHere isUp) base

def Inside (base path : List Segment) : Prop := ∃ below, below ≠ [] ∧ path = base ++ below

variable {isHere isUp}

end SiftKit.PathSegments
