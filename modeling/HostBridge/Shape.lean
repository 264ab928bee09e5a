import HostBridge.Word

/-!
# Shapes and strides

An array has one extent and one byte stride per axis. A dense array lays its elements out without
gaps, the last axis varying fastest in row-major order and the first axis in column-major order.
This module holds the arithmetic of shapes: the number of elements, the strides of a dense
layout, the test whether given strides are dense, and the enumeration of all indices.
-/

namespace HostBridge

/-- Which axis of a dense array varies fastest. -/
inductive Order where
  /-- The last axis varies fastest. -/
  | rowMajor
  /-- The first axis varies fastest. -/
  | columnMajor
  deriving DecidableEq

/-- The extents of an array, one per axis. -/
abbrev Shape := List Nat

/-- The distances in bytes between neighbours along each axis. -/
abbrev Strides := List Int

/-- A position in an array, one coordinate per axis. -/
abbrev Index := List Nat

namespace Shape

/-- Whether some axis has no elements. -/
def hasEmptyAxis (shape : Shape) : Bool := shape.any (· == 0)

/-- The number of elements, or `none` if a product taken from the left does not fit in a word. -/
def count? (shape : Shape) : Option Nat := shape.foldlM Word.mul? 1

/-- The strides of a dense layout whose fastest axis comes first, where neighbours along that axis
are `step` bytes apart. An axis without elements counts as one with a single element. -/
def denseFrom (step : Int) : Shape → Strides
  | [] => []
  | extent :: rest => step :: denseFrom (Word.signed (step * (max extent 1 : Nat))) rest

/-- The strides of a dense array of elements of `width` bytes. -/
def denseStrides (shape : Shape) (width : Nat) : Order → Strides
  | .rowMajor => (denseFrom (Word.signed width) shape.reverse).reverse
  | .columnMajor => denseFrom (Word.signed width) shape

/-- Whether strides are those of a dense layout whose fastest axis comes first, where neighbours
along that axis are `step` bytes apart. The stride of an axis with a single element is free. -/
def isDenseFrom (step : Int) : List (Nat × Int) → Bool
  | [] => true
  | (extent, stride) :: rest =>
    if extent = 1 then isDenseFrom step rest
    else stride == step && isDenseFrom (Word.signed (step * extent)) rest

/-- Whether strides describe a dense layout of elements of `width` bytes. Axes beyond the shorter
of the two lists are left out, and an array without elements is always dense. -/
def isDense (shape : Shape) (strides : Strides) (width : Nat) (order : Order) : Bool :=
  shape.hasEmptyAxis ||
    match order with
    | .rowMajor => isDenseFrom (Word.signed width) (shape.zip strides).reverse
    | .columnMajor => isDenseFrom (Word.signed width) (shape.zip strides)

/-- Every choice of one coordinate per axis, the last coordinate varying fastest. -/
def grid : Shape → List Index
  | [] => [[]]
  | extent :: rest => (List.range extent).flatMap fun i => (grid rest).map (i :: ·)

/-- Every index of an array, the last coordinate varying fastest. An empty axis is noticed before
any other axis is run through. -/
def indices (shape : Shape) : List Index := if shape.hasEmptyAxis then [] else shape.grid

/-- The first coordinate that lies outside its axis, together with the extent of that axis. -/
def outside? : Shape → Index → Option (Nat × Nat)
  | extent :: shape, i :: index => if extent ≤ i then some (i, extent) else outside? shape index
  | _, _ => none

end Shape

/-- The distance in bytes from the first element of an array to the one at an index. -/
def Strides.offset : Strides → Index → Int
  | stride :: strides, i :: index => i * stride + offset strides index
  | _, _ => 0

/-- A walk over the indices of an array, the last coordinate varying fastest. -/
structure Odometer where
  /-- The extents of the array. -/
  shape : Shape
  /-- The index that comes next, if one is left. -/
  upcoming : Option Index

namespace Odometer

/-- A walk that has not begun. An array without elements has nothing to walk over. -/
def start (shape : Shape) : Odometer :=
  ⟨shape, if shape.hasEmptyAxis then none else some (shape.map fun _ => 0)⟩

/-- The index after a given one: the last coordinate that can grow does, and those after it return
to zero. -/
def successor? : Shape → Index → Option Index
  | extent :: shape, i :: index =>
    match successor? shape index with
    | some index => some (i :: index)
    | none => if i + 1 < extent then some ((i + 1) :: index.map fun _ => 0) else none
  | _, _ => none

/-- Take one step: the index reached, if any, and the walk that remains. -/
def next (walk : Odometer) : Option Index × Odometer :=
  (walk.upcoming, { walk with upcoming := walk.upcoming.bind (successor? walk.shape) })

/-- The indices reached in at most `steps` steps. -/
def take : (steps : Nat) → Odometer → List Index
  | 0, _ => []
  | steps + 1, walk =>
    match walk.next with
    | (some index, rest) => index :: take steps rest
    | (none, _) => []

end Odometer

/-- The indices of an array in the order in which an odometer reaches them. -/
def Shape.walk (shape : Shape) : List Index := (Odometer.start shape).take (shape.foldl (· * ·) 1)

end HostBridge
