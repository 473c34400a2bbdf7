import Bracket.Value.Coercion

/-!
Positions in texts and arrays, and the ranges that slices take.
-/

namespace Bracket.Value

/-- A position as a whole number, NaN counting as zero. -/
def toPosition (v : Value) : Number :=
  let n := v.toNumber
  if n.isNaN then 0 else n.trunc

/-- The position that a bound stands for in a sequence: undefined for the default, negative bounds
counting from the end, and all cut off to the sequence. -/
def resolveBound (bound : Value) (length default : Nat) : Nat :=
  if bound.isUndefined then default
  else
    let n := bound.toPosition
    let size := Number.ofNat length
    (if n.lt 0 then (size + n).max 0 else n.min size).toIndex

/-- The first position of a slice and the one behind its last. -/
def sliceRange (first last : Value) (length : Nat) : Nat × Nat :=
  let start := resolveBound first length 0
  (start, max start (resolveBound last length length))

/-- The items between two bounds. -/
def sliceList {α : Type} (first last : Value) (items : List α) : List α :=
  let (start, stop) := sliceRange first last items.length
  (items.drop start).take (stop - start)

end Bracket.Value
