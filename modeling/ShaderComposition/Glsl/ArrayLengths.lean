import ShaderComposition.Glsl.Type

/-!
# Array lengths

A permutation asks for a count of each size class. An array is at least one element long and no
longer than the maximum of its class, so a declared array is never empty.
-/

namespace ShaderComposition

/-- The count that is asked for each size class. -/
structure ArrayLengths where
  requested : SizeClass → UInt16

namespace ArrayLengths

/-- Counts given one by one: of two for a class the later holds, and zero where there is none. -/
def ofCounts (counts : List (SizeClass × UInt16)) : ArrayLengths where
  requested c := (counts.reverse.lookup c).getD 0

/-- The number of elements that a size class stands for. -/
def length (lengths : ArrayLengths) : SizeClass → Nat
  | .one => 1
  | c => max 1 (min (lengths.requested c).toNat c.maximum)

theorem length_pos (lengths : ArrayLengths) (c : SizeClass) : 0 < lengths.length c := by
  cases c <;> simp only [length] <;> omega

theorem length_le_maximum (lengths : ArrayLengths) (c : SizeClass) :
    lengths.length c ≤ c.maximum := by
  have bound := c.maximum_pos
  cases c <;> simp only [length, SizeClass.maximum] at * <;> omega

end ArrayLengths

end ShaderComposition
