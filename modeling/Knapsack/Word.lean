/-!
Counts, positions and buffer sizes are 64-bit words. They are kept as natural numbers; this file has
the bound they obey, the largest buffer, and the one subtraction that wraps around. Capacities,
weights and values are 32-bit numbers with sign, and an integer becomes one only if it is in range.
-/

namespace Knapsack

/-- The number of values a word has, two to the power 64. -/
def wordCount : Nat := 18446744073709551616

/-- The most bytes that one buffer may have, the largest number of 64 bits with sign. -/
def bufferLimit : Nat := 9223372036854775807

/-- The cell `weight` below `cell`, counted around the end of the words. -/
def cellBelow (cell : Nat) (weight : Int32) : Nat :=
  ((cell - weight.toInt) % wordCount).toNat

def int32? (n : Int) : Option Int32 :=
  if -2147483648 ≤ n ∧ n ≤ 2147483647 then some (Int32.ofInt n) else none

theorem int32?_eq_some_iff {n : Int} {x : Int32} : int32? n = some x ↔ x.toInt = n := by
  have lower := x.le_toInt
  have upper := x.toInt_lt
  unfold int32?
  split
  · next range =>
    rw [Option.some_inj]
    constructor
    · rintro rfl
      exact Int32.toInt_ofInt_of_le range.1 (by omega)
    · rintro rfl
      exact Int32.ofInt_toInt x
  · next range =>
    constructor
    · intro impossible
      cases impossible
    · intro same
      omega

theorem int32?_eq_none_iff {n : Int} : int32? n = none ↔ n < -2147483648 ∨ 2147483647 < n := by
  unfold int32?
  split
  · next range =>
    constructor
    · intro impossible
      cases impossible
    · intro outside
      omega
  · next range =>
    constructor
    · intro _
      omega
    · intro _
      rfl

theorem int32?_eq_some_ofInt_iff {n : Int} {x : Int32} :
    int32? n = some x ↔ (-2147483648 ≤ n ∧ n ≤ 2147483647) ∧ x = Int32.ofInt n := by
  unfold int32?
  split
  · next range => rw [Option.some_inj, and_iff_right range, eq_comm]
  · next outside =>
    constructor
    · intro impossible
      cases impossible
    · intro both
      exact absurd both.1 outside

/-- A weight that is at most the cell is subtracted without going around. -/
theorem cellBelow_of_le {cell load : Nat} {weight : Int32} (same : (load : Int) = weight.toInt)
    (le : load ≤ cell) (word : cell < wordCount) : cellBelow cell weight = cell - load := by
  have free : (cell : Int) - weight.toInt = (cell - load : Nat) := by omega
  rw [cellBelow, free, ← Int.natCast_emod, Int.toNat_natCast]
  exact Nat.mod_eq_of_lt (by omega)

end Knapsack
