import Mathlib.Data.Rat.Floor
import Mathlib.Tactic.FieldSimp
import Mathlib.Tactic.Linarith
import ShaderGraph.Number.Fixed

/-!
# Which numbers can be printed

Printing counts hundredths with whole numbers. Here the same count is told of
the value itself: `Magnitude.value` is the exact size of a finite number, and
the count is its rounding to the nearest, ties away from zero
(`Magnitude.steps_eq_floor`).

A number can be printed with two places and 28 digits when it is NaN, or finite
and rounded to less than `10 ^ 26` (`Binary64.fixed?_isSome_iff`).
-/

namespace ShaderGraph

theorem tenTo_eq_pow (n : ℕ) : tenTo n = 10 ^ n := rfl

theorem twoTo_pos (n : ℕ) : 0 < twoTo n := Nat.pow_pos (by decide)

/-- The size of a finite number. -/
def Magnitude.value (m : Magnitude) : ℚ := m.units / Magnitude.unitsPerOne

/-- A size rounded to a count of decimal places, ties to the larger. -/
def roundedTo (places : ℕ) (size : ℚ) : ℚ := ⌊size * 10 ^ places + 1 / 2⌋₊ / 10 ^ places

/-- A number has a text in a program: it is NaN, or finite and less than
`10 ^ 26` when it is rounded to two places. -/
def Binary64.Printable : Binary64 → Prop
  | .nan => True
  | .infinite _ => False
  | .finite _ m => roundedTo 2 m.value < 10 ^ 26

theorem Binary64.printable_zero : Binary64.zero.Printable := by
  have size : Magnitude.zero.value = 0 := by
    rw [Magnitude.value, show Magnitude.zero.units = 0 from rfl, Nat.cast_zero, zero_div]
  have floor : ⌊(1 / 2 : ℚ)⌋₊ = 0 := Nat.floor_eq_zero.mpr (by norm_num)
  show roundedTo 2 Magnitude.zero.value < 10 ^ 26
  rw [size, roundedTo, zero_mul, zero_add, floor, Nat.cast_zero, zero_div]
  norm_num

/-- The count of steps is the size rounded to the nearest, ties upwards. The count
is made on whole numbers only, of which this gives the meaning. -/
theorem Magnitude.steps_eq_floor (m : Magnitude) (places : ℕ) :
    m.steps places = ⌊m.value * 10 ^ places + 1 / 2⌋₊ := by
  have positive : (Magnitude.unitsPerOne : ℚ) ≠ 0 := by
    rw [Nat.cast_ne_zero]
    exact (twoTo_pos 1074).ne'
  have scaled : m.value * 10 ^ places + 1 / 2 =
      ((2 * (m.units * tenTo places) + Magnitude.unitsPerOne : ℕ) : ℚ) /
        ((2 * Magnitude.unitsPerOne : ℕ) : ℚ) := by
    rw [Magnitude.value, tenTo_eq_pow]
    push_cast
    field_simp
  rw [scaled, Rat.natFloor_natCast_div_natCast]
  rfl

/-- What can be printed with two places and 28 digits: finite numbers whose
hundredths, once rounded, have no more digits than that. -/
theorem Binary64.fixed?_isSome_iff (x : Binary64) : (x.fixed? 2 28).isSome ↔ x.Printable := by
  cases x with
  | nan => exact ⟨fun _ => trivial, fun _ => rfl⟩
  | infinite negative => exact ⟨(nomatch ·), False.elim⟩
  | finite negative m =>
    have narrow : m.steps 2 < tenTo 28 ↔ roundedTo 2 m.value < 10 ^ 26 := by
      rw [roundedTo, ← m.steps_eq_floor, div_lt_iff₀ (by norm_num), tenTo_eq_pow]
      constructor
      · intro h
        have : (m.steps 2 : ℚ) < ((10 ^ 28 : ℕ) : ℚ) := Nat.cast_lt.mpr h
        push_cast at this
        linarith
      · intro h
        have : (m.steps 2 : ℚ) < ((10 ^ 28 : ℕ) : ℚ) := by
          push_cast
          linarith
        exact Nat.cast_lt.mp this
    rw [Printable, ← narrow, Binary64.fixed?]
    split <;> simp_all

end ShaderGraph
