import Mathlib
import ShaderGraph.Number.Decimal
import ShaderGraph.Proofs.Number.Printed

/-!
# Reading a decimal gives the nearest number

A decimal is read as a binary64 value than which no other is nearer to what the decimal says
(`Decimal.exists_value_nearest`).

Rounding takes the nearest multiple of one step, and the step is chosen by the size of the
quotient (`Magnitude.exists_units_nearest?`). Numbers with wider steps are multiples of it too.
Numbers with narrower steps are all below the quotient, and the largest multiple of the step below
it is at least as large as they are; so none of them is nearer either.
-/

namespace ShaderGraph

/-! ## Quotients -/

theorem le_nearestEven (num den : ℕ) : num / den ≤ nearestEven num den := by
  unfold nearestEven
  dsimp only
  split_ifs <;> omega

theorem nearestEven_le (num den : ℕ) : nearestEven num den ≤ num / den + 1 := by
  unfold nearestEven
  dsimp only
  split_ifs <;> omega

/-- The rounded quotient is at most one half away, both sides counted in halves of the
divisor. -/
theorem nearestEven_close (num : ℕ) {den : ℕ} (positive : 0 < den) :
    2 * (den * nearestEven num den) ≤ 2 * num + den ∧
      2 * num ≤ 2 * (den * nearestEven num den) + den := by
  have split := Nat.div_add_mod num den
  have less := Nat.mod_lt num positive
  unfold nearestEven
  dsimp only
  split_ifs <;> (try rw [Nat.mul_add, Nat.mul_one]) <;> omega

/-- No whole number is nearer to a quotient than the rounded one. Another may be as near, and
then the even one of the two was taken. -/
theorem abs_nearestEven_le (num : ℕ) {den : ℕ} (positive : 0 < den) (k : ℕ) :
    |(nearestEven num den : ℚ) - num / den| ≤ |(k : ℚ) - num / den| := by
  have divisor : (0 : ℚ) < den := Nat.cast_pos.mpr positive
  obtain ⟨above, below⟩ := nearestEven_close num positive
  have half : |(nearestEven num den : ℚ) - num / den| ≤ 1 / 2 := by
    have above' : 2 * ((den : ℚ) * nearestEven num den) ≤ 2 * num + den := by exact_mod_cast above
    have below' : 2 * (num : ℚ) ≤ 2 * (den * nearestEven num den) + den := by exact_mod_cast below
    rw [abs_le]
    constructor
    · rw [neg_le_sub_iff_le_add, div_le_iff₀ divisor]
      linarith
    · rw [sub_le_iff_le_add, ← sub_le_iff_le_add', le_div_iff₀ divisor]
      linarith
  by_cases same : k = nearestEven num den
  · rw [same]
  · -- Another whole number is one away from the rounded one at least.
    have apart : (1 : ℚ) ≤ |(k : ℚ) - nearestEven num den| := by
      have : (1 : ℤ) ≤ |(k : ℤ) - nearestEven num den| :=
        Int.one_le_abs (sub_ne_zero.mpr (Nat.cast_injective.ne same))
      exact_mod_cast this
    have triangle := abs_sub_le (k : ℚ) (num / den) (nearestEven num den)
    rw [abs_sub_comm ((num : ℚ) / den)] at triangle
    linarith

/-! ## Magnitudes -/

namespace Magnitude

/-- The step that a quotient is rounded to. -/
def stepOf (num den : ℕ) : ℕ := (num / den).log2 - 52

theorem units_eq (m : Magnitude) : m.units = m.significand * 2 ^ m.scale := rfl

/-- Counted in its step, a quotient has at most 53 bits, and no fewer unless the step is one
unit. So the step is as fine as a significand allows. -/
theorem div_stepOf_bounds (num den : ℕ) :
    num / (den * 2 ^ stepOf num den) < 2 ^ 53 ∧
      (stepOf num den = 0 ∨ 2 ^ 52 ≤ num / (den * 2 ^ stepOf num den)) := by
  rw [← Nat.div_div_eq_div_mul]
  have positive : 0 < 2 ^ stepOf num den := Nat.two_pow_pos _
  constructor
  · rw [Nat.div_lt_iff_lt_mul positive, ← pow_add]
    calc num / den < 2 ^ ((num / den).log2 + 1) := Nat.lt_log2_self
      _ ≤ 2 ^ (53 + stepOf num den) := Nat.pow_le_pow_right (by omega) (by unfold stepOf; omega)
  · by_cases unit : stepOf num den = 0
    · exact .inl unit
    · right
      have bits : 52 + stepOf num den = (num / den).log2 := by
        unfold stepOf at unit ⊢
        omega
      have nonzero : num / den ≠ 0 := by
        intro zero
        rw [zero, Nat.log2_zero] at bits
        omega
      rw [Nat.le_div_iff_mul_le positive, ← pow_add, bits]
      exact Nat.log2_self_le nonzero

/-- A quotient that is not too large is rounded to a multiple of its step. Rounding up may bring
it to 54 bits, and then the step is doubled without loss. -/
theorem exists_units_nearest? {num den : ℕ} (inRange : stepOf num den ≤ 2044) :
    ∃ m, nearest? num den = some m ∧
      m.units = nearestEven num (den * 2 ^ stepOf num den) * 2 ^ stepOf num den := by
  obtain ⟨narrow, wide⟩ := div_stepOf_bounds num den
  have least := le_nearestEven num (den * 2 ^ stepOf num den)
  have most := nearestEven_le num (den * 2 ^ stepOf num den)
  by_cases carry : nearestEven num (den * 2 ^ stepOf num den) = 2 ^ 53
  · -- The significand has a bit too many, and the next scale takes over.
    have canonical : 2 ^ 52 < twoTo 53 ∧
        (stepOf num den + 1 = 0 ∨ twoTo 52 ≤ 2 ^ 52) ∧ stepOf num den + 1 ≤ 2045 :=
      ⟨by decide, .inr le_rfl, by omega⟩
    refine ⟨⟨2 ^ 52, stepOf num den + 1, canonical⟩, ?_, ?_⟩
    · exact (if_pos carry).trans (dif_pos canonical)
    · rw [carry, units_eq, pow_succ 2 (stepOf num den)]
      ring
  · have canonical : nearestEven num (den * 2 ^ stepOf num den) < twoTo 53 ∧
        (stepOf num den = 0 ∨ twoTo 52 ≤ nearestEven num (den * 2 ^ stepOf num den)) ∧
        stepOf num den ≤ 2045 := by
      rw [twoTo_eq_pow, twoTo_eq_pow]
      omega
    exact ⟨⟨_, _, canonical⟩, (if_neg carry).trans (dif_pos canonical), rfl⟩

/-- No magnitude is nearer to a quotient than a multiple of the step that is nearest. A finer
magnitude is small, and lies on the far side of a power of two from the quotient. -/
theorem abs_nearestEven_mul_le (num : ℕ) {den : ℕ} (positive : 0 < den) (other : Magnitude) :
    |((nearestEven num (den * 2 ^ stepOf num den) * 2 ^ stepOf num den : ℕ) : ℚ) - num / den| ≤
      |(other.units : ℚ) - num / den| := by
  have step : (0 : ℚ) < 2 ^ stepOf num den := by positivity
  have divisor : (0 : ℚ) < den := Nat.cast_pos.mpr positive
  -- Distances in units are distances in steps, times the step.
  have scaled : ∀ k : ℕ, |((k * 2 ^ stepOf num den : ℕ) : ℚ) - num / den| =
      |(k : ℚ) - num / (den * 2 ^ stepOf num den : ℕ)| * 2 ^ stepOf num den := by
    intro k
    have spread : ((k * 2 ^ stepOf num den : ℕ) : ℚ) - num / den =
        (k - num / (den * 2 ^ stepOf num den : ℕ)) * 2 ^ stepOf num den := by
      push_cast
      field_simp
    rw [spread, abs_mul, abs_of_pos step]
  have onGrid : ∀ k : ℕ,
      |((nearestEven num (den * 2 ^ stepOf num den) * 2 ^ stepOf num den : ℕ) : ℚ) - num / den| ≤
        |((k * 2 ^ stepOf num den : ℕ) : ℚ) - num / den| := by
    intro k
    rw [scaled, scaled]
    exact mul_le_mul_of_nonneg_right
      (abs_nearestEven_le num (Nat.mul_pos positive (Nat.two_pow_pos _)) k) step.le
  by_cases wider : stepOf num den ≤ other.scale
  · have multiple : other.units =
        other.significand * 2 ^ (other.scale - stepOf num den) * 2 ^ stepOf num den := by
      rw [units_eq, mul_assoc, ← pow_add, Nat.sub_add_cancel wider]
    rw [multiple]
    exact onGrid _
  · -- The largest number with a narrower step is below `2 ^ 52` steps, and these are not above
    -- the quotient.
    have low : other.units ≤ 2 ^ 52 * 2 ^ stepOf num den := by
      have narrow := other.bounds.1
      calc other.units = other.significand * 2 ^ other.scale := other.units_eq
        _ ≤ 2 ^ 53 * 2 ^ (stepOf num den - 1) :=
          Nat.mul_le_mul narrow.le (Nat.pow_le_pow_right (by omega) (by omega))
        _ = 2 ^ 52 * 2 ^ stepOf num den := by
          rw [← pow_add, ← pow_add]
          congr 1
          omega
    have high : ((2 ^ 52 * 2 ^ stepOf num den : ℕ) : ℚ) ≤ num / den := by
      have steps : 2 ^ 52 ≤ num / (den * 2 ^ stepOf num den) :=
        (div_stepOf_bounds num den).2.resolve_left (by omega)
      rw [← Nat.div_div_eq_div_mul, Nat.le_div_iff_mul_le (Nat.two_pow_pos _)] at steps
      calc ((2 ^ 52 * 2 ^ stepOf num den : ℕ) : ℚ) ≤ (num / den : ℕ) := Nat.cast_le.mpr steps
        _ ≤ num / den := Nat.cast_div_le
    have low' : (other.units : ℚ) ≤ (2 ^ 52 * 2 ^ stepOf num den : ℕ) := Nat.cast_le.mpr low
    calc _ ≤ |((2 ^ 52 * 2 ^ stepOf num den : ℕ) : ℚ) - num / den| := onGrid (2 ^ 52)
      _ ≤ |(other.units : ℚ) - num / den| := by
        rw [abs_of_nonpos (sub_nonpos.mpr high), abs_of_nonpos (sub_nonpos.mpr (low'.trans high))]
        exact neg_le_neg (sub_le_sub_right low' _)

end Magnitude

/-! ## Decimals -/

/-- A quotient of a bounded number has boundedly many bits, which keeps it in the range of
magnitudes. -/
theorem log2_mul_div_le {n bits : ℕ} (inRange : n < 2 ^ bits) (units den : ℕ) :
    (n * 2 ^ units / den).log2 ≤ bits + units := by
  by_cases none : n * 2 ^ units / den = 0
  · rw [none, Nat.log2_zero]
    omega
  · apply Nat.le_of_lt
    rw [Nat.log2_lt none, pow_add]
    calc n * 2 ^ units / den ≤ n * 2 ^ units := Nat.div_le_self _ _
      _ < 2 ^ bits * 2 ^ units := Nat.mul_lt_mul_of_pos_right inRange (Nat.two_pow_pos _)

/-- A quotient for which there is a nearest magnitude becomes a finite number with this
magnitude. -/
theorem ofUnits_of_nearest? (negative : Bool) {num den : ℕ} {m : Magnitude}
    (nearest : Magnitude.nearest? num den = some m) :
    Binary64.ofUnits negative num den = .finite negative m := by
  unfold Binary64.ofUnits
  rw [nearest]

theorem Magnitude.value_zero : Magnitude.zero.value = 0 := by
  rw [Magnitude.value, show Magnitude.zero.units = 0 from rfl, Nat.cast_zero, zero_div]

/-- A decimal with places behind the point is read as a finite number, and no number is nearer to
it. The bounds are generous: what is printed has two places and 28 digits. -/
theorem Decimal.exists_value_nearest (negative : Bool) {n places bits : ℕ}
    (inRange : n < 2 ^ bits) (room : bits ≤ 1022) (some_places : 0 < places) (few : places ≤ 400) :
    ∃ m : Magnitude, Decimal.value ⟨negative, n, -places⟩ = .finite negative m ∧
      ∀ other : Magnitude, |m.value - n / 10 ^ places| ≤ |other.value - n / 10 ^ places| := by
  by_cases zero : n = 0
  · refine ⟨.zero, if_pos zero, fun other => ?_⟩
    rw [Magnitude.value_zero, zero, Nat.cast_zero, zero_div, sub_zero, abs_zero]
    exact abs_nonneg _
  · have step : Magnitude.stepOf (n * Magnitude.unitsPerOne) (10 ^ places) ≤ 2044 := by
      have size := log2_mul_div_le inRange 1074 (10 ^ places)
      rw [← twoTo_eq_pow 1074] at size
      unfold Magnitude.stepOf Magnitude.unitsPerOne
      omega
    obtain ⟨m, nearest, units⟩ := Magnitude.exists_units_nearest? step
    refine ⟨m, ?_, fun other => ?_⟩
    · have rounded : Binary64.ofUnits negative (n * Magnitude.unitsPerOne) (tenTo places) =
          .finite negative m := ofUnits_of_nearest? negative nearest
      have exponent : (- -(places : ℤ)).toNat = places := by omega
      unfold Decimal.value
      dsimp only
      rw [if_neg zero, if_neg (by omega), if_neg (by omega), if_neg (by omega), exponent, rounded]
    · have unit : (0 : ℚ) < Magnitude.unitsPerOne := Nat.cast_pos.mpr (twoTo_pos 1074)
      have closer := Magnitude.abs_nearestEven_mul_le (n * Magnitude.unitsPerOne)
        (Nat.pow_pos (by omega) : 0 < 10 ^ places) other
      -- Distances in units are distances in ones, times the units of one.
      have scaled : ∀ each : Magnitude, |each.value - n / 10 ^ places| =
          |(each.units : ℚ) - (n * Magnitude.unitsPerOne : ℕ) / (10 ^ places : ℕ)| /
            Magnitude.unitsPerOne := by
        intro each
        rw [Magnitude.value, Nat.cast_mul, Nat.cast_pow, Nat.cast_ofNat]
        generalize (Magnitude.unitsPerOne : ℚ) = one at unit
        have spread : (each.units : ℚ) / one - n / 10 ^ places =
            (each.units - n * one / 10 ^ places) / one := by
          field_simp
        rw [spread, abs_div, abs_of_pos unit]
      rw [scaled, scaled, units]
      exact div_le_div_of_nonneg_right closer unit.le

end ShaderGraph
