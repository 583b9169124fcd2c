import Mathlib
import ShaderGraph.Number.Decimal
import ShaderGraph.Program.Generate
import ShaderGraph.Proofs.Number.Fixed

/-!
# The text of a printed number

A finite number is printed as a sign, the digits of a whole number, a point and
two more digits. Together the digits are those of the number of hundredths that
is nearest to the exact size of the number, ties away from zero; a number that
has too many hundredths is not printed (`Program.number_of_finite`).

The size is read off the 64 bits of the number (`encodedSize`). Digits are told by
what they spell (`digitsValue`), so the text can be read back from the statement.
-/

namespace ShaderGraph

/-! ## Sizes -/

/-- The size that the bits of a finite number encode: without a leading one and in units of
`2 ^ -1074` if the exponent is zero, otherwise with a leading one in front of the 52 bits of
the fraction. -/
def encodedSize (bits : ℕ) : ℚ :=
  let exponent : ℕ := bits / 2 ^ 52 % 2 ^ 11
  let fraction : ℕ := bits % 2 ^ 52
  if exponent = 0 then fraction * 2 ^ (-1074 : ℤ)
  else (2 ^ 52 + fraction) * 2 ^ ((exponent : ℤ) - 1075)

theorem twoTo_eq_pow (n : ℕ) : twoTo n = 2 ^ n := rfl

/-- The bounds of a magnitude's parts, in powers of two: 53 bits of a significand, all of them
used unless the scale is the smallest. -/
theorem Magnitude.bounds (m : Magnitude) :
    m.significand < 2 ^ 53 ∧ (m.scale = 0 ∨ 2 ^ 52 ≤ m.significand) ∧ m.scale ≤ 2045 :=
  m.canonical

/-- The bits of a finite number: its sign, and the scale and the significand added up, so that
a leading one carries into the exponent. -/
theorem bits_finite (negative : Bool) (m : Magnitude) : (Binary64.finite negative m).bits =
    negative.toNat * 2 ^ 63 + m.scale * 2 ^ 52 + m.significand :=
  rfl

/-- A magnitude is what the bits of its numbers encode. -/
theorem encodedSize_bits (negative : Bool) (m : Magnitude) :
    encodedSize (Binary64.finite negative m).bits = m.value := by
  obtain ⟨narrow, normal, inRange⟩ := m.bounds
  have sign := negative.toNat_le
  have size : m.value = m.significand * 2 ^ ((m.scale : ℤ) - 1074) := by
    rw [Magnitude.value, Magnitude.units, Magnitude.unitsPerOne, twoTo_eq_pow, twoTo_eq_pow,
      Nat.cast_mul, Nat.cast_pow, Nat.cast_pow, Nat.cast_ofNat, zpow_sub₀ two_ne_zero, zpow_natCast,
      mul_div_assoc]
    rfl
  have bits := bits_finite negative m
  by_cases short : m.significand < 2 ^ 52
  · -- No leading one: the scale is zero, and so is the exponent.
    have unscaled : m.scale = 0 := by omega
    have exponent : (Binary64.finite negative m).bits / 2 ^ 52 % 2 ^ 11 = 0 := by omega
    have fraction : (Binary64.finite negative m).bits % 2 ^ 52 = m.significand := by omega
    rw [encodedSize, exponent, fraction, if_pos rfl, size, unscaled]
    norm_num
  · -- With the carry the exponent is the scale and one more.
    have exponent : (Binary64.finite negative m).bits / 2 ^ 52 % 2 ^ 11 = m.scale + 1 := by omega
    have fraction : (Binary64.finite negative m).bits % 2 ^ 52 = m.significand - 2 ^ 52 := by omega
    have leading : (2 ^ 52 : ℚ) + ((m.significand - 2 ^ 52 : ℕ) : ℚ) = m.significand := by
      rw [Nat.cast_sub (by omega)]
      push_cast
      ring
    rw [encodedSize, exponent, fraction, if_neg (by omega), leading, size]
    congr 2
    push_cast
    ring

/-- The highest bit of a finite number is its sign. -/
theorem testBit_bits (negative : Bool) (m : Magnitude) :
    (Binary64.finite negative m).bits.testBit 63 = negative := by
  obtain ⟨narrow, _, inRange⟩ := m.bounds
  have bits := bits_finite negative m
  rw [Nat.testBit_eq_decide_div_mod_eq, bits]
  cases negative with
  | false =>
    rw [decide_eq_false_iff_not, Bool.toNat_false]
    omega
  | true =>
    rw [decide_eq_true_iff, Bool.toNat_true]
    omega

/-! ## Rounding -/

/-- A whole number is nearest to a size; of two that are equally near, the one further from
zero is meant. -/
structure NearestAway (size : ℚ) (n : ℕ) : Prop where
  close : |(n : ℚ) - size| ≤ 1 / 2
  tie : |(n : ℚ) - size| = 1 / 2 → size ≤ n

/-- The nearest whole number with ties away from zero is the floor of the size plus one
half. -/
theorem nearestAway_iff {size : ℚ} (nonneg : 0 ≤ size) {n : ℕ} :
    NearestAway size n ↔ n = ⌊size + 1 / 2⌋₊ := by
  rw [eq_comm, Nat.floor_eq_iff (by linarith)]
  constructor
  · rintro ⟨close, tie⟩
    obtain ⟨below, above⟩ := abs_le.mp close
    refine ⟨by linarith, lt_of_le_of_ne (by linarith) fun same => ?_⟩
    -- Half a step below the size is equally near, but not further from zero.
    have half : |(n : ℚ) - size| = 1 / 2 := by
      rw [abs_of_nonpos (by linarith)]
      linarith
    have := tie half
    linarith
  · rintro ⟨below, above⟩
    refine ⟨abs_le.mpr ⟨by linarith, by linarith⟩, fun half => ?_⟩
    by_contra less
    rw [abs_of_neg (by linarith)] at half
    linarith

theorem Magnitude.value_nonneg (m : Magnitude) : 0 ≤ m.value := by
  rw [Magnitude.value]
  positivity

/-- The hundredths that are counted are the nearest ones, ties away from zero. -/
theorem Magnitude.nearestAway_steps_iff (m : Magnitude) {n : ℕ} :
    NearestAway (m.value * 100) n ↔ n = m.steps 2 := by
  have nonneg := m.value_nonneg
  rw [nearestAway_iff (by linarith), m.steps_eq_floor]
  norm_num

/-! ## Digits -/

/-- A text is the digits of a number, without superfluous zeros in front. -/
structure Spells (text : List Char) (n : ℕ) : Prop where
  digits : ∀ c ∈ text, c.isDigit = true
  nonempty : text ≠ []
  value : digitsValue text = n
  trim : text.head? = some '0' → text = ['0']

theorem digitsValue_eq_ofDigitChars (cs : List Char) : digitsValue cs = Nat.ofDigitChars 10 cs 0 :=
  rfl

theorem digitsValue_toDigits (n : ℕ) : digitsValue (Nat.toDigits 10 n) = n :=
  Nat.ofDigitChars_toDigits (by omega) (by omega)

/-- The digits of a number begin with a zero only if that is all of them. -/
theorem toDigits_eq_zero_of_head? (n : ℕ) (zero : (Nat.toDigits 10 n).head? = some '0') :
    Nat.toDigits 10 n = ['0'] := by
  induction n using Nat.strongRecOn with
  | ind n ih =>
    by_cases small : n < 10
    · rw [Nat.toDigits_of_lt_base small] at zero ⊢
      rw [Option.some_inj.mp zero]
    · have front : (Nat.toDigits 10 (n / 10)).head? = some '0' := by
        rw [Nat.toDigits_of_base_le (by omega) (by omega), List.head?_append] at zero
        cases first : (Nat.toDigits 10 (n / 10)).head? with
        | none => exact absurd (List.head?_eq_none_iff.mp first) Nat.toDigits_ne_nil
        | some c => rwa [first, Option.some_or] at zero
      -- The digits in front of the last would spell zero, and there would be none.
      have spelled := digitsValue_toDigits (n / 10)
      rw [ih (n / 10) (by omega) front] at spelled
      have vanished : n / 10 = 0 := spelled.symm
      omega

theorem spells_toDigits (n : ℕ) : Spells (Nat.toDigits 10 n) n where
  digits _ hc := Nat.isDigit_of_mem_toDigits (by omega) (by omega) hc
  nonempty := Nat.toDigits_ne_nil
  value := digitsValue_toDigits n
  trim := toDigits_eq_zero_of_head? n

/-- The places behind the point: as many digits as there are places, which spell what is left
of the number. Zeros are put in front where there are too few. -/
theorem exists_fractionDigits (places n : ℕ) (some_places : 0 < places) :
    ∃ fraction : List Char, fractionDigits places n = String.ofList fraction ∧
      fraction.length = places ∧ (∀ c ∈ fraction, c.isDigit = true) ∧
      digitsValue fraction = n % 10 ^ places := by
  have spelled := spells_toDigits (n % 10 ^ places)
  have short : (Nat.toDigits 10 (n % 10 ^ places)).length ≤ places :=
    (Nat.length_toDigits_le_iff (by omega) some_places).mpr (Nat.mod_lt _ (by positivity))
  refine ⟨List.replicate (places - (Nat.toDigits 10 (n % 10 ^ places)).length) '0' ++
    Nat.toDigits 10 (n % 10 ^ places), ?_, ?_, ?_, ?_⟩
  · rw [fractionDigits, tenTo_eq_pow, Nat.toString_eq_ofList_toDigits, String.length_ofList,
      String.ofList_append]
  · rw [List.length_append, List.length_replicate]
    omega
  · intro c hc
    rcases List.mem_append.mp hc with zero | digit
    · rw [List.eq_of_mem_replicate zero]
      decide
    · exact spelled.digits c digit
  · rw [digitsValue_eq_ofDigitChars, Nat.ofDigitChars_append, Nat.ofDigitChars_replicate_zero,
      Nat.mul_zero, ← digitsValue_eq_ofDigitChars, spelled.value]

/-! ## Printed numbers -/

/-- Minus one eighth, which has twelve hundredths and a half. -/
def Sample.eighth : Binary64 := Decimal.value ⟨true, 125, -3⟩

namespace Program

/-- **How a finite number is printed.** There is one whole number of hundredths nearest to the
size of the number, ties away from zero. The number is not printed exactly when the hundredths
take more than 28 digits. Otherwise its text is a minus sign if the sign bit is set, the digits
of the hundredths up to the last two, without superfluous zeros in front, a point, and the last
two digits. -/
theorem number_of_finite (x : Binary64) (finite : x.isFinite = true) :
    ∃ n : ℕ, (∀ k, NearestAway (encodedSize x.bits * 100) k ↔ k = n) ∧
      (Program.number x = .error .numberTooWide ↔ 10 ^ 28 ≤ n) ∧
      (n < 10 ^ 28 → ∃ whole fraction, Spells whole (n / 100) ∧
        fraction.length = 2 ∧ (∀ c ∈ fraction, c.isDigit = true) ∧ digitsValue fraction = n % 100 ∧
        Program.number x = .ok (String.ofList
          ((if x.bits.testBit 63 then ['-'] else []) ++ whole ++ '.' :: fraction))) := by
  cases x with
  | nan => cases finite
  | infinite negative => cases finite
  | finite negative m =>
    rw [encodedSize_bits, testBit_bits]
    refine ⟨m.steps 2, fun k => m.nearestAway_steps_iff, ?_, ?_⟩
    · rw [number, Binary64.fixed?]
      by_cases narrow : m.steps 2 < tenTo 28
      · rw [if_pos narrow]
        have : m.steps 2 < 10 ^ 28 := narrow
        simp only [reduceCtorEq, false_iff]
        omega
      · rw [if_neg narrow]
        have : ¬ m.steps 2 < 10 ^ 28 := narrow
        simp only [true_iff]
        omega
    · intro narrow
      obtain ⟨fraction, digits, length, each, value⟩ :=
        exists_fractionDigits 2 (m.steps 2) (by omega)
      refine ⟨Nat.toDigits 10 (m.steps 2 / 100), fraction, spells_toDigits _, length, each, value,
        ?_⟩
      have text : fixedText 2 (m.steps 2) =
          String.ofList (Nat.toDigits 10 (m.steps 2 / 100) ++ '.' :: fraction) := by
        rw [fixedText, digits, Nat.toString_eq_ofList_toDigits, ← List.singleton_append,
          String.ofList_append, String.ofList_append, ← String.append_assoc]
        rfl
      have inWidth : m.steps 2 < tenTo 28 := narrow
      have sign : (if negative then "-" else "") =
          String.ofList (if negative then ['-'] else []) := by
        cases negative <;> rfl
      rw [number, Binary64.fixed?, if_pos inWidth, text, sign, ← String.ofList_append,
        ← List.append_assoc]

/-- Half a hundredth is rounded away from zero, and not to the even neighbour: minus one
eighth has thirteen hundredths. -/
theorem number_of_finite_tie :
    Sample.eighth.isFinite = true ∧ NearestAway (encodedSize Sample.eighth.bits * 100) 13 ∧
      ∃ whole fraction, Spells whole 0 ∧ fraction.length = 2 ∧ (∀ c ∈ fraction, c.isDigit = true) ∧
        digitsValue fraction = 13 ∧
        Program.number Sample.eighth = .ok (String.ofList (['-'] ++ whole ++ '.' :: fraction)) := by
  have finite : Sample.eighth.isFinite = true := by decide +kernel
  have bits : Sample.eighth.bits = 0xBFC0000000000000 := by decide +kernel
  have sign : (0xBFC0000000000000 : ℕ).testBit 63 = true := by decide +kernel
  have nearest : NearestAway (encodedSize Sample.eighth.bits * 100) 13 := by
    rw [bits]
    constructor <;> norm_num [encodedSize, abs_of_pos]
  obtain ⟨n, unique, _, text⟩ := number_of_finite Sample.eighth finite
  cases (unique 13).mp nearest
  have printed := text (by norm_num)
  rw [bits, sign] at printed
  exact ⟨finite, nearest, printed⟩

example : Program.number Sample.eighth = .ok "-0.13" := by decide +kernel

end Program

end ShaderGraph
