import ShaderGraph.Number.Power

/-!
# Binary64 — the numbers of a graph, exactly

Every number a graph holds is an IEEE binary64 value. Here such a value is
data: a sign and a `Magnitude`, which counts units of `2 ^ -1074` exactly. An
operation computes its exact result with whole numbers and rounds once, to the
nearest value with ties to even, so nothing in this library depends on a
machine's floating-point instructions.

All NaNs are one value: nothing a graph does can tell them apart.
-/

namespace ShaderGraph

/-! ## Rounding a quotient -/

/-- The whole number nearest to `num / den`; of two equally near ones, the even
one. -/
def nearestEven (num den : Nat) : Nat :=
  let q := num / den
  let r := num % den
  if 2 * r < den then q
  else if den < 2 * r then q + 1
  else if q % 2 = 0 then q
  else q + 1

/-- The whole number nearest to `num / den`; of two equally near ones, the
larger. -/
def nearestUp (num den : Nat) : Nat :=
  (2 * num + den) / (2 * den)

/-! ## Magnitudes -/

/-- The size of a finite number: `significand * 2 ^ scale` units, a unit being
`2 ^ -1074`, the least positive value.

The significand fills its 53 bits unless the scale is zero. So every size has
one spelling, and equality of magnitudes is equality of sizes. -/
structure Magnitude where
  significand : Nat
  scale : Nat
  canonical : significand < twoTo 53 ∧ (scale = 0 ∨ twoTo 52 ≤ significand) ∧ scale ≤ 2045
  deriving DecidableEq, Repr

namespace Magnitude

/-- How many units make one. -/
def unitsPerOne : Nat := twoTo 1074

/-- The size in units. -/
def units (m : Magnitude) : Nat := m.significand * twoTo m.scale

/-- No units at all. -/
def zero : Magnitude := ⟨0, 0, by decide⟩

/-- A significand and a scale as a magnitude, if they are one's spelling. -/
def ofParts? (significand scale : Nat) : Option Magnitude :=
  if h : significand < twoTo 53 ∧ (scale = 0 ∨ twoTo 52 ≤ significand) ∧ scale ≤ 2045 then
    some ⟨significand, scale, h⟩
  else
    none

/-- The magnitude nearest to `num / den` units, ties to the even significand;
`none` past the largest.

The scale is read off the quotient's bit length, and rounding can carry the
significand to `2 ^ 53` at most, where the next scale takes over. -/
def nearest? (num den : Nat) : Option Magnitude :=
  let scale := (num / den).log2 - 52
  let significand := nearestEven num (den * twoTo scale)
  if significand = twoTo 53 then ofParts? (twoTo 52) (scale + 1)
  else ofParts? significand scale

end Magnitude

/-! ## Values -/

/-- A binary64 value. -/
inductive Binary64
  | nan
  | infinite (negative : Bool)
  | finite (negative : Bool) (magnitude : Magnitude)
  deriving DecidableEq, Repr

namespace Binary64

/-- The value nearest to `num / den` units with the given sign; past the
largest finite value it is an infinity. -/
def ofUnits (negative : Bool) (num den : Nat) : Binary64 :=
  match Magnitude.nearest? num den with
  | some m => .finite negative m
  | none => .infinite negative

/-- Positive zero. -/
def zero : Binary64 := .finite false .zero

/-- The value nearest to a whole number. -/
def ofInt (n : Int) : Binary64 :=
  ofUnits (n < 0) (n.natAbs * Magnitude.unitsPerOne) 1

/-- Neither an infinity nor NaN. -/
def isFinite : Binary64 → Bool
  | .finite _ _ => true
  | _ => false

/-- One for `true`, zero for `false`. -/
def ofBool (b : Bool) : Binary64 := ofInt (if b then 1 else 0)

/-- A sign and a count of units as one whole number. -/
def signed (negative : Bool) (units : Nat) : Int :=
  if negative then -(units : Int) else units

/-- The exact sum, rounded once. A sum of zero is negative only if both terms
are. -/
def add : Binary64 → Binary64 → Binary64
  | .nan, _ => .nan
  | _, .nan => .nan
  | .infinite a, .infinite b => if a = b then .infinite a else .nan
  | .infinite a, .finite _ _ => .infinite a
  | .finite _ _, .infinite b => .infinite b
  | .finite a m, .finite b n =>
    let sum := signed a m.units + signed b n.units
    if sum = 0 then .finite (a && b) .zero
    else ofUnits (sum < 0) sum.natAbs 1

instance : Add Binary64 := ⟨add⟩

/-- The product with a positive whole number, rounded once. -/
def scaleBy (k : Nat) : Binary64 → Binary64
  | .finite negative m => ofUnits negative (m.units * k) 1
  | x => x

/-- The whole part, the fraction cut off; `none` for an infinity or NaN. -/
def truncate? : Binary64 → Option Int
  | .finite negative m => some (signed negative (m.units / Magnitude.unitsPerOne))
  | _ => none

/-- The whole number that a value is, if it is one. -/
def whole? : Binary64 → Option Int
  | .finite negative m =>
    if m.units % Magnitude.unitsPerOne = 0 then
      some (signed negative (m.units / Magnitude.unitsPerOne))
    else none
  | _ => none

/-- The 64 bits of the encoding as a number; NaN has its quiet, positive
encoding. -/
def bits : Binary64 → Nat
  | .nan => 2047 * twoTo 52 + twoTo 51
  | .infinite negative => negative.toNat * twoTo 63 + 2047 * twoTo 52
  | .finite negative m => negative.toNat * twoTo 63 + m.scale * twoTo 52 + m.significand

end Binary64

end ShaderGraph
