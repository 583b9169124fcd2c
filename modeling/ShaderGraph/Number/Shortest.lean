import ShaderGraph.Number.Binary64

/-!
# Shortest decimals — a number's text that reads back

A raw number in a message is written with the fewest digits that still round to
it, and of those with the nearest. The search is by exact arithmetic: for one
digit, two digits and so on it tries the two neighbours of the value on that
decimal grid, and stops at the first that lies in the value's rounding interval.
Seventeen digits always do.
-/

namespace ShaderGraph

/-- A positive decimal `digits * 10 ^ power`. -/
structure Numeral where
  digits : Nat
  power : Int
  deriving DecidableEq, Repr

namespace Numeral

/-- The numeral without zeros at its end. Fuel is the number of digits. -/
def strippedWithin : Nat → Numeral → Numeral
  | 0, n => n
  | fuel + 1, n =>
    if n.digits % 10 = 0 ∧ n.digits ≠ 0 then
      strippedWithin fuel ⟨n.digits / 10, n.power + 1⟩
    else n

/-- The numeral without zeros at its end. -/
def stripped (n : Numeral) : Numeral :=
  strippedWithin (toString n.digits).length n

end Numeral

namespace Magnitude

/-! ## Quarter units

The ends of a rounding interval lie half a step of the significand away, or a
quarter where the steps below are half as wide. Counting in quarters of a unit
keeps them whole. -/

/-- The size in quarter units. -/
def quarters (m : Magnitude) : Nat := 4 * m.units

/-- The lower end of the interval that rounds to the magnitude. -/
def lowerQuarters (m : Magnitude) : Nat :=
  if m.significand = twoTo 52 ∧ 0 < m.scale then m.quarters - twoTo m.scale
  else m.quarters - 2 * twoTo m.scale

/-- The upper end. -/
def upperQuarters (m : Magnitude) : Nat := m.quarters + 2 * twoTo m.scale

/-- How many quarter units make one. -/
def quartersPerOne : Nat := 4 * unitsPerOne

/-- A numeral compared with a number of quarter units: both sides of
`digits * 10 ^ power ? quarters`, scaled to whole numbers. -/
def scaled (n : Numeral) (quarters : Nat) : Nat × Nat :=
  if 0 ≤ n.power then (n.digits * tenTo n.power.toNat * quartersPerOne, quarters)
  else (n.digits * quartersPerOne, quarters * tenTo (-n.power).toNat)

/-- A numeral rounds to the magnitude. The ends of the interval do so exactly
when the significand is even. -/
def admits (m : Magnitude) (n : Numeral) : Bool :=
  let low := scaled n m.lowerQuarters
  let high := scaled n m.upperQuarters
  if m.significand % 2 = 0 then low.2 ≤ low.1 && high.1 ≤ high.2
  else low.2 < low.1 && high.1 < high.2

/-- The distance of a numeral from the magnitude, on the scale of `scaled`. -/
def distance (m : Magnitude) (n : Numeral) : Nat :=
  let (a, b) := scaled n m.quarters
  (a - b) + (b - a)

/-- The power of ten of the leading digit. -/
def leadingPower (m : Magnitude) : Int :=
  let whole := m.units / unitsPerOne
  if 0 < whole then (toString whole).length - 1
  else
    match (List.range 330).find? fun j => unitsPerOne ≤ m.units * tenTo (j + 1) with
    | some j => -(j + 1 : Int)
    | none => 0

/-- The largest multiple of `10 ^ power` that is not above the magnitude. -/
def floorNumeral (m : Magnitude) (power : Int) : Numeral :=
  if 0 ≤ power then ⟨m.units / (unitsPerOne * tenTo power.toNat), power⟩
  else ⟨m.units * tenTo (-power).toNat / unitsPerOne, power⟩

/-- A numeral of the given number of digits that rounds to the magnitude: the
nearer of its two neighbours, the even one of two equally near. -/
def withDigits? (m : Magnitude) (count : Nat) : Option Numeral :=
  let below := m.floorNumeral (m.leadingPower - count + 1)
  let above : Numeral := ⟨below.digits + 1, below.power⟩
  match m.admits below, m.admits above with
  | false, false => none
  | true, false => some below
  | false, true => some above
  | true, true =>
    let (down, up) := (m.distance below, m.distance above)
    if down < up ∨ (down = up ∧ below.digits % 2 = 0) then some below else some above

/-- The shortest numeral that rounds to the magnitude, without zeros at its
end. -/
def shortest (m : Magnitude) : Numeral :=
  let found := (List.range 17).findSome? fun count => m.withDigits? (count + 1)
  (found.getD ⟨0, 0⟩).stripped

end Magnitude

/-! ## The text of a number in a message -/

/-- Digits with a point after the first `whole` of them, zeros filled in where
there are too few. -/
def pointed (digits : List Char) (whole : Int) : List Char :=
  if whole ≤ 0 then '0' :: '.' :: (List.replicate (-whole).toNat '0' ++ digits)
  else if digits.length ≤ whole.toNat then
    digits ++ List.replicate (whole.toNat - digits.length) '0' ++ ['.', '0']
  else digits.take whole.toNat ++ '.' :: digits.drop whole.toNat

/-- Digits with a point after the first, and an exponent of two digits at
least. -/
def scientific (digits : List Char) (exponent : Int) : List Char :=
  let mantissa :=
    match digits with
    | first :: second :: rest => first :: '.' :: second :: rest
    | short => short
  let size := toString exponent.natAbs
  let padded := if size.length < 2 then "0" ++ size else size
  mantissa ++ 'e' :: (if exponent < 0 then '-' else '+') :: padded.toList

/-- The text of a magnitude: positional from `10 ^ -4` up to `10 ^ 16`,
scientific elsewhere. -/
def Magnitude.display (m : Magnitude) : String :=
  if m.units = 0 then "0.0"
  else
    let n := m.shortest
    let digits := (toString n.digits).toList
    let leading := n.power + digits.length - 1
    String.ofList <|
      if -4 ≤ leading ∧ leading < 16 then pointed digits (leading + 1)
      else scientific digits leading

/-- The text of a number in a message. -/
def Binary64.display : Binary64 → String
  | .nan => "nan"
  | .infinite negative => if negative then "-inf" else "inf"
  | .finite negative m => (if negative then "-" else "") ++ m.display

end ShaderGraph
