import ShaderGraph.Number.Binary64

/-!
# Fixed places — numbers as a program prints them

A number is printed with a fixed count of decimal places, rounded from its
exact value with ties away from zero. The sign of the value is kept even when
nothing else is left of it, so minus zero prints as `-0.00`.
-/

namespace ShaderGraph

/-- How many `10 ^ -places` are nearest to a magnitude, ties to the larger. -/
def Magnitude.steps (m : Magnitude) (places : Nat) : Nat :=
  nearestUp (m.units * tenTo places) Magnitude.unitsPerOne

/-- The last `places` digits of a number, zeros in front where it has fewer. -/
def fractionDigits (places n : Nat) : String :=
  let digits := toString (n % tenTo places)
  String.ofList (List.replicate (places - digits.length) '0') ++ digits

/-- A count of `10 ^ -places` written out: the whole part, a point, and the
places. -/
def fixedText (places n : Nat) : String :=
  toString (n / tenTo places) ++ "." ++ fractionDigits places n

/-- A number with fixed places. `none` for an infinity and for a number that
would take more than `width` digits. -/
def Binary64.fixed? (places width : Nat) : Binary64 → Option String
  | .nan => some "NaN"
  | .infinite _ => none
  | .finite negative m =>
    let n := m.steps places
    if n < tenTo width then some ((if negative then "-" else "") ++ fixedText places n)
    else none

end ShaderGraph
