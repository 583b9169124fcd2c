import ShaderGraph.Text.Hex
import ShaderGraph.Text.Utf8

/-!
# Percent-encoded text

A percent sign and two hexadecimal digits stand for a byte. A percent sign
without them stands for itself.
-/

namespace ShaderGraph.Text

/-- The bytes of a percent-encoded text. -/
def percentBytes : List Char → List Nat
  | [] => []
  | '%' :: a :: b :: cs =>
    match hexDigitValue? a, hexDigitValue? b with
    | some high, some low => (16 * high + low) :: percentBytes cs
    | _, _ => bytes ['%'] ++ percentBytes (a :: b :: cs)
  | c :: cs => bytes [c] ++ percentBytes cs

/-- The text that a percent-encoded text stands for. -/
def percentDecode (cs : List Char) : List Char := ofBytes (percentBytes cs)

/-- The text that a part of a query stands for, where a plus sign is a blank. -/
def formDecode (cs : List Char) : List Char :=
  percentDecode (cs.map fun c => if c = '+' then ' ' else c)

end ShaderGraph.Text
