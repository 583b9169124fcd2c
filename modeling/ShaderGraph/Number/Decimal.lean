import ShaderGraph.Number.Binary64
import ShaderGraph.Text.Blank

/-!
# Decimals — numbers as they are written

`Decimal` is what a numeral says: a sign, a whole number of digits and a power
of ten. `Decimal.value` is the binary64 value nearest to it.

`Decimal.readField?` reads the text of a number field. It is wider than a JSON
numeral: blanks around it, a leading `+`, a missing whole or fractional part,
the names of the infinities and NaN, and single underscores between its
characters.
-/

namespace ShaderGraph

/-- A signed decimal `± digits * 10 ^ exponent`. -/
structure Decimal where
  negative : Bool
  digits : Nat
  exponent : Int
  deriving DecidableEq, Repr

namespace Decimal

/-- The binary64 value nearest to a decimal, ties to even.

Two shortcuts keep absurd exponents cheap and change nothing: past `10 ^ 400`
every value is infinite, and below `10 ^ -400` every value is zero. -/
def value (d : Decimal) : Binary64 :=
  if d.digits = 0 then .finite d.negative .zero
  else if 400 < d.exponent then .infinite d.negative
  else if d.exponent + (d.digits.log2 + 1) < -400 then .finite d.negative .zero
  else if 0 ≤ d.exponent then
    .ofUnits d.negative (d.digits * tenTo d.exponent.toNat * Magnitude.unitsPerOne) 1
  else
    .ofUnits d.negative (d.digits * Magnitude.unitsPerOne) (tenTo (-d.exponent).toNat)

end Decimal

instance : OfScientific Binary64 where
  ofScientific digits negativeExponent exponent :=
    Decimal.value ⟨false, digits, if negativeExponent then -(exponent : Int) else exponent⟩

/-! ## Digits -/

/-- The value of a digit among `0` to `9`. -/
def digitValue (c : Char) : Nat := c.toNat - '0'.toNat

/-- The number a run of digits spells. -/
def digitsValue (cs : List Char) : Nat :=
  cs.foldl (fun n c => 10 * n + digitValue c) 0

/-- A run of digits and what follows it. -/
def spanDigits (cs : List Char) : List Char × List Char :=
  (cs.takeWhile Char.isDigit, cs.dropWhile Char.isDigit)

/-- A sign, if one stands in front, and what follows it. -/
def spanSign : List Char → Bool × List Char
  | '-' :: cs => (true, cs)
  | '+' :: cs => (false, cs)
  | cs => (false, cs)

namespace Decimal

/-- The power of ten after an `e`, to the end of the text; no `e` means zero. -/
def readExponent? : List Char → Option Int
  | [] => some 0
  | e :: cs =>
    if e = 'e' ∨ e = 'E' then
      let (negative, cs) := spanSign cs
      let (digits, rest) := spanDigits cs
      if digits.isEmpty || !rest.isEmpty then none
      else some (Binary64.signed negative (digitsValue digits))
    else
      none

/-- An unsigned numeral: digits with or without a point, at least one digit,
then an exponent. -/
def readUnsigned? (negative : Bool) (cs : List Char) : Option Decimal :=
  let (whole, rest) := spanDigits cs
  let (fraction, rest) :=
    match rest with
    | '.' :: rest => spanDigits rest
    | rest => ([], rest)
  if whole.isEmpty && fraction.isEmpty then none
  else
    (readExponent? rest).map fun e =>
      ⟨negative, digitsValue (whole ++ fraction), e - fraction.length⟩

/-- A number's whole text: a numeral, or the name of an infinity or of NaN in
any case. -/
def readNumber? (cs : List Char) : Option Binary64 :=
  let (negative, rest) := spanSign cs
  let word := String.ofList (rest.map Char.toLower)
  if word = "inf" ∨ word = "infinity" then some (.infinite negative)
  else if word = "nan" then some .nan
  else (readUnsigned? negative rest).map value

/-- The text without its underscores, where each of them stands alone between
two characters. -/
def withoutUnderscores? (cs : List Char) : Option (List Char) :=
  let doubled := (cs.zip (cs.drop 1)).any fun p => p.1 = '_' && p.2 = '_'
  if cs.head? = some '_' ∨ cs.getLast? = some '_' ∨ doubled then none
  else some (cs.filter (· ≠ '_'))

/-- The text of a number field. The text without the blanks around it is tried
first, the text without its underscores second. -/
def readField? (text : String) : Option Binary64 :=
  let cs := text.toList
  match readNumber? (Text.trimWith Text.isSpace cs) with
  | some x => some x
  | none => (withoutUnderscores? cs).bind readNumber?

end Decimal

end ShaderGraph
