import ShaderGraph.Text.Blank
import ShaderGraph.Text.Digit

/-!
# Whole numbers as text

White space around the number does not count. A sign may stand in front, the
digits may be of any script, and single underscores may divide them.
-/

namespace ShaderGraph.Whole

/-- A number has no more digits than this. -/
def maxDigits : Nat := 4300

/-- The digits of a number, in order. `inside` says that a digit stands in
front, so that an underscore may follow. -/
def digits? : Bool → List Char → Option (List Nat)
  | inside, [] => if inside then some [] else none
  | inside, c :: cs =>
    if c = '_' then if inside then digits? false cs else none
    else do
      let digit ← Text.decimalDigit? c
      let digits ← digits? true cs
      some (digit :: digits)

/-- The value of digits. -/
def value (digits : List Nat) : Nat := digits.foldl (fun n d => 10 * n + d) 0

/-- A number without its sign. -/
def unsigned? (cs : List Char) : Option Nat := do
  let digits ← digits? false cs
  if maxDigits < digits.length then none else some (value digits)

/-- The number a text spells. -/
def read? (text : String) : Option Int :=
  match Text.trimWith Text.isSpace text.toList with
  | '-' :: cs => (unsigned? cs).map fun n => -(n : Int)
  | '+' :: cs => (unsigned? cs).map Int.ofNat
  | cs => (unsigned? cs).map Int.ofNat

end ShaderGraph.Whole
