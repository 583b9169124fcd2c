/-!
# Surrogates

The code points from 0xD800 to 0xDFFF are halves of pairs, and a pair spells one
character beyond 0xFFFF. A half that stands alone is no character, yet a text
can be written with one. Such a text is *ill-formed*, and most readers refuse it.

`GivenText` is a text as it is given from outside: characters, or the code points
of an ill-formed text.
-/

namespace ShaderGraph

namespace Text

/-! ## Code points -/

/-- The first half of a pair. -/
def isHighHalf (n : Nat) : Bool := 0xD800 ≤ n && n < 0xDC00

/-- The second half of a pair. -/
def isLowHalf (n : Nat) : Bool := 0xDC00 ≤ n && n < 0xE000

/-- Half of a pair. -/
def isHalf (n : Nat) : Bool := isHighHalf n || isLowHalf n

/-- The code point that a pair spells. -/
def pairPoint (high low : Nat) : Nat := 0x10000 + (high - 0xD800) * 0x400 + (low - 0xDC00)

/-- Code points with every pair joined. -/
def joinPairs : List Nat → List Nat
  | [] => []
  | [a] => [a]
  | a :: b :: rest =>
    if isHighHalf a && isLowHalf b then pairPoint a b :: joinPairs rest
    else a :: joinPairs (b :: rest)

/-- No half stands alone, where pairs have been joined. -/
def isWellFormed (points : List Nat) : Bool := points.all (!isHalf ·)

/-- The code points of a text. -/
def codePoints (text : String) : List Nat := text.toList.map Char.toNat

/-- The text of code points that are characters. -/
def ofPoints (points : List Nat) : String := String.ofList (points.map Char.ofNat)

/-- What stands where there should be a character and is none. -/
def replacement : Char := Char.ofNat 0xFFFD

end Text

/-! ## Texts from outside -/

/-- A text as it is given from outside. -/
inductive GivenText
  | text (value : String)
  | illFormed (points : List Nat)
  deriving DecidableEq, Repr

namespace GivenText

instance : Coe String GivenText := ⟨.text⟩

/-- The text of code points. -/
def ofPoints (points : List Nat) : GivenText :=
  if Text.isWellFormed points then .text (Text.ofPoints points) else .illFormed points

/-- The code points of the text. -/
def points : GivenText → List Nat
  | .text s => Text.codePoints s
  | .illFormed points => points

/-- The text with a replacement for each half that stands alone. -/
def replaced : GivenText → String
  | .text s => s
  | .illFormed points =>
    String.ofList (points.map fun n => if Text.isHalf n then Text.replacement else Char.ofNat n)

/-- The text as it is shown where only characters can be: each of the three bytes
that a half would have in UTF-8 is shown as a replacement. -/
def shown : GivenText → String
  | .text s => s
  | .illFormed points =>
    String.ofList <| points.flatMap fun n =>
      if Text.isHalf n then List.replicate 3 Text.replacement else [Char.ofNat n]

/-- The text is well formed. -/
def isText : GivenText → Bool
  | .text _ => true
  | .illFormed _ => false

/-- There is nothing in the text. -/
def isEmpty : GivenText → Bool
  | .text s => s.isEmpty
  | .illFormed _ => false

end GivenText

end ShaderGraph
