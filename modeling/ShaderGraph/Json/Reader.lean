import ShaderGraph.Json.Basic
import ShaderGraph.Number.Decimal
import ShaderGraph.Number.Whole
import ShaderGraph.Text.Hex

/-!
# Reading JSON

The grammar is the strict one of the standard, with two additions: `NaN`,
`Infinity` and `-Infinity` are numbers. A name that occurs twice in an object
keeps its first place and takes its last value.

A text is read by its code points, for half of a surrogate pair may stand among
them. A `Dialect` says how far a reader goes along with a text. The strict one is for
documents; the tolerant one lets text with half of a surrogate pair pass, and
reads deeper. Both refuse whole numbers with very many digits.
-/

namespace ShaderGraph.Json

/-! ## Dialects -/

/-- How far a reader goes along with a text. -/
structure Dialect where
  /-- Half of a surrogate pair may stand alone in a text. -/
  loneHalves : Bool
  /-- Lists and objects lie no deeper inside one another than this. -/
  maxNesting : Nat
  /-- Empty lists and objects count for the nesting as well. -/
  countsEmpty : Bool
  /-- The bound on the digits of whole numbers also holds for the digits in front
  of a point or a power. -/
  boundsAllDigits : Bool

/-- The dialect of documents. -/
def Dialect.strict : Dialect := ⟨false, 200, false, true⟩

/-- The dialect of settings and of the bodies of requests. -/
def Dialect.tolerant : Dialect := ⟨true, 960, true, false⟩

/-- Why a text cannot be read. -/
inductive ReadFault
  /-- The text breaks the grammar. -/
  | malformed
  | tooManyDigits
  | tooDeep
  deriving DecidableEq, Repr

/-! ## Marks and blanks

The code points to which the grammar gives a meaning, as patterns. The readers match on
code points, since the halves of surrogate pairs among them are no characters. -/

namespace Mark

@[match_pattern] abbrev quote : Nat := 0x22
@[match_pattern] abbrev comma : Nat := 0x2C
@[match_pattern] abbrev colon : Nat := 0x3A
@[match_pattern] abbrev openList : Nat := 0x5B
@[match_pattern] abbrev backslash : Nat := 0x5C
@[match_pattern] abbrev closeList : Nat := 0x5D
@[match_pattern] abbrev unitLetter : Nat := 0x75
@[match_pattern] abbrev openObject : Nat := 0x7B
@[match_pattern] abbrev closeObject : Nat := 0x7D

end Mark

/-- The four blanks of the grammar. -/
def isGap (n : Nat) : Bool := n == 0x20 || n == 0x09 || n == 0x0A || n == 0x0D

/-- What follows the blanks in front. -/
def skipGap (ns : List Nat) : List Nat := ns.dropWhile isGap

/-! ## Text -/

/-- The character a one-letter escape stands for. -/
def escaped? : Nat → Option Nat
  | 0x22 => some 0x22
  | 0x5C => some 0x5C
  | 0x2F => some 0x2F
  | 0x62 => some 0x08
  | 0x66 => some 0x0C
  | 0x6E => some 0x0A
  | 0x72 => some 0x0D
  | 0x74 => some 0x09
  | _ => none

/-- The unit that four hexadecimal digits spell. -/
def unit? (a b c d : Nat) : Option Nat := do
  let a ← Text.hexDigitValue? (Char.ofNat a)
  let b ← Text.hexDigitValue? (Char.ofNat b)
  let c ← Text.hexDigitValue? (Char.ofNat c)
  let d ← Text.hexDigitValue? (Char.ofNat d)
  some (4096 * a + 256 * b + 16 * c + d)

/-- A unit that was escaped, in front of code points that were read from a text. Two
halves make a pair if the second was escaped as well. -/
def joinUnit (unit : Nat) (text points : List Nat) : List Nat :=
  match points with
  | low :: rest =>
    if Text.isHighHalf unit && Text.isLowHalf low && text.head? = some Mark.backslash then
      Text.pairPoint unit low :: rest
    else unit :: points
  | [] => [unit]

/-- The code points of a text up to its closing quote, and what follows it. -/
def readUntilQuote? : List Nat → Option (List Nat × List Nat)
  | [] => none
  | Mark.backslash :: Mark.unitLetter :: a :: b :: c :: d :: ns => do
    let unit ← unit? a b c d
    let (points, rest) ← readUntilQuote? ns
    some (joinUnit unit ns points, rest)
  | Mark.backslash :: e :: ns => do
    let point ← escaped? e
    let (points, rest) ← readUntilQuote? ns
    some (point :: points, rest)
  | n :: ns =>
    if n = Mark.quote then some ([], ns)
    else if n < 0x20 ∨ n = Mark.backslash then none
    else do
      let (points, rest) ← readUntilQuote? ns
      some (n :: points, rest)

/-- The code points of a text after its opening quote. -/
def readText (d : Dialect) (ns : List Nat) : Except ReadFault (List Nat × List Nat) :=
  match readUntilQuote? ns with
  | none => .error .malformed
  | some (points, rest) =>
    if d.loneHalves || Text.isWellFormed points then .ok (points, rest) else .error .malformed

/-! ## Numbers -/

/-- What follows a word in front. -/
def after? (word : String) (cs : List Char) : Option (List Char) :=
  if word.toList.isPrefixOf cs then some (cs.drop word.length) else none

/-- The fractional digits after a point; none without a point. -/
def readFraction? : List Char → Option (Option (List Char) × List Char)
  | '.' :: cs =>
    let (digits, rest) := spanDigits cs
    if digits.isEmpty then none else some (some digits, rest)
  | cs => some (none, cs)

/-- The power of ten after an `e`; none without one. -/
def readPower? : List Char → Option (Option Int × List Char)
  | [] => some (none, [])
  | e :: cs =>
    if e = 'e' ∨ e = 'E' then
      let (negative, cs) := spanSign cs
      let (digits, rest) := spanDigits cs
      if digits.isEmpty then none
      else some (some (Binary64.signed negative (digitsValue digits)), rest)
    else some (none, e :: cs)

/-- The digits after the point and the power of ten of a number, where either is
written, and what follows them. -/
def readScale? (cs : List Char) : Option (Option (List Char × Int) × List Char) := do
  let (fraction, rest) ← readFraction? cs
  let (power, rest) ← readPower? rest
  let scale := if fraction.isNone && power.isNone then none else some (fraction.getD [], power.getD 0)
  some (scale, rest)

/-- An unsigned number and what follows it. With neither a fraction nor a power
it is a whole number. -/
def readUnsigned (d : Dialect) (negative : Bool) (cs : List Char) :
    Except ReadFault (Json × List Char) :=
  let (whole, rest) := spanDigits cs
  let tooLong := Whole.maxDigits < whole.length
  if whole.isEmpty || (whole.head? = some '0' && 1 < whole.length) then .error .malformed
  else
    match readScale? rest with
    | none => .error (if tooLong then .tooManyDigits else .malformed)
    | some (none, rest) =>
      if tooLong then .error .tooManyDigits
      else .ok (.int (Binary64.signed negative (digitsValue whole)), rest)
    | some (some (places, power), rest) =>
      if tooLong && d.boundsAllDigits then .error .tooManyDigits
      else
        let decimal : Decimal := ⟨negative, digitsValue (whole ++ places), power - places.length⟩
        .ok (.float decimal.value, rest)

/-- A number and what follows it. -/
def readNumber (d : Dialect) (cs : List Char) : Except ReadFault (Json × List Char) :=
  match cs with
  | '-' :: rest =>
    match after? "Infinity" rest with
    | some rest => .ok (.float (.infinite true), rest)
    | none => readUnsigned d true rest
  | _ => readUnsigned d false cs

/-- A value without parts, other than text, and what follows it. -/
def readAtom (d : Dialect) (cs : List Char) : Except ReadFault (Json × List Char) :=
  let words : List (String × Json) :=
    [("null", .null), ("true", .bool true), ("false", .bool false), ("NaN", .float .nan),
      ("Infinity", .float (.infinite false))]
  match words.findSome? fun w => (after? w.1 cs).map (w.2, ·) with
  | some found => .ok found
  | none => readNumber d cs

/-- What words and numbers are made of: letters, digits, signs and the point. -/
def isAtomPoint (n : Nat) : Bool :=
  let c := Char.ofNat n
  c.isAlphanum || c == '+' || c == '-' || c == '.'

/-! ## Values -/

mutual

/-- A value and what follows it. There is room for `room` lists and objects
inside one another. The fuel bounds the nesting and the number of parts; the
length of the text is enough. -/
def readValue (d : Dialect) : Nat → Nat → List Nat → Except ReadFault (Json × List Nat)
  | 0, _, _ => .error .malformed
  | fuel + 1, room, ns =>
    match skipGap ns with
    | Mark.openList :: ns =>
      match skipGap ns with
      | Mark.closeList :: ns =>
        if d.countsEmpty && room = 0 then .error .tooDeep else .ok (.list [], ns)
      | ns =>
        if room = 0 then .error .tooDeep
        else (readItems d fuel (room - 1) ns).map fun (items, rest) => (.list items, rest)
    | Mark.openObject :: ns =>
      match skipGap ns with
      | Mark.closeObject :: ns =>
        if d.countsEmpty && room = 0 then .error .tooDeep else .ok (.object [], ns)
      | ns =>
        if room = 0 then .error .tooDeep
        else
          (readFields d fuel (room - 1) ns).map fun (fields, rest) =>
            (.object (Keyed.gather fields), rest)
    | Mark.quote :: ns => (readText d ns).map fun (points, rest) => (.ofPoints points, rest)
    | ns =>
      let atom := (ns.takeWhile isAtomPoint).map Char.ofNat
      (readAtom d atom).map fun (value, left) =>
        (value, left.map Char.toNat ++ ns.dropWhile isAtomPoint)

/-- The items of a list up to its closing bracket. -/
def readItems (d : Dialect) : Nat → Nat → List Nat → Except ReadFault (List Json × List Nat)
  | 0, _, _ => .error .malformed
  | fuel + 1, room, ns => do
    let (item, rest) ← readValue d fuel room ns
    match skipGap rest with
    | Mark.comma :: rest =>
      let (items, rest) ← readItems d fuel room rest
      .ok (item :: items, rest)
    | Mark.closeList :: rest => .ok ([item], rest)
    | _ => .error .malformed

/-- The fields of an object up to its closing brace. -/
def readFields (d : Dialect) :
    Nat → Nat → List Nat → Except ReadFault (List (GivenText × Json) × List Nat)
  | 0, _, _ => .error .malformed
  | fuel + 1, room, ns =>
    match skipGap ns with
    | Mark.quote :: ns => do
      let (points, rest) ← readText d ns
      let name := GivenText.ofPoints points
      match skipGap rest with
      | Mark.colon :: rest =>
        let (value, rest) ← readValue d fuel room rest
        match skipGap rest with
        | Mark.comma :: rest =>
          let (fields, rest) ← readFields d fuel room rest
          .ok ((name, value) :: fields, rest)
        | Mark.closeObject :: rest => .ok ([(name, value)], rest)
        | _ => .error .malformed
      | _ => .error .malformed
    | _ => .error .malformed

end

/-- The value that code points spell. -/
def readPoints (d : Dialect) (points : List Nat) : Except ReadFault Json := do
  let (value, rest) ← readValue d (points.length + 1) d.maxNesting points
  if (skipGap rest).isEmpty then .ok value else .error .malformed

/-- The value a text spells. -/
def read (d : Dialect) (text : String) : Except ReadFault Json := readPoints d (Text.codePoints text)

end ShaderGraph.Json
