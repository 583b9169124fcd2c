import ShaderGraph.Text.Hex
import ShaderGraph.Text.Lower
import ShaderGraph.Text.Substitute
import ShaderGraph.Text.Surrogate
import ShaderGraph.Text.Word

/-!
# Hosts

A host is a name, or an address of four or eight numbers. A text that looks like an
address has to be one. A name in ASCII may be anything; the labels of other names
consist of letters, digits and hyphens.
-/

namespace ShaderGraph.Service.Host

/-! ## Addresses of four numbers -/

/-- The states after one more character on the way through four runs of digits with
any one character between two runs. An odd state is inside a run. -/
def addressStates (states : List Nat) (c : Char) : List Nat :=
  let next (state : Nat) : List Nat :=
    (if !c.isDigit then [] else if state % 2 = 0 then [state + 1] else [state])
      ++ (if state % 2 = 1 && state < 7 then [state + 1] else [])
  (states.flatMap next).eraseDups

/-- The text looks like an address of four numbers. -/
def looksNumeric (cs : List Char) : Bool := (cs.foldl addressStates [0]).contains 7

/-- A number of one byte, without zeros in front. -/
def isByte (cs : List Char) : Bool :=
  !cs.isEmpty && cs.length ≤ 3 && cs.all Char.isDigit
    && (cs = ['0'] || cs.head? ≠ some '0')
    && cs.foldl (fun n c => 10 * n + (c.toNat - 0x30)) 0 ≤ 255

/-- An address of four numbers. -/
def isAddress4 (cs : List Char) : Bool :=
  let parts := Text.pieces '.' cs
  parts.length = 4 && parts.all isByte

/-! ## Addresses of eight numbers -/

/-- A number of two bytes. -/
def isHextet (cs : List Char) : Bool :=
  !cs.isEmpty && cs.length ≤ 4 && cs.all (Text.hexDigitValue? · |>.isSome)

/-- The parts between colons, where an address of four numbers at the end counts as
two parts; `none` if that is no such address. -/
def hextets? (cs : List Char) : Option (List (List Char)) :=
  let parts := Text.pieces ':' cs
  let last := parts.getLastD []
  if !last.contains '.' then some parts
  else if isAddress4 last then some (parts.dropLast ++ [['0'], ['0']])
  else none

/-- The places inside where nothing stands between two colons. -/
def gaps (parts : List (List Char)) : List Nat :=
  (List.range parts.length).filter fun i =>
    0 < i && i + 1 < parts.length && (parts.getD i []).isEmpty

/-- The parts on one side of a gap: numbers, or nothing where the gap is at an end
of the address. -/
def isSide (parts : List (List Char)) : Bool := parts = [[]] || parts.all isHextet

/-- Eight numbers, of which one run may be left out. -/
def isHextets (parts : List (List Char)) : Bool :=
  match gaps parts with
  | [] => parts.length = 8 && parts.all isHextet
  | [gap] =>
    let front := parts.take gap
    let back := parts.drop (gap + 1)
    let count (side : List (List Char)) : Nat := (side.filter (!·.isEmpty)).length
    isSide front && isSide back && count front + count back ≤ 7
  | _ => false

/-- An address of eight numbers, with or without the name of a scope. -/
def isAddress6 (cs : List Char) : Bool :=
  let (address, scopeHolds) :=
    match Text.cut? '%' cs with
    | none => (cs, true)
    | some (address, scope) => (address, !scope.isEmpty && !scope.contains '%')
  match hextets? address with
  | none => false
  | some parts =>
    scopeHolds && !address.contains '/' && 3 ≤ (Text.pieces ':' address).length
      && parts.length ≤ 9 && isHextets parts

/-! ## Names -/

/-- The dots of all scripts. -/
def isDot (c : Char) : Bool := [0x2E, 0x3002, 0xFF0E, 0xFF61].contains c.toNat

/-- A character of a label. -/
def isLabelChar (c : Char) : Bool :=
  if c.toNat < 0x80 then c.isLower || c.isDigit || c = '-' else Text.isWord c

/-- A label of a name beyond ASCII. -/
def isLabel (cs : List Char) : Bool :=
  !cs.isEmpty && cs.all isLabelChar && cs.head? ≠ some '-' && cs.getLast? ≠ some '-'
    && (cs.drop 2).take 2 ≠ ['-', '-']

/-- The labels of a name; a dot may stand at its end. -/
def labels (cs : List Char) : List (List Char) :=
  let parts := Text.pieces '.' (cs.map fun c => if isDot c then '.' else c)
  if parts.getLastD [] = [] then parts.dropLast else parts

/-- The text is a host. The empty text is none, and is allowed. -/
def isValid (cs : List Char) : Bool :=
  if looksNumeric cs then isAddress4 cs
  else if cs.head? = some '[' && 1 < cs.length && cs.getLast? = some ']' then
    isAddress6 ((cs.drop 1).dropLast)
  else if cs.all (·.toNat < 0x80) then true
  else
    let names := labels (Text.lower (String.ofList cs)).toList
    !names.isEmpty && names.all isLabel

end ShaderGraph.Service.Host
