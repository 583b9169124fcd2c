import ShaderGraph.Text.Surrogate
import ShaderGraph.Text.Utf8

/-!
# Encodings told by their zeros

A JSON text begins with ASCII characters, so in an encoding with units of two or
four bytes some of its first bytes are zero, and which of them tells the encoding.
A text whose bytes were meant in such an encoding is read again in it.
-/

namespace ShaderGraph.Text

/-- An encoding. -/
inductive Encoding
  | utf8
  | utf16 (bigEndian : Bool)
  | utf32 (bigEndian : Bool)
  deriving DecidableEq, Repr

/-- The encoding that the zeros among the first bytes tell of. -/
def Encoding.detect : List Nat → Encoding
  | 0 :: 0 :: _ :: _ :: _ => .utf32 true
  | 0 :: _ :: _ :: _ :: _ => .utf16 true
  | _ :: 0 :: 0 :: 0 :: _ => .utf32 false
  | _ :: 0 :: _ :: _ :: _ => .utf16 false
  | [0, _] => .utf16 true
  | [_, 0] => .utf16 false
  | _ => .utf8

/-- The number that bytes write. -/
def numberOfBytes (bigEndian : Bool) (bytes : List Nat) : Nat :=
  (if bigEndian then bytes else bytes.reverse).foldl (fun n b => 256 * n + b) 0

/-- The units of two bytes; `none` if a byte is left over. -/
def units16? (bigEndian : Bool) : List Nat → Option (List Nat)
  | [] => some []
  | a :: b :: rest => (units16? bigEndian rest).map (numberOfBytes bigEndian [a, b] :: ·)
  | _ => none

/-- The code points of four bytes; `none` if bytes are left over, or a number is no
code point. -/
def units32? (bigEndian : Bool) : List Nat → Option (List Nat)
  | [] => some []
  | a :: b :: c :: d :: rest =>
    let point := numberOfBytes bigEndian [a, b, c, d]
    if 0x10FFFF < point then none else (units32? bigEndian rest).map (point :: ·)
  | _ => none

/-- The byte order mark. -/
def byteOrderMark : Char := Char.ofNat 0xFEFF

/-- The code points that are meant by the bytes of a text; an ill-formed text has no
bytes. A byte order mark says that the bytes are meant as they are, and is dropped. -/
def meant? : GivenText → Option (List Nat)
  | .illFormed _ => none
  | .text text =>
    let cs := text.toList
    if cs.head? = some byteOrderMark then some ((cs.drop 1).map Char.toNat)
    else
      let bs := bytes cs
      match Encoding.detect bs with
      | .utf8 => some (codePoints text)
      | .utf16 bigEndian => (units16? bigEndian bs).map joinPairs
      | .utf32 bigEndian => units32? bigEndian bs

end ShaderGraph.Text
