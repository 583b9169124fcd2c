/-!
# UTF-8 with replacement

Bytes that are no UTF-8 can still be shown: each longest start of a character
that breaks off, and each byte that starts none, becomes one U+FFFD.
-/

namespace ShaderGraph.Text

/-- What the first byte of a character asks for: the range of the second byte,
how many bytes follow that one, and the bits the first byte gives. -/
structure Lead where
  low : Nat
  high : Nat
  more : Nat
  bits : Nat

/-- The demands of a first byte beyond ASCII, if it is one. -/
def lead? (b : Nat) : Option Lead :=
  if b < 0xC2 then none
  else if b < 0xE0 then some ⟨0x80, 0xBF, 0, b - 0xC0⟩
  else if b = 0xE0 then some ⟨0xA0, 0xBF, 1, 0⟩
  else if b = 0xED then some ⟨0x80, 0x9F, 1, b - 0xE0⟩
  else if b < 0xF0 then some ⟨0x80, 0xBF, 1, b - 0xE0⟩
  else if b = 0xF0 then some ⟨0x90, 0xBF, 2, 0⟩
  else if b < 0xF4 then some ⟨0x80, 0xBF, 2, b - 0xF0⟩
  else if b = 0xF4 then some ⟨0x80, 0x8F, 2, b - 0xF0⟩
  else none

/-- The character that stands for broken bytes. -/
def replacementChar : Char := Char.ofNat 0xFFFD

/-- The bytes that continue a character: each but the first lies between 0x80 and
0xBF. -/
def continuation (lead : Lead) (rest : List Nat) : List Nat :=
  match rest with
  | [] => []
  | second :: rest =>
    if lead.low ≤ second ∧ second ≤ lead.high then
      second :: (rest.take lead.more).takeWhile fun b => 0x80 ≤ b && b ≤ 0xBF
    else []

/-- The text of bytes, with replacement. -/
def ofBytes : List Nat → List Char
  | [] => []
  | b :: rest =>
    if b < 0x80 then Char.ofNat b :: ofBytes rest
    else
      match lead? b with
      | none => replacementChar :: ofBytes rest
      | some lead =>
        let tail := continuation lead rest
        let code := tail.foldl (fun n b => n * 0x40 + (b - 0x80)) lead.bits
        let c := if tail.length = lead.more + 1 then Char.ofNat code else replacementChar
        c :: ofBytes (rest.drop tail.length)
termination_by bytes => bytes.length
decreasing_by
  all_goals simp only [List.length_cons, List.length_drop]; omega

/-- The bytes of a text. -/
def bytes (cs : List Char) : List Nat :=
  cs.flatMap fun c => (String.utf8EncodeChar c).map UInt8.toNat

end ShaderGraph.Text
