import ShaderGraph.Text.Hex
import ShaderGraph.Text.Printable
import ShaderGraph.Text.Surrogate

/-!
# Quoted text

A message that shows a text in quotes must show exactly that text. The quotes
are apostrophes, or quotation marks when the text holds apostrophes only. The
quote in use, the backslash and what one cannot print are escaped, the latter by
the shortest of three hexadecimal spellings.
-/

namespace ShaderGraph.Text

/-- The apostrophe. -/
def apostrophe : Char := Char.ofNat 0x27

/-- The quotation mark. -/
def quotationMark : Char := Char.ofNat 0x22

/-- The hexadecimal spelling of a code point. -/
def spelledPoint (n : Nat) : List Char :=
  if n < 0x100 then '\\' :: 'x' :: hexDigits 2 n
  else if n < 0x10000 then '\\' :: 'u' :: hexDigits 4 n
  else '\\' :: 'U' :: hexDigits 8 n

/-- A character inside quotes. -/
def quotedChar (quote c : Char) : List Char :=
  if c = quote ∨ c = '\\' then ['\\', c]
  else if c = '\n' then ['\\', 'n']
  else if c = '\r' then ['\\', 'r']
  else if c = '\t' then ['\\', 't']
  else if isPrintable c then [c]
  else spelledPoint c.toNat

/-- A code point inside quotes. -/
def quotedPoint (quote : Char) (n : Nat) : List Char :=
  if isHalf n then spelledPoint n else quotedChar quote (Char.ofNat n)

/-- The quote a text is put in. -/
def quoteOf (cs : List Char) : Char :=
  if cs.contains apostrophe && !cs.contains quotationMark then quotationMark else apostrophe

/-- A text in quotes. -/
def quoted (text : GivenText) : String :=
  let quote := quoteOf text.replaced.toList
  String.ofList (quote :: text.points.flatMap (quotedPoint quote) ++ [quote])

/-- Several texts in quotes, the last joined by a word: `'a', 'b' or 'c'`. -/
def quotedChoices (word : String) : List String → String
  | [] => ""
  | [a] => quoted a
  | [a, b] => quoted a ++ " " ++ word ++ " " ++ quoted b
  | a :: rest => quoted a ++ ", " ++ quotedChoices word rest

end ShaderGraph.Text
