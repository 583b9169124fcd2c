/-!
# Blank characters

Two sets of blanks are in use. `isSpace` is the White_Space property, which
number fields trim. `isBlank` adds the four information separators U+001C to
U+001F; the names of kinds and the templates are cut at those.
-/

namespace ShaderGraph.Text

/-- A character with the White_Space property. -/
def isSpace (c : Char) : Bool :=
  let n := c.toNat
  (9 ≤ n && n ≤ 13) || n == 0x20 || n == 0x85 || n == 0xA0 || n == 0x1680
    || (0x2000 ≤ n && n ≤ 0x200A) || n == 0x2028 || n == 0x2029 || n == 0x202F
    || n == 0x205F || n == 0x3000

/-- White space or an information separator. -/
def isBlank (c : Char) : Bool :=
  isSpace c || (0x1C ≤ c.toNat && c.toNat ≤ 0x1F)

/-- The text without the characters of a class at its two ends. -/
def trimWith (p : Char → Bool) (cs : List Char) : List Char :=
  ((cs.dropWhile p).reverse.dropWhile p).reverse

/-- Every run of blanks replaced by one text.

`inRun` says that the run in front has been replaced already. -/
def replaceBlanks (replacement : List Char) : Bool → List Char → List Char
  | _, [] => []
  | inRun, c :: cs =>
    if isBlank c then
      if inRun then replaceBlanks replacement true cs
      else replacement ++ replaceBlanks replacement true cs
    else
      c :: replaceBlanks replacement false cs

/-- The text without the blanks at its two ends. -/
def strip (text : String) : String :=
  String.ofList (trimWith isBlank text.toList)

end ShaderGraph.Text
