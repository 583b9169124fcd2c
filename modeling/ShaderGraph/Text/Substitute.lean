/-!
# Substitution — finding, replacing and cutting a text in a text

Occurrences are taken from left to right and do not overlap.
-/

namespace ShaderGraph.Text

/-- The target occurs in the text. -/
def occurs (target : List Char) : List Char → Bool
  | [] => target.isEmpty
  | c :: cs => target.isPrefixOf (c :: cs) || occurs target cs

/-- Every occurrence of the target replaced. `skip` characters of an occurrence
already replaced are still to be passed over. -/
def replaceFrom (target replacement : List Char) : Nat → List Char → List Char
  | _, [] => []
  | skip + 1, _ :: cs => replaceFrom target replacement skip cs
  | 0, c :: cs =>
    if target.isPrefixOf (c :: cs) then
      replacement ++ replaceFrom target replacement (target.length - 1) cs
    else
      c :: replaceFrom target replacement 0 cs

/-- Every occurrence of the target replaced. -/
def replace (target replacement text : String) : String :=
  String.ofList (replaceFrom target.toList replacement.toList 0 text.toList)

/-- The text in front of a mark's first occurrence and the text behind it;
`none` if the mark does not occur. -/
def cut? (mark : Char) (cs : List Char) : Option (List Char × List Char) :=
  match cs.dropWhile (· ≠ mark) with
  | [] => none
  | _ :: behind => some (cs.takeWhile (· ≠ mark), behind)

/-- A text cut at every occurrence of a mark. There is one piece more than there
are marks. -/
def pieces (mark : Char) : List Char → List (List Char)
  | [] => [[]]
  | c :: cs =>
    if c = mark then [] :: pieces mark cs
    else
      match pieces mark cs with
      | [] => [[c]]
      | piece :: rest => (c :: piece) :: rest

end ShaderGraph.Text
