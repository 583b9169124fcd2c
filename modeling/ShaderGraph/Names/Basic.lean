import ShaderGraph.Graph.Block
import ShaderGraph.Kind.Basic
import ShaderGraph.Text.Blank
import ShaderGraph.Text.Lower
import ShaderGraph.Text.Substitute
import ShaderGraph.Text.Word

/-!
# Names — the identifiers a block brings into a program

A block of a kind declares a function and a variable for its result, both named
after the kind and the block. A template may declare more: every identifier in
it that contains the block's id.
-/

namespace ShaderGraph.Names

/-- An id made fit for an identifier: hyphens become underscores. -/
def sanitize (id : String) : String :=
  id.map fun c => if c = '-' then '_' else c

/-- The name of a kind in lower case, its blanks replaced. -/
def stem (k : Kind) (blank : String) : String :=
  String.ofList (Text.replaceBlanks blank.toList false (Text.lower k.name).toList)

/-- The name of a block's function. -/
def function (k : Kind) (id : String) : String :=
  stem k "" ++ "_" ++ sanitize id

/-- The name of the variable that holds a block's result. -/
def result (k : Kind) (id : String) : String :=
  stem k "_" ++ "_" ++ sanitize id ++ "_result"

/-! ## Helpers -/

/-- The identifiers in a text that contain a mark, the mark replaced: each is a
run of word characters, the mark, and a further run, found from left to right.
The mark itself holds no word character in front. -/
def marked (mark replacement : List Char) (cs : List Char) : List (List Char) :=
  let run := cs.takeWhile Text.isWord
  match _h : cs.dropWhile Text.isWord with
  | [] => []
  | c :: rest =>
    if mark.isPrefixOf (c :: rest) then
      let behind := rest.drop (mark.length - 1)
      (run ++ replacement ++ behind.takeWhile Text.isWord)
        :: marked mark replacement (behind.dropWhile Text.isWord)
    else marked mark replacement rest
termination_by cs.length
decreasing_by
  all_goals
    have h : (cs.dropWhile Text.isWord).length ≤ cs.length :=
      (List.dropWhile_sublist Text.isWord).length_le
    rw [_h] at h
    simp only [List.length_cons] at h
  · have : ((rest.drop (mark.length - 1)).dropWhile Text.isWord).length ≤ _ :=
      (List.dropWhile_sublist Text.isWord).length_le
    simp only [List.length_drop] at this
    omega
  · omega

/-- The helpers a block's definition declares, in ascending order, each once. -/
def helpers (k : Kind) (id : String) : List String :=
  let found := marked Kind.idPlaceholder.toList (sanitize id).toList k.template.toList
  (found.map String.ofList).eraseDups.mergeSort (· ≤ ·)

/-- The identifiers a block declares: its function, its result, its helpers. -/
def declared (k : Kind) (id : String) : List String :=
  function k id :: result k id :: helpers k id

end ShaderGraph.Names
