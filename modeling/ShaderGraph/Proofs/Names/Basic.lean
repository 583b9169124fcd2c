import ShaderGraph.Names.Basic

/-!
# The names of one block

A block has a name for its function and one for its result. The second is longer
than the first, since a blank is dropped in the one and replaced in the other;
so the two are never the same (`function_ne_result`).
-/

namespace ShaderGraph

/-- Leaving blanks out gives no longer a text than replacing them. By induction on
the characters, in a run of blanks or not. -/
theorem Text.length_replaceBlanks_nil_le (replacement : List Char) (cs : List Char) :
    ∀ (inRun : Bool),
      (replaceBlanks [] inRun cs).length ≤ (replaceBlanks replacement inRun cs).length := by
  induction cs with
  | nil => simp [replaceBlanks]
  | cons c cs ih =>
    intro inRun
    simp only [replaceBlanks]
    split
    · split
      · exact ih true
      · have := ih true
        simp only [List.nil_append, List.length_append]
        omega
    · simpa using ih false

namespace Names

/-- The stem of a function's name, without blanks, is no longer than that of the
result's, which has them replaced. -/
theorem length_stem_le (k : Kind) (blank : String) :
    (stem k "").length ≤ (stem k blank).length := by
  simp only [stem, String.length_ofList]
  exact Text.length_replaceBlanks_nil_le blank.toList _ false

/-- A block's function and its result have different names: the result's is longer,
having all that the function's has and an ending. -/
theorem function_ne_result (k : Kind) (id : String) : function k id ≠ result k id := by
  intro same
  have lengths := congrArg String.length same
  have stems := length_stem_le k "_"
  have suffix : "_result".length = 7 := rfl
  simp only [function, result, String.length_append, suffix] at lengths
  omega

end Names

end ShaderGraph
