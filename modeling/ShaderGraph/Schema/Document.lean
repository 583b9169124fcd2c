import ShaderGraph.Json.Reader
import ShaderGraph.Schema.Checked

/-!
# Documents as text

A document that comes as text has to be JSON of the strict dialect. Why a text is
none is not told. A text that is given from outside may be ill-formed, unlike the
text of a file.
-/

namespace ShaderGraph

/-- The document a text spells. -/
def Read.document (text : String) : Checked Json :=
  match Json.read .strict text with
  | .ok value => .accepted value
  | .error _ => .fail .notJson .null

/-- The document that a text from outside spells. -/
def Read.givenDocument : GivenText → Checked Json
  | .text text => Read.document text
  | .illFormed points => .fail .illFormedText (.illFormedText points)

end ShaderGraph
