import ShaderGraph.Keyed
import ShaderGraph.Number.Binary64
import ShaderGraph.Text.Surrogate

/-!
# JSON values

A document is a JSON value. Whole numbers are kept apart from other numbers and
are exact; an object is a list of fields, in the order they were written.

Text with half of a surrogate pair is no text at all, yet it can be written in
JSON with escapes. Such text is `illFormedText`, and most readers refuse it. The
name of a field may be such a text too.
-/

namespace ShaderGraph

/-! ## Values -/

/-- A JSON value. -/
inductive Json
  | null
  | bool (value : Bool)
  | int (value : Int)
  | float (value : Binary64)
  | text (value : String)
  | illFormedText (points : List Nat)
  | list (items : List Json)
  | object (fields : List (GivenText × Json))
  deriving Inhabited

namespace Json

/-! ## Text -/

/-- The text of code points. -/
def ofPoints (points : List Nat) : Json :=
  if Text.isWellFormed points then .text (Text.ofPoints points) else .illFormedText points

/-- A text from outside. -/
def ofGiven : GivenText → Json
  | .text s => .text s
  | .illFormed points => .illFormedText points

/-! ## Fields -/

/-- The value of a name in a list of fields. -/
def lookup? (fields : List (GivenText × Json)) (name : String) : Option Json :=
  Keyed.find? (.text name) fields

/-- The value of a field, if the value is an object and has it. -/
def field? (name : String) : Json → Option Json
  | .object fields => lookup? fields name
  | _ => none

/-! ## What can be written out -/

/-- A field of this name is left out of what is written. -/
def isHiddenName (name : GivenText) : Bool := (Text.codePoints "_sa").isPrefixOf name.points

mutual

/-- The value can be written as JSON: it holds no infinity, no NaN and no
ill-formed text, apart from its hidden fields. -/
def isWritable : Json → Bool
  | .float x => x.isFinite
  | .illFormedText _ => false
  | .list items => allWritable items
  | .object fields => allFieldsWritable fields
  | _ => true

/-- Every item can be written. -/
def allWritable : List Json → Bool
  | [] => true
  | item :: rest => item.isWritable && allWritable rest

/-- Every field can be written. -/
def allFieldsWritable : List (GivenText × Json) → Bool
  | [] => true
  | (name, value) :: rest =>
    (isHiddenName name || (name.isText && value.isWritable)) && allFieldsWritable rest

end

end Json

end ShaderGraph
