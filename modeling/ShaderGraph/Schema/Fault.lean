import ShaderGraph.Json.Basic
import ShaderGraph.Text.Quoted

/-!
# Faults — why a document is refused

A document that does not fit its model is refused with every fault found, in
the order of the model's fields. A fault has a cause, the path to the value at
fault, and the value itself. The cause is data; its code and its message are
read off it in one place, here.

Where the document came from changes the wording of a few causes and nothing
else about them.
-/

namespace ShaderGraph

/-- Where a document comes from. -/
inductive Origin
  /-- A value built by the caller. -/
  | value
  /-- The text of a JSON document. -/
  | text
  /-- The body of a request. -/
  | body
  deriving DecidableEq, Repr

/-- One step from a value to one of its parts. -/
inductive Step
  | name (field : String)
  | index (place : Nat)
  deriving DecidableEq, Repr

/-- A step as it is written in a report, where points divide the steps. -/
def Step.display : Step → String
  | .name field => if field.toList.contains '.' then "`" ++ field ++ "`" else field
  | .index place => toString place

/-- Why a value is refused. -/
inductive Cause
  | missing
  | notModel (model : String)
  | notTagged
  | notObject
  | notList
  | notText
  | illFormedText
  | emptyText
  | patternMismatch (pattern : String)
  | notNumber
  | unreadableNumber
  | notFinite
  | notBool
  | unreadableBool
  | tooLong (limit actual : Nat)
  | tooShort (least actual : Nat)
  | notMember (members : List String)
  | notLiteral (literals : List String)
  | tagMissing (field : String)
  | tagUnknown (field tag : String) (tags : List String)
  | unsuitable (reason : String)
  | notJson
  deriving DecidableEq, Repr

namespace Cause

/-- The code of a cause. -/
def code (origin : Origin) : Cause → String
  | .missing => "missing"
  | .notModel _ => if origin = .body then "model_attributes_type" else "model_type"
  | .notTagged => if origin = .text then "dict_type" else "model_attributes_type"
  | .notObject => "dict_type"
  | .notList => "list_type"
  | .notText => "string_type"
  | .illFormedText => "string_unicode"
  | .emptyText => "string_too_short"
  | .patternMismatch _ => "string_pattern_mismatch"
  | .notNumber => "float_type"
  | .unreadableNumber => "float_parsing"
  | .notFinite => "finite_number"
  | .notBool => "bool_type"
  | .unreadableBool => "bool_parsing"
  | .tooLong _ _ => "too_long"
  | .tooShort _ _ => "too_short"
  | .notMember _ => "enum"
  | .notLiteral _ => "literal_error"
  | .tagMissing _ => "union_tag_not_found"
  | .tagUnknown _ _ _ => "union_tag_invalid"
  | .unsuitable _ => "value_error"
  | .notJson => "json_invalid"

/-- A number of items. -/
def items (n : Nat) : String :=
  toString n ++ (if n = 1 then " item" else " items")

/-- The message of a value that has no fields to take. -/
def withoutFields : String :=
  "Input should be a valid dictionary or object to extract fields from"

/-- The message of a cause. -/
def message (origin : Origin) : Cause → String
  | .missing => "Field required"
  | .notModel model =>
    match origin with
    | .value => "Input should be a valid dictionary or instance of " ++ model
    | .text => "Input should be an object"
    | .body => withoutFields
  | .notTagged => if origin = .text then "Input should be an object" else withoutFields
  | .notObject =>
    if origin = .text then "Input should be an object" else "Input should be a valid dictionary"
  | .notList =>
    if origin = .text then "Input should be a valid array" else "Input should be a valid list"
  | .notText => "Input should be a valid string"
  | .illFormedText =>
    "Input should be a valid string, unable to parse raw data as a unicode string"
  | .emptyText => "String should have at least 1 character"
  | .patternMismatch pattern => "String should match pattern '" ++ pattern ++ "'"
  | .notNumber => "Input should be a valid number"
  | .unreadableNumber => "Input should be a valid number, unable to parse string as a number"
  | .notFinite => "Input should be a finite number"
  | .notBool => "Input should be a valid boolean"
  | .unreadableBool => "Input should be a valid boolean, unable to interpret input"
  | .tooLong limit actual =>
    "List should have at most " ++ items limit ++ " after validation, not " ++ toString actual
  | .tooShort least actual =>
    "List should have at least " ++ items least ++ " after validation, not " ++ toString actual
  | .notMember members => "Input should be " ++ Text.quotedChoices "or" members
  | .notLiteral literals => "Input should be " ++ Text.quotedChoices "or" literals
  | .tagMissing field => "Unable to extract tag using discriminator '" ++ field ++ "'"
  | .tagUnknown field tag tags =>
    "Input tag '" ++ tag ++ "' found using '" ++ field
      ++ "' does not match any of the expected tags: "
      ++ String.intercalate ", " (tags.map fun tag : String => Text.quoted tag)
  | .unsuitable reason => "Value error, " ++ reason
  | .notJson => "Invalid JSON"

end Cause

/-- A value at fault. -/
structure Fault where
  cause : Cause
  path : List Step
  value : Json

/-- The fault of a value, seen from the value it is a part of. -/
def Fault.under (step : Step) (fault : Fault) : Fault :=
  { fault with path := step :: fault.path }

/-- A refused document: what it should have been, and its faults. -/
structure Rejection where
  title : String
  origin : Origin
  faults : List Fault

namespace Rejection

/-- The report of one fault: its path, if it has one, and its message. -/
def faultLines (origin : Origin) (fault : Fault) : List String :=
  let place := String.intercalate "." (fault.path.map Step.display)
  let what :=
    "  " ++ fault.cause.message origin ++ " [type=" ++ fault.cause.code origin ++ "]"
  if fault.path.isEmpty then [what] else [place, what]

/-- The report of a rejection. -/
def report (r : Rejection) : String :=
  let count := r.faults.length
  let head :=
    toString count ++ (if count = 1 then " validation error for " else " validation errors for ")
      ++ r.title
  String.intercalate "\n" (head :: r.faults.flatMap (faultLines r.origin))

end Rejection

end ShaderGraph
