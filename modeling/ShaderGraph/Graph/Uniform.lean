import ShaderGraph.Kind.Port

/-!
# Uniforms — values a program takes from outside

A uniform has a name and a type, which the program declares, and a value, bounds
and a step for the control that sets it. Its id is a label for an editor;
nothing here reads it. A uniform whose document gives no id gets one that is
generated when it is read.
-/

namespace ShaderGraph

/-- The value of a uniform. -/
inductive UniformValue
  | number (value : Binary64)
  | vector (components : List Binary64)
  deriving DecidableEq, Repr

namespace UniformValue

/-- A number or a list of numbers. Where neither fits, the faults of both
readings are reported. -/
def read (origin : Origin) (value : Json) : Checked UniformValue :=
  match
    (Read.number origin value).under (.name "float"),
    (Read.list (Read.number origin) value).under (.name "list[float]") with
  | .accepted x, _ => .accepted (.number x)
  | _, .accepted xs => .accepted (.vector xs)
  | .refused a, .refused b => .refused (a ++ b)

/-- The document of a value. -/
def toJson : UniformValue → Json
  | .number x => .float x
  | .vector xs => .list (xs.map Json.float)

end UniformValue

/-- A uniform. -/
structure Uniform where
  id : GivenText
  name : String
  type : ValueType
  value : UniformValue
  min : Binary64
  max : Binary64
  step : Binary64
  deriving DecidableEq, Repr

namespace Uniform

/-- The texts that are identifiers: a letter or underscore, then letters, digits
and underscores. -/
def identifierPattern : Read.Pattern where
  source := "^[A-Za-z_][A-Za-z0-9_]*$"
  accepts
    | [] => false
    | c :: cs => (c.isAlpha || c == '_') && cs.all fun c => c.isAlphanum || c == '_'

/-- The name of the model in messages. -/
def title : String := "DynamicUniform"

/-- A uniform from its document, with the id that is generated for it if the document
gives none. -/
def read (id : String) (origin : Origin) : Json → Checked Uniform :=
  Read.model title fun r =>
    Uniform.mk
      <$> r.optional "id" (.text id) Read.text
      <*> r.required "name" (Read.patternText identifierPattern)
      <*> r.optional "type" .float ValueType.read
      <*> r.optional "value" (.number .zero) (UniformValue.read origin)
      <*> r.optional "min" .zero (Read.number origin)
      <*> r.optional "max" (.ofInt 1) (Read.number origin)
      <*> r.optional "step" 0.01 (Read.number origin)

/-- The document of a uniform. -/
def toJson (u : Uniform) : Json :=
  .object [
    ("id", .ofGiven u.id),
    ("name", .text u.name),
    ("type", .text u.type.name),
    ("value", u.value.toJson),
    ("min", .float u.min),
    ("max", .float u.max),
    ("step", .float u.step)]

/-- A list of uniforms, with the ids that are generated for those whose documents give
none, by their places in the list. -/
def readAll (idAt : Nat → String) (origin : Origin) : Json → Checked (List Uniform) :=
  Read.indexedList fun n => read (idAt n) origin

end Uniform

end ShaderGraph
