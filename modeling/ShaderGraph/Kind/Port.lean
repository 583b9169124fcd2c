import ShaderGraph.Schema.Checked

/-!
# Ports — what goes into a block and what comes out

A port has an id, a label and a type. An input port may have a default, which a
block's call uses where the block holds no value for it.
-/

namespace ShaderGraph

/-! ## Types of values -/

/-- The type of a value in a shader program. -/
inductive ValueType
  | float
  | vec2
  | vec3
  | vec4
  deriving DecidableEq, Repr

namespace ValueType

/-- The type's name in a program. -/
def name : ValueType → String
  | .float => "float"
  | .vec2 => "vec2"
  | .vec3 => "vec3"
  | .vec4 => "vec4"

/-- All types. -/
def all : List ValueType := [.float, .vec2, .vec3, .vec4]

/-- A type by its name. -/
def read : Json → Checked ValueType :=
  Read.choice .notMember (all.map fun t => (t.name, t))

end ValueType

/-! ## Ports -/

/-- What a call passes for an input that holds no value: a number, a vector, or
an expression that stands in the program as it is. -/
inductive PortDefault
  | number (value : Binary64)
  | vector (components : List Binary64)
  | expression (text : GivenText)
  deriving DecidableEq, Repr

namespace PortDefault

/-- A default, or null. A text is always an expression. Where nothing fits, the
faults of all three readings are reported. -/
def read (origin : Origin) (value : Json) : Checked (Option PortDefault) :=
  let asNumber := (Read.number origin value).under (.name "float")
  let asVector := (Read.list (Read.number origin) value).under (.name "list[float]")
  let asText := (Read.text value).under (.name "str")
  match value with
  | .null => .accepted none
  | .text s => .accepted (some (.expression s))
  | .illFormedText points => .accepted (some (.expression (.illFormed points)))
  | _ =>
    match asNumber, asVector, asText with
    | .accepted x, _, _ => .accepted (some (.number x))
    | _, .accepted xs, _ => .accepted (some (.vector xs))
    | _, _, .accepted s => .accepted (some (.expression s))
    | .refused a, .refused b, .refused c => .refused (a ++ b ++ c)

/-- The document of a default. -/
def toJson : PortDefault → Json
  | .number x => .float x
  | .vector xs => .list (xs.map Json.float)
  | .expression text => .ofGiven text

end PortDefault

/-- A port of a kind. -/
structure Port where
  id : String
  label : String
  valueType : ValueType
  default : Option PortDefault
  deriving DecidableEq, Repr

namespace Port

/-- The name of the model in messages. -/
def title : String := "PortSpec"

/-- A port from its document. -/
def read (origin : Origin) : Json → Checked Port :=
  Read.model title fun r =>
    Port.mk
      <$> r.required "id" Read.nonEmptyText
      <*> r.required "label" Read.nonEmptyText
      <*> r.required "value_type" ValueType.read
      <*> r.optional "default" none (PortDefault.read origin)

/-- The document of a port. -/
def toJson (p : Port) : Json :=
  .object [
    ("id", .text p.id),
    ("label", .text p.label),
    ("value_type", .text p.valueType.name),
    ("default", (p.default.map PortDefault.toJson).getD .null)]

/-- The variable that holds a fragment's coordinates. -/
def coordinateVariable : String := "uv"

/-- An input for coordinates, the fragment's own by default. -/
def coordinates (id label : String) : Port :=
  ⟨id, label, .vec2, some (.expression coordinateVariable)⟩

/-- An input for one number. -/
def scalar (id label : String) (default : Binary64) : Port :=
  ⟨id, label, .float, some (.number default)⟩

/-- An input for a vector. -/
def components (type : ValueType) (id label : String) (default : List Binary64) : Port :=
  ⟨id, label, type, some (.vector default)⟩

/-- An output. -/
def result (type : ValueType) (id label : String) : Port :=
  ⟨id, label, type, none⟩

end Port

end ShaderGraph
