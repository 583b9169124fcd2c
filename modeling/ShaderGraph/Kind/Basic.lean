import ShaderGraph.Kind.Port

/-!
# Kinds of blocks

A kind is a shader function that blocks are instances of: a template for its
definition, its input ports in the order of its parameters, and its output
ports, of which there is one at least. The first output is what a call returns.
-/

namespace ShaderGraph

/-- What a kind is for. -/
inductive Category
  | shape
  | pattern
  | color
  | transform
  | blend
  | effect
  deriving DecidableEq, Repr

namespace Category

/-- The category's name. -/
def name : Category → String
  | .shape => "shape"
  | .pattern => "pattern"
  | .color => "color"
  | .transform => "transform"
  | .blend => "blend"
  | .effect => "effect"

/-- All categories. -/
def all : List Category := [.shape, .pattern, .color, .transform, .blend, .effect]

/-- A category by its name. -/
def read : Json → Checked Category :=
  Read.choice .notMember (all.map fun c => (c.name, c))

end Category

/-- A kind of block. -/
structure Kind where
  id : String
  name : String
  category : Category
  description : GivenText
  icon : GivenText
  template : String
  inputs : List Port
  output : Port
  moreOutputs : List Port
  deriving DecidableEq, Repr

namespace Kind

/-- The output ports. -/
def outputs (k : Kind) : List Port := k.output :: k.moreOutputs

/-- The type of the first output. -/
def outputType (k : Kind) : ValueType := k.output.valueType

/-- The first output port with an id. -/
def findOutput? (k : Kind) (port : String) : Option Port :=
  k.outputs.find? (·.id == port)

/-! ## Placeholders of a template -/

/-- Stands for the name of the function. -/
def namePlaceholder : String := "\x7b\x7bname\x7d\x7d"

/-- Stands for the id of the block, made fit for an identifier. -/
def idPlaceholder : String := "\x7b\x7bid\x7d\x7d"

/-- Stands for the type of the first output. -/
def outputTypePlaceholder : String := "\x7b\x7boutputType\x7d\x7d"

/-! ## Documents -/

/-- The name of the model in messages. -/
def title : String := "BlockKind"

/-- Output ports: the first, and the others. -/
def readOutputs (origin : Origin) (value : Json) : Checked (Port × List Port) :=
  (Read.list (Port.read origin) value).andThen fun ports =>
    match ports with
    | [] => .fail (.tooShort 1 0) value
    | first :: others => .accepted (first, others)

/-- A kind from its document. -/
def read (origin : Origin) : Json → Checked Kind :=
  Read.model title fun r =>
    (fun id name category description icon template inputs outputs =>
      Kind.mk id name category description icon template inputs outputs.1 outputs.2)
      <$> r.required "id" Read.nonEmptyText
      <*> r.required "name" Read.nonEmptyText
      <*> r.required "category" Category.read
      <*> r.optional "description" (.text "") Read.text
      <*> r.optional "icon" (.text "") Read.text
      <*> r.required "template" Read.nonEmptyText
      <*> r.optional "inputs" [] (Read.list (Port.read origin))
      <*> r.required "outputs" (readOutputs origin)

/-- The document of a kind. -/
def toJson (k : Kind) : Json :=
  .object [
    ("id", .text k.id),
    ("name", .text k.name),
    ("category", .text k.category.name),
    ("description", .ofGiven k.description),
    ("icon", .ofGiven k.icon),
    ("template", .text k.template),
    ("inputs", .list (k.inputs.map Port.toJson)),
    ("outputs", .list (k.outputs.map Port.toJson))]

end Kind

end ShaderGraph
