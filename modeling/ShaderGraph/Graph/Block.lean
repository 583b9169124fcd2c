import ShaderGraph.Graph.Value

/-!
# Blocks — the nodes of a graph

A block is an instance of a kind: its id, the id of its kind, the values it
holds for its inputs, and where an editor shows it. The values keep the order
they were given in, and may stand under ports the kind does not have.
-/

namespace ShaderGraph

/-- Where an editor shows a block. -/
structure Position where
  x : Binary64
  y : Binary64
  deriving DecidableEq, Repr

namespace Position

/-- The origin. -/
def zero : Position := ⟨.zero, .zero⟩

/-- The name of the model in messages. -/
def title : String := "BlockPosition"

/-- A position from its document. -/
def read (origin : Origin) : Json → Checked Position :=
  Read.model title fun r =>
    Position.mk
      <$> r.optional "x" .zero (Read.number origin)
      <*> r.optional "y" .zero (Read.number origin)

/-- The document of a position. -/
def toJson (p : Position) : Json :=
  .object [("x", .float p.x), ("y", .float p.y)]

end Position

/-- A block of a graph. -/
structure Block where
  id : String
  kindId : String
  inputs : List (GivenText × PortValue)
  position : Position

namespace Block

/-! ## Values -/

/-- The value held for a port. An unchecked null counts as none. -/
def value? (b : Block) (port : String) : Option PortValue :=
  match Keyed.find? (.text port) b.inputs with
  | some (.unchecked .null) => none
  | found => found

/-- The connections a block holds: the port, the source block and its output. -/
def connections (b : Block) : List (GivenText × String × String) :=
  b.inputs.filterMap fun input =>
    match input.2 with
    | .connection source port => some (input.1, source, port)
    | _ => none

/-! ## Documents -/

/-- The characters of an id. -/
def isIdChar (c : Char) : Bool := c.isAlphanum || c == '_' || c == '-'

/-- The texts a block's id may be. -/
def idPattern : Read.Pattern where
  source := "^[A-Za-z0-9_-]+$"
  accepts cs := cs.all isIdChar

/-- Every value of an object in tagged form; `none` if one has none. -/
def tagAll? : List (GivenText × Json) → Option (List (GivenText × Json))
  | [] => some []
  | (port, value) :: rest =>
    match PortValue.tag? value, tagAll? rest with
    | some tagged, some others => some ((port, tagged) :: others)
    | _, _ => none

/-- Tagged values, each read; all faults are kept.

The values have been taken out of their document by then, so a whole number
beyond every binary64 value is refused even where the document was text. -/
def readTagged : List (GivenText × Json) → Checked (List (GivenText × PortValue))
  | [] => .accepted []
  | (port, value) :: rest =>
    (fun read others => (port, read) :: others)
      <$> (PortValue.read .value value).under (.name port.shown)
      <*> readTagged rest

/-- The values of a block. One null among them refuses them all. -/
def readInputs (value : Json) : Checked (List (GivenText × PortValue)) :=
  match value with
  | .object fields =>
    match tagAll? fields with
    | some tagged => readTagged tagged
    | none => .fail (.unsuitable PortValue.noValueReason) value
  | _ => .fail .notObject value

/-- The name of the model in messages. -/
def title : String := "BlockInstance"

/-- A block from its document. -/
def read (origin : Origin) : Json → Checked Block :=
  Read.model title fun r =>
    Block.mk
      <$> r.required "id" (Read.patternText idPattern)
      <*> r.requiredAs ["kind_id", "blockType"] Read.nonEmptyText
      <*> r.optionalAs ["input_values", "inputValues"] [] readInputs
      <*> r.optional "position" .zero (Position.read origin)

/-- The document of a block. -/
def toJson (b : Block) : Json :=
  .object [
    ("id", .text b.id),
    ("kind_id", .text b.kindId),
    ("input_values", .object (b.inputs.map fun input => (input.1, input.2.toJson))),
    ("position", b.position.toJson)]

end Block

end ShaderGraph
