import ShaderGraph.Kind.Port

/-!
# Connections, listed

A connection of a graph as a record of its own: from an output of one block to
an input of another, with the type of the output where it is known.
-/

namespace ShaderGraph

/-- A connection of a graph. -/
structure Connection where
  id : String
  fromBlock : String
  fromPort : String
  toBlock : String
  toPort : String
  valueType : Option ValueType
  deriving DecidableEq, Repr

namespace Connection

/-- The name of the model in messages. -/
def title : String := "BlockConnection"

/-- A connection from its document. -/
def read : Json → Checked Connection :=
  Read.model title fun r =>
    Connection.mk
      <$> r.required "id" Read.nonEmptyText
      <*> r.required "from_instance_id" Read.nonEmptyText
      <*> r.required "from_port_id" Read.nonEmptyText
      <*> r.required "to_instance_id" Read.nonEmptyText
      <*> r.required "to_port_id" Read.nonEmptyText
      <*> r.optional "value_type" none (Read.nullable ValueType.read)

/-- The document of a connection. -/
def toJson (c : Connection) : Json :=
  .object [
    ("id", .text c.id),
    ("from_instance_id", .text c.fromBlock),
    ("from_port_id", .text c.fromPort),
    ("to_instance_id", .text c.toBlock),
    ("to_port_id", .text c.toPort),
    ("value_type", (c.valueType.map fun t => .text t.name).getD .null)]

end Connection

end ShaderGraph
