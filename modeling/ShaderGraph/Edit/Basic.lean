import ShaderGraph.Check
import ShaderGraph.Graph.Connection

/-!
# Editing graphs

The edits of a list of blocks: create a block, clone one, remove one together
with every connection to it, find the blocks that read from one, and list the
connections. An edit gives a new list and leaves the old one as it was.
-/

namespace ShaderGraph

namespace Block

/-! ## Making blocks -/

/-- A new block of a kind, which holds no values. -/
def create (id kindId : String) (position : Position) : Block :=
  ⟨id, kindId, [], position⟩

/-- A new block, where the id of the kind is still to be checked. -/
def createChecked (id : String) (kindId : Json) (position : Position) : Checked Block :=
  ((Read.nonEmptyText kindId).under (.name "kind_id")).map fun kind => create id kind position

/-- How far from a block its clone is put. -/
def cloneOffset : Position := ⟨.ofInt 20, .ofInt 20⟩

/-- A copy of a block under a new id, moved by an offset. -/
def clone (id : String) (offset : Position) (b : Block) : Block :=
  { b with
    id := id
    position := ⟨b.position.x + offset.x, b.position.y + offset.y⟩ }

/-! ## Values -/

/-- A value set for a port: it keeps the port's place, or comes last. -/
def set (port : GivenText) (value : PortValue) (b : Block) : Block :=
  { b with inputs := Keyed.set port value b.inputs }

/-- A port's value taken away. -/
def unset (port : GivenText) (b : Block) : Block :=
  { b with inputs := b.inputs.filter (·.1 != port) }

/-- A block moved to a position. -/
def move (position : Position) (b : Block) : Block :=
  { b with position := position }

/-- The first block with an id changed. -/
def updateFirst (id : String) (change : Block → Block) : List Block → List Block
  | [] => []
  | b :: rest => if b.id == id then change b :: rest else b :: updateFirst id change rest

/-! ## Removing blocks -/

/-- A value is a connection from a block. -/
def comesFrom (source : String) : PortValue → Bool
  | .connection s _ => s == source
  | _ => false

/-- The blocks that hold a connection from a block. -/
def dependents (source : String) (blocks : List Block) : List Block :=
  blocks.filter fun b => b.inputs.any fun input => comesFrom source input.2

/-- A block without its connections from another. -/
def scrub (source : String) (b : Block) : Block :=
  { b with inputs := b.inputs.filter fun input => !comesFrom source input.2 }

/-- The blocks without those of an id, and without the connections from it. -/
def remove (id : String) (blocks : List Block) : List Block :=
  (blocks.filter (·.id != id)).map (scrub id)

end Block

/-! ## Listing connections -/

namespace Connection

/-- A connection between ends. None of them may be empty. All but the target port
are the texts of models and well formed; the port is the name of a field and need not
be. -/
def ofEnds (id fromBlock fromPort toBlock : String) (toPort : GivenText) (type : Option ValueType) :
    Checked Connection :=
  let nonEmpty (field : String) (text : Json) : Checked String :=
    (Read.nonEmptyText text).under (.name field)
  (fun id fromBlock fromPort toBlock toPort => Connection.mk id fromBlock fromPort toBlock toPort type)
    <$> nonEmpty "id" (.text id)
    <*> nonEmpty "from_instance_id" (.text fromBlock)
    <*> nonEmpty "from_port_id" (.text fromPort)
    <*> nonEmpty "to_instance_id" (.text toBlock)
    <*> nonEmpty "to_port_id" (.ofGiven toPort)

/-- The blocks that connections are traced to, by their ids: filled from the last block
to the first, so that of several blocks with an id the first one stays. -/
def sources (blocks : List Block) : List (String × Block) :=
  Keyed.gather (blocks.reverse.map fun b => (b.id, b))

/-- The type of a connection's source, if a catalog is at hand and knows it. -/
def sourceType? (catalog : Option Catalog) (sources : List (String × Block)) (source port : String) :
    Option ValueType := do
  let c ← catalog
  let origin ← Keyed.find? source sources
  let kind ← c.find? origin.kindId
  let output ← kind.findOutput? port
  some output.valueType

/-- The ends of every connection of a list of blocks: target block, target port,
source block, source port. -/
def ends (blocks : List Block) : List (String × GivenText × String × String) :=
  blocks.flatMap fun b => b.connections.map fun (port, source, output) => (b.id, port, source, output)

/-- The connections between ends, ids drawn in turn, the first after `count`
others. The first pair of ends that makes no connection decides. -/
def listFrom (catalog : Option Catalog) (sources : List (String × Block)) (idAt : Nat → String)
    (count : Nat) :
    List (String × GivenText × String × String) → Except Rejection (List Connection)
  | [] => .ok []
  | (block, port, source, output) :: rest => do
    let type := sourceType? catalog sources source output
    let connection ←
      (ofEnds (idAt count) source output block port type).toExcept title .value
    let others ← listFrom catalog sources idAt (count + 1) rest
    .ok (connection :: others)

/-- No end of a connection is empty, and the target port is well formed. -/
def endsHold (e : String × GivenText × String × String) : Bool :=
  [e.1, e.2.2.1, e.2.2.2].all (!·.isEmpty) && !e.2.1.isEmpty && e.2.1.isText

/-- How many ids listing the connections draws: one for each, up to the first
that is refused. -/
def drawnFor (blocks : List Block) : Nat :=
  min (ends blocks).length (((ends blocks).takeWhile endsHold).length + 1)

/-- The connections of a list of blocks. -/
def list (catalog : Option Catalog) (idAt : Nat → String) (count : Nat) (blocks : List Block) :
    Except Rejection (List Connection) :=
  listFrom catalog (sources blocks) idAt count (ends blocks)

end Connection

end ShaderGraph
