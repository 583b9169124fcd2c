import ShaderGraph.Graph.Block
import ShaderGraph.Kind.Catalog
import ShaderGraph.Order.Walk

/-!
# Dependencies — which block reads from which

A block depends on the sources of the connections it holds for the declared
inputs of its kind, in the order of the ports, each source once. A block of
unknown kind depends on nothing. Where several blocks share an id, the first of
them counts.

`Block.sort` puts the blocks in an order in which each stands after the blocks
it depends on.
-/

namespace ShaderGraph

/-- The blocks whose id none of the blocks before them has, after blocks with
the ids `seen`. -/
def Block.firstsAfter (seen : List String) : List Block → List Block
  | [] => []
  | b :: rest =>
    if seen.contains b.id then firstsAfter seen rest
    else b :: firstsAfter (b.id :: seen) rest

/-- The first block of each id. -/
def Block.firsts (blocks : List Block) : List Block := firstsAfter [] blocks

/-- The first block with an id. -/
def Block.find? (blocks : List Block) (id : String) : Option Block :=
  blocks.find? (·.id == id)

namespace Dependencies

/-- A text added behind the others, unless it is there already. -/
def insertNew (texts : List String) (text : String) : List String :=
  if texts.contains text then texts else texts ++ [text]

/-- The source of the connection a block holds for a port. -/
def source? (b : Block) (port : Port) : Option String :=
  match b.value? port.id with
  | some (.connection source _) => some source
  | _ => none

/-- The blocks a block depends on. -/
def sources (c : Catalog) (b : Block) : List String :=
  match c.find? b.kindId with
  | some kind => (kind.inputs.filterMap (source? b)).foldl insertNew []
  | none => []

/-- The dependencies of every id, in the order the ids first appear. -/
def table (c : Catalog) (blocks : List Block) : List (String × List String) :=
  (Block.firsts blocks).map fun b => (b.id, sources c b)

/-- The dependencies of an id. -/
def ofTable (entries : List (String × List String)) (id : String) : List String :=
  ((entries.find? (·.1 == id)).map (·.2)).getD []

/-- The network of a list of blocks. -/
def network (c : Catalog) (blocks : List Block) : Network String :=
  let entries := table c blocks
  ⟨entries.map (·.1), ofTable entries⟩

end Dependencies

/-- The blocks in an order in which each stands after the blocks it depends on;
or the id of a block on a cycle. -/
def Block.sort (c : Catalog) (blocks : List Block) : Except String (List Block) :=
  (Dependencies.network c blocks).walk.map fun order => order.filterMap (Block.find? blocks)

/-- The ids of the sorted blocks. -/
def Block.order (c : Catalog) (blocks : List Block) : Except String (List String) :=
  (Block.sort c blocks).map (·.map Block.id)

end ShaderGraph
