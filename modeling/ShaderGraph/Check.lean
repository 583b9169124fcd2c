import ShaderGraph.Names.Collision

/-!
# Checking graphs

`Block.problems` lists everything wrong with a list of blocks: a cycle first,
then repeated ids, then block by block an invalid kind or connections that lead
nowhere, then collisions of names. Unlike generation it does not stop at the
first problem, and it looks at every block, not only the first of its id.
-/

namespace ShaderGraph.Block

/-- The repeated ids, one for each repetition, after blocks with the ids
`seen`. -/
def repeatedAfter (seen : List String) : List Block → List Diagnostic
  | [] => []
  | b :: rest =>
    if seen.contains b.id then .duplicateId b.id :: repeatedAfter seen rest
    else repeatedAfter (b.id :: seen) rest

/-- A connection's source, if it is there and has the output. -/
def outputOf? (c : Catalog) (blocks : List Block) (source port : String) : Option Port := do
  let origin ← Block.find? blocks source
  let kind ← c.find? origin.kindId
  kind.findOutput? port

/-- What is wrong with the value of a port: only a connection can lead
nowhere. -/
def portProblem? (c : Catalog) (blocks : List Block) (b : Block) (port : Port) :
    Option Diagnostic :=
  match b.value? port.id with
  | some (.connection source output) =>
    if (Block.find? blocks source).isNone then some (.missingBlock b.id source)
    else if (outputOf? c blocks source output).isNone then some (.missingOutput b.id output source)
    else none
  | _ => none

/-- What is wrong with a block. -/
def blockProblems (c : Catalog) (blocks : List Block) (b : Block) : List Diagnostic :=
  match c.find? b.kindId with
  | none => [.invalidKind b.kindId]
  | some kind => kind.inputs.filterMap (portProblem? c blocks b)

/-- A cycle, if there is one. -/
def cycleProblem (c : Catalog) (blocks : List Block) : List Diagnostic :=
  match Block.sort c blocks with
  | .ok _ => []
  | .error block => [.cycle block]

/-- Everything wrong with a list of blocks. -/
def problems (c : Catalog) (blocks : List Block) : List Diagnostic :=
  cycleProblem c blocks
    ++ repeatedAfter [] blocks
    ++ blocks.flatMap (blockProblems c blocks)
    ++ Names.collisions c blocks

end ShaderGraph.Block
