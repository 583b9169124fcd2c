import ShaderGraph.Names.Collision
import ShaderGraph.Number.Fixed
import ShaderGraph.Program.Basic

/-!
# Generating programs

`Program.generate` makes the program of a list of blocks. It refuses an empty
list, then a block of unknown kind, then a cycle, then a collision of names, and
last a call whose arguments cannot be written; within each of these the first
block in order decides.
-/

namespace ShaderGraph.Program

/-- A rejection with one diagnostic. -/
def reject {α : Type} (d : Diagnostic) : Except Refusal α := .error (.rejected [d])

/-! ## Numbers and defaults -/

/-- Numbers are printed with two places and take 28 digits at most. -/
def number (x : Binary64) : Except Refusal String :=
  match x.fixed? 2 28 with
  | some text => .ok text
  | none => .error .numberTooWide

/-- A vector of numbers. -/
def vector (components : List Binary64) : Except Refusal String :=
  (components.mapM number).map fun parts =>
    "vec" ++ toString components.length ++ "(" ++ String.intercalate ", " parts ++ ")"

/-- What a call passes for a port without a value. A program is made of characters, so
an expression is printed with a replacement for each half that stands alone in it. -/
def defaultArgument (port : Port) : Except Refusal String :=
  match port.default with
  | some (.expression text) => .ok text.replaced
  | some (.vector components) => vector components
  | some (.number x) => number x
  | none => reject (.noDefault port.id)

/-! ## Blocks -/

/-- The kind of a block, which has to be known. -/
def kindOf (c : Catalog) (b : Block) : Except Refusal Kind :=
  match c.find? b.kindId with
  | some kind => .ok kind
  | none => reject (.unknownKind b.kindId)

/-- The definition of a block's function: the template without the blanks around
it, its placeholders filled in one after the other. -/
def definition (k : Kind) (id : String) : String :=
  let named := Text.replace Kind.namePlaceholder (Names.function k id) (Text.strip k.template)
  let identified := Text.replace Kind.idPlaceholder (Names.sanitize id) named
  Text.replace Kind.outputTypePlaceholder k.outputType.name identified

/-- What a call passes for a connection: the variable of the block it comes
from. -/
def connectionArgument (c : Catalog) (blocks : List Block) (b : Block) (source port : String) :
    Except Refusal String :=
  match Block.find? blocks source with
  | none => reject (.missingBlock b.id source)
  | some origin => do
    let kind ← kindOf c origin
    match kind.findOutput? port with
    | some _ => .ok (Names.result kind origin.id)
    | none => reject (.missingOutput b.id port source)

/-- What a call passes for a port. -/
def argument (c : Catalog) (blocks : List Block) (b : Block) (port : Port) :
    Except Refusal String :=
  match b.value? port.id with
  | none => defaultArgument port
  | some (.connection source output) => connectionArgument c blocks b source output
  | some (.variable name) => .ok name
  | some (.literal x) => number x
  | some (.vector components) => vector components
  | some (.unchecked value) => reject (.unsupportedValue port.id b.id value.display)

/-- The call of a block's function. -/
def call (c : Catalog) (blocks : List Block) (b : Block) : Except Refusal Call := do
  let kind ← kindOf c b
  let arguments ← kind.inputs.mapM (argument c blocks b)
  .ok ⟨kind.outputType, Names.result kind b.id, Names.function kind b.id, arguments⟩

/-! ## Programs -/

/-- The sorted blocks of a graph; a cycle refuses them. -/
def sorted (c : Catalog) (blocks : List Block) : Except Refusal (List Block) :=
  (Block.sort c blocks).mapError .cyclic

/-- The program of a list of blocks. -/
def generate (c : Catalog) (context : Context) (blocks : List Block) : Except Refusal Program := do
  if blocks.isEmpty then reject .nothingToGenerate
  else
    let _ ← blocks.mapM (kindOf c)
    let ordered ← sorted c blocks
    let collisions := Names.collisions c blocks
    if !collisions.isEmpty then .error (.rejected collisions)
    else
      let kinds ← ordered.mapM (kindOf c)
      let calls ← ordered.mapM (call c blocks)
      match calls.getLast? with
      | none => reject .nothingToGenerate
      | some last =>
        .ok {
          precision := context.precision
          uniforms := declareUniforms context.uniforms
          definitions := (ordered.zip kinds).map fun (b, k) => definition k b.id
          calls := calls
          outputType := last.type
          output := last.result }

end ShaderGraph.Program
