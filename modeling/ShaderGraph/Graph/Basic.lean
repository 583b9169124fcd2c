import ShaderGraph.Graph.Block
import ShaderGraph.Graph.Uniform

/-!
# Graphs, and what is asked of them

A graph is a list of blocks and a list of uniforms. A `Request` asks for its
program with a precision, a `Context` is what the printer of the program needs
to know beside the blocks, and the three `Answer`s are what comes back.

Where uniforms are read, `idAt` gives the ids that are generated for them.
-/

namespace ShaderGraph

/-- The precision of a program's numbers. -/
inductive Precision
  | lowp
  | mediump
  | highp
  deriving DecidableEq, Repr

namespace Precision

/-- The precision's name in a program. -/
def name : Precision → String
  | .lowp => "lowp"
  | .mediump => "mediump"
  | .highp => "highp"

/-- All precisions. -/
def all : List Precision := [.lowp, .mediump, .highp]

/-- A precision by its name. -/
def read : Json → Checked Precision :=
  Read.choice .notLiteral (all.map fun p => (p.name, p))

end Precision

/-! ## Graphs -/

/-- A graph of blocks. -/
structure Graph where
  blocks : List Block
  uniforms : List Uniform

namespace Graph

/-- A graph has no more blocks than this. -/
def maxBlocks : Nat := 500

/-- The blocks of a graph. Their number counts only when each of them was
accepted. -/
def readBlocks (origin : Origin) (value : Json) : Checked (List Block) :=
  (Read.list (Block.read origin) value).andThen fun blocks =>
    if maxBlocks < blocks.length then
      .fail (.unsuitable ("Block graph exceeds maximum instance count (" ++ toString maxBlocks ++ ")"))
        value
    else .accepted blocks

/-- The name of the model in messages. -/
def title : String := "BlockGraph"

/-- The graph among the fields of an object. -/
def readFields (idAt : Nat → String) (origin : Origin) (r : Record) : Checked Graph :=
  Graph.mk
    <$> r.optional "instances" [] (readBlocks origin)
    <*> r.optional "uniforms" [] (Uniform.readAll idAt origin)

/-- A graph from its document. -/
def read (idAt : Nat → String) (origin : Origin) : Json → Checked Graph :=
  Read.model title (readFields idAt origin)

/-- The fields of a graph's document. -/
def toFields (g : Graph) : List (GivenText × Json) := [
  ("instances", .list (g.blocks.map Block.toJson)),
  ("uniforms", .list (g.uniforms.map Uniform.toJson))]

/-- The document of a graph. -/
def toJson (g : Graph) : Json := .object g.toFields

end Graph

/-! ## Requests and contexts -/

/-- A graph whose program is asked for, with a precision or the usual one. -/
structure Request where
  graph : Graph
  precision : Option Precision

namespace Request

/-- The name of the model in messages. -/
def title : String := "CompileRequest"

/-- A request from its document. -/
def read (idAt : Nat → String) (origin : Origin) : Json → Checked Request :=
  Read.model title fun r =>
    Request.mk
      <$> Graph.readFields idAt origin r
      <*> r.optional "precision" none (Read.nullable Precision.read)

/-- The document of a request. -/
def toJson (r : Request) : Json :=
  let precision : Json := (r.precision.map fun p => .text p.name).getD .null
  .object (r.graph.toFields ++ [(GivenText.text "precision", precision)])

end Request

/-- What a program is printed with beside its blocks. -/
structure Context where
  precision : Precision
  uniforms : List Uniform

namespace Context

/-- The usual context. -/
def usual : Context := ⟨.mediump, []⟩

/-- The name of the model in messages. -/
def title : String := "GenerationContext"

/-- A context from its document. -/
def read (idAt : Nat → String) (origin : Origin) : Json → Checked Context :=
  Read.model title fun r =>
    Context.mk
      <$> r.optional "precision" .mediump Precision.read
      <*> r.optional "uniforms" [] (Uniform.readAll idAt origin)

/-- The document of a context. -/
def toJson (c : Context) : Json :=
  .object [
    ("precision", .text c.precision.name),
    ("uniforms", .list (c.uniforms.map Uniform.toJson))]

end Context

/-! ## Answers -/

/-- What the texts of an answer can be: characters where the answer has been made
here, and texts from outside where it has been read. -/
class AnswerText (τ : Type) where
  toJson : τ → Json

instance : AnswerText String := ⟨.text⟩

instance : AnswerText GivenText := ⟨.ofGiven⟩

/-- A list of texts as a document. -/
def textsToJson {τ : Type} [AnswerText τ] (texts : List τ) : Json :=
  .list (texts.map AnswerText.toJson)

/-- A program, the order of its blocks, and the problems that did not stand in
its way. -/
structure CompileAnswer (τ : Type) where
  source : τ
  order : List τ
  problems : List τ
  deriving DecidableEq, Repr

namespace CompileAnswer

/-- The name of the model in messages. -/
def title : String := "CompileResponse"

/-- An answer from its document. -/
def read : Json → Checked (CompileAnswer GivenText) :=
  Read.model title fun r =>
    CompileAnswer.mk
      <$> r.required "source" Read.text
      <*> r.optional "order" [] (Read.list Read.text)
      <*> r.optional "problems" [] (Read.list Read.text)

/-- The document of an answer. -/
def toJson {τ : Type} [AnswerText τ] (a : CompileAnswer τ) : Json :=
  .object [
    ("source", AnswerText.toJson a.source),
    ("order", textsToJson a.order),
    ("problems", textsToJson a.problems)]

end CompileAnswer

/-- Whether a graph is sound, and its problems if it is not. -/
structure CheckAnswer (τ : Type) where
  valid : Bool
  problems : List τ
  deriving DecidableEq, Repr

namespace CheckAnswer

/-- The name of the model in messages. -/
def title : String := "ValidationResponse"

/-- An answer from its document. -/
def read : Json → Checked (CheckAnswer GivenText) :=
  Read.model title fun r =>
    CheckAnswer.mk
      <$> r.required "valid" Read.bool
      <*> r.optional "problems" [] (Read.list Read.text)

/-- The document of an answer. -/
def toJson {τ : Type} [AnswerText τ] (a : CheckAnswer τ) : Json :=
  .object [("valid", .bool a.valid), ("problems", textsToJson a.problems)]

end CheckAnswer

/-- The order of a graph's blocks. -/
structure OrderAnswer (τ : Type) where
  order : List τ
  deriving DecidableEq, Repr

namespace OrderAnswer

/-- The name of the model in messages. -/
def title : String := "OrderResponse"

/-- An answer from its document. -/
def read : Json → Checked (OrderAnswer GivenText) :=
  Read.model title fun r =>
    OrderAnswer.mk <$> r.optional "order" [] (Read.list Read.text)

/-- The document of an answer. -/
def toJson {τ : Type} [AnswerText τ] (a : OrderAnswer τ) : Json :=
  .object [("order", textsToJson a.order)]

end OrderAnswer

end ShaderGraph
