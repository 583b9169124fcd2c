import ShaderGraph.Check
import ShaderGraph.Program.Generate

/-!
# Compiling graphs

`Graph.compile` answers with the program of a graph, the order of its blocks and
the problems that did not stand in its way; `Graph.check` answers with the
problems alone, and `Graph.order` with the order.
-/

namespace ShaderGraph

/-! ## Precision -/

/-- The value says nothing: null, false, a zero, or something empty. -/
def Json.isVacant : Json → Bool
  | .null => true
  | .bool b => !b
  | .int n => n == 0
  | .float x => x = .zero || x = .finite true .zero
  | .text s => s.isEmpty
  | .illFormedText _ => false
  | .list items => items.isEmpty
  | .object fields => fields.isEmpty

/-- The precision that is wanted, or the usual one where nothing is said. -/
def Context.pickPrecision (wanted usual : Json) : Except Rejection Precision :=
  let asked := if wanted.isVacant then usual else wanted
  ((Precision.read asked).under (.name "precision")).toExcept Context.title .value

/-! ## Answers -/

namespace Graph

/-- The program of a graph, with its order and its remaining problems. -/
def compile (c : Catalog) (precision : Precision) (g : Graph) :
    Except Refusal (CompileAnswer String) := do
  let program ← Program.generate c ⟨precision, g.uniforms⟩ g.blocks
  let ordered ← Program.sorted c g.blocks
  .ok {
    source := program.text
    order := ordered.map Block.id
    problems := (Block.problems c g.blocks).map Diagnostic.message }

/-- The problems of a graph. -/
def check (c : Catalog) (g : Graph) : CheckAnswer String :=
  let problems := (Block.problems c g.blocks).map Diagnostic.message
  ⟨problems.isEmpty, problems⟩

/-- The order of a graph's blocks. -/
def order (c : Catalog) (g : Graph) : Except Refusal (OrderAnswer String) :=
  (Program.sorted c g.blocks).map fun ordered => ⟨ordered.map Block.id⟩

end Graph

end ShaderGraph
