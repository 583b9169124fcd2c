import ShaderGraph.Diagnostic
import ShaderGraph.Names.Basic
import ShaderGraph.Order.Dependencies

/-!
# Collisions — two blocks, one identifier

Different ids can be made into the same identifier. The first block to declare
an identifier owns it; a later block that declares it too collides with the
owner. Of several identifiers that two blocks share, the first is reported.
-/

namespace ShaderGraph.Names

/-- Who owns what, and what has been reported. -/
structure Ledger where
  owners : List (String × String)
  reported : List (String × String)
  found : List Diagnostic

namespace Ledger

/-- Nothing owned. -/
def empty : Ledger := ⟨[], [], []⟩

/-- The owner of an identifier. -/
def owner? (l : Ledger) (identifier : String) : Option String :=
  (l.owners.find? (·.1 == identifier)).map (·.2)

/-- A block declares an identifier. -/
def declare (block : String) (l : Ledger) (identifier : String) : Ledger :=
  match l.owner? identifier with
  | none => { l with owners := l.owners ++ [(identifier, block)] }
  | some owner =>
    if owner = block ∨ (owner, block) ∈ l.reported then l
    else
      { l with
        reported := l.reported ++ [(owner, block)]
        found := l.found ++ [.collision owner block identifier] }

/-- A block declares all its identifiers. A block of unknown kind has none. -/
def enter (c : Catalog) (l : Ledger) (b : Block) : Ledger :=
  match c.find? b.kindId with
  | some kind => (declared kind b.id).foldl (declare b.id) l
  | none => l

end Ledger

/-- The collisions between the blocks of a graph. -/
def collisions (c : Catalog) (blocks : List Block) : List Diagnostic :=
  ((Block.firsts blocks).foldl (Ledger.enter c) .empty).found

end ShaderGraph.Names
