import ShaderGraph.Text.Substitute

/-!
# Paths

A path is a root and the names below it. Empty names and single dots say
nothing and are dropped; two dots are kept, for only the disk knows what they
mean. Exactly two slashes in front are a root of their own.
-/

namespace ShaderGraph

/-- A path. -/
structure Path where
  root : String
  names : List String
  deriving DecidableEq, Repr

namespace Path

/-- The root a text starts with. -/
def rootOf (cs : List Char) : String :=
  match cs.takeWhile (· = '/') with
  | [] => ""
  | [_, _] => "//"
  | _ => "/"

/-- The path a text writes. -/
def ofText (text : String) : Path :=
  let cs := text.toList
  let names := (Text.pieces '/' cs).map String.ofList
  ⟨rootOf cs, names.filter fun name => name != "" && name != "."⟩

/-- The path as text. -/
def display (p : Path) : String :=
  let text := p.root ++ String.intercalate "/" p.names
  if text.isEmpty then "." else text

end Path

end ShaderGraph
