import ShaderGraph.Keyed
import ShaderGraph.Kind.Basic
import ShaderGraph.Text.Substitute

/-!
# Catalogs — the kinds a graph may use

A catalog is a list of kinds, in the order they are offered. `Catalog.ofKinds`
admits a list only if no two kinds share an id and every template names its
function; `Catalog.find?` takes the first kind with an id, which in an admitted
catalog is the only one.
-/

namespace ShaderGraph

/-- The kinds a graph may use. -/
structure Catalog where
  kinds : List Kind
  deriving DecidableEq, Repr

/-- Why a list of kinds is no catalog. -/
inductive CatalogDefect
  | duplicateId (id : String)
  | namelessTemplate (id : String)
  deriving DecidableEq, Repr

/-- The message of a defect. -/
def CatalogDefect.message : CatalogDefect → String
  | .duplicateId id => "Duplicate block kind id '" ++ id ++ "'"
  | .namelessTemplate id =>
    "Template for block kind '" ++ id ++ "' does not declare " ++ Kind.namePlaceholder

namespace Catalog

/-- The template says where the function's name goes. -/
def namesFunction (k : Kind) : Bool :=
  Text.occurs Kind.namePlaceholder.toList k.template.toList

/-- The first defect of a list of kinds, after kinds with the ids `seen`. -/
def defect? (seen : List String) : List Kind → Option CatalogDefect
  | [] => none
  | k :: rest =>
    if seen.contains k.id then some (.duplicateId k.id)
    else if !namesFunction k then some (.namelessTemplate k.id)
    else defect? (k.id :: seen) rest

/-- A catalog of the given kinds. -/
def ofKinds (kinds : List Kind) : Except CatalogDefect Catalog :=
  match defect? [] kinds with
  | some defect => .error defect
  | none => .ok ⟨kinds⟩

/-- The kind with an id. -/
def find? (c : Catalog) (id : String) : Option Kind :=
  c.kinds.find? (·.id == id)

/-- The kinds of a category, given by name. -/
def inCategory (c : Catalog) (category : String) : List Kind :=
  c.kinds.filter (·.category.name == category)

/-- The kinds of a category, or all kinds where the category is empty. -/
def listKinds (c : Catalog) (category : String) : List Kind :=
  if category.isEmpty then c.kinds else c.inCategory category

/-- The categories, each once, in the order they first appear. -/
def categories (c : Catalog) : List Category :=
  (c.kinds.map Kind.category).foldl
    (fun seen category => if seen.contains category then seen else seen ++ [category]) []

/-- How many kinds each category has, counted kind by kind, by the name of the
category in ascending order. -/
def categoryCounts (c : Catalog) : List (String × Nat) :=
  (Keyed.tally (c.kinds.map (·.category.name))).mergeSort fun a b => a.1 ≤ b.1

end Catalog

end ShaderGraph
