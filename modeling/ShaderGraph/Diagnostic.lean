/-!
# Diagnostics — what is wrong with a graph

Each thing that can be wrong with a graph is a constructor; its message is
written in one place. A `Refusal` is why no program was made: a list of
diagnostics, a cycle, or a number that does not fit the width of a printed
number. The last has no message of its own and is no fault of the graph's shape.
-/

namespace ShaderGraph

/-- Something wrong with a graph. -/
inductive Diagnostic
  | cycle (block : String)
  | nothingToGenerate
  | unknownKind (kind : String)
  | invalidKind (kind : String)
  | duplicateId (block : String)
  | missingBlock (block source : String)
  | missingOutput (block port source : String)
  | noDefault (port : String)
  | unsupportedValue (port block shown : String)
  | collision (owner block identifier : String)
  deriving DecidableEq, Repr

/-- The message of a diagnostic. -/
def Diagnostic.message : Diagnostic → String
  | .cycle block => "Circular dependency detected involving block " ++ block
  | .nothingToGenerate => "Nothing to generate: the block graph has no instances."
  | .unknownKind kind => "Unknown block kind: " ++ kind
  | .invalidKind kind => "Invalid block type: " ++ kind
  | .duplicateId block => "Duplicate block id: " ++ block
  | .missingBlock block source =>
    "Block " ++ block ++ " references non-existent block " ++ source
  | .missingOutput block port source =>
    "Block " ++ block ++ " references non-existent output " ++ port ++ " on block " ++ source
  | .noDefault port => "Input '" ++ port ++ "' has no default value"
  | .unsupportedValue port block shown =>
    "Unsupported value for input '" ++ port ++ "' on block " ++ block ++ ": " ++ shown
  | .collision owner block identifier =>
    "Block ids " ++ owner ++ " and " ++ block ++ " map to the same identifier " ++ identifier

/-- Why no program was made. -/
inductive Refusal
  | rejected (diagnostics : List Diagnostic)
  | cyclic (block : String)
  | numberTooWide
  deriving DecidableEq, Repr

namespace Refusal

/-- The diagnostics of a refusal. -/
def diagnostics : Refusal → List Diagnostic
  | .rejected ds => ds
  | .cyclic block => [.cycle block]
  | .numberTooWide => []

/-- The line that stands for a list of messages: the first of them. -/
def headline (messages : List String) : String :=
  messages.headD "Block graph compilation failed"

end Refusal

end ShaderGraph
