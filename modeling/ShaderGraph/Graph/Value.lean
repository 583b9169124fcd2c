import ShaderGraph.Json.Display
import ShaderGraph.Schema.Checked
import ShaderGraph.Text.Substitute

/-!
# Port values — what a block holds for its inputs

An input takes a number, a vector, an expression in free variables, or the
output of another block. In a document a value is an object whose `kind` says
which; the shorter forms of older documents (a bare number, list or text) are
first turned into that form by `PortValue.tag?`.

An editor may also store a value without checking it. Such a value is
`unchecked`; it can be kept and moved around, but no call can be made from it.
-/

namespace ShaderGraph

/-- What a block holds for an input. -/
inductive PortValue
  | literal (value : Binary64)
  | vector (components : List Binary64)
  | variable (name : String)
  | connection (source port : String)
  | unchecked (value : Json)

namespace PortValue

/-! ## Tagged documents -/

/-- The field that tells the forms apart. -/
def tagField : String := "kind"

/-- The tags, in the order messages list them. -/
def tags : List String := ["literal", "vector", "variable", "connection"]

/-- The tag of a form, which a document may leave out where the form is known. -/
def tagged (tag : String) (r : Record) : Checked Unit :=
  r.optional tagField () (Read.choice .notLiteral [(tag, ())])

/-- The characters of an expression: the operators, the parentheses, the point,
the blank, and those of identifiers and numbers. -/
def isExpressionChar (c : Char) : Bool :=
  c.isAlphanum || c == '_' || "-+*/(). ".toList.contains c

/-- The texts a variable may be. -/
def expressionPattern : Read.Pattern where
  source := "^[-+*/(). 0-9a-zA-Z_]+$"
  accepts cs := cs.all isExpressionChar

/-- A number in tagged form. -/
def readLiteral (origin : Origin) : Json → Checked PortValue :=
  Read.model "LiteralValue" fun r =>
    (fun _ value => .literal value)
      <$> tagged "literal" r
      <*> r.required "value" (Read.finiteNumber origin)

/-- A vector of two to four components in tagged form. -/
def readVector (origin : Origin) : Json → Checked PortValue :=
  Read.model "VectorValue" fun r =>
    (fun _ values => .vector values)
      <$> tagged "vector" r
      <*> r.required "values" (Read.listWithin 2 4 (Read.finiteNumber origin))

/-- An expression in tagged form. -/
def readVariable : Json → Checked PortValue :=
  Read.model "VariableRef" fun r =>
    (fun _ name => .variable name)
      <$> tagged "variable" r
      <*> r.required "name" (Read.patternText expressionPattern)

/-- An output of another block in tagged form. -/
def readConnection : Json → Checked PortValue :=
  Read.model "ConnectionRef" fun r =>
    (fun _ source port => .connection source port)
      <$> tagged "connection" r
      <*> r.required "source_instance_id" Read.nonEmptyText
      <*> r.required "source_port_id" Read.nonEmptyText

/-- The name of the model in messages. -/
def title : String := "tagged-union[LiteralValue,VectorValue,VariableRef,ConnectionRef]"

/-- A value in tagged form. -/
def read (origin : Origin) (value : Json) : Checked PortValue :=
  match value with
  | .object fields =>
    match Json.lookup? fields tagField with
    | none => .fail (.tagMissing tagField) value
    | some (.text "literal") => (readLiteral origin value).under (.name "literal")
    | some (.text "vector") => (readVector origin value).under (.name "vector")
    | some (.text "variable") => (readVariable value).under (.name "variable")
    | some (.text "connection") => (readConnection value).under (.name "connection")
    | some tag => .fail (.tagUnknown tagField tag.displayBare tags) value
  | _ => .fail .notTagged value

/-- The document of a value: the tagged form, or an unchecked value as it is. -/
def toJson : PortValue → Json
  | .literal value => .object [(tagField, .text "literal"), ("value", .float value)]
  | .vector values =>
    .object [(tagField, .text "vector"), ("values", .list (values.map Json.float))]
  | .variable name => .object [(tagField, .text "variable"), ("name", .text name)]
  | .connection source port =>
    .object [
      (tagField, .text "connection"),
      ("source_instance_id", .text source),
      ("source_port_id", .text port)]
  | .unchecked value => value

/-! ## Untagged documents -/

/-- Stands between a block and one of its outputs. -/
def connectionMark : Char := ':'

/-- A text as a tagged value: `block:port` is a connection, whatever follows a
second mark, and any other text is an expression. -/
def tagText (text : String) : Json :=
  match Text.cut? connectionMark text.toList with
  | some (source, behind) =>
    .object [
      (tagField, .text "connection"),
      ("source_instance_id", .text (String.ofList source)),
      ("source_port_id", .text (String.ofList (behind.takeWhile (· ≠ connectionMark))))]
  | none => .object [(tagField, .text "variable"), ("name", .text text)]

/-- An ill-formed text as a tagged value, by the same rule. -/
def tagPoints (points : List Nat) : Json :=
  let isMark (n : Nat) : Bool := n == connectionMark.toNat
  match points.dropWhile (!isMark ·) with
  | _ :: behind =>
    .object [
      (tagField, .text "connection"),
      ("source_instance_id", .ofPoints (points.takeWhile (!isMark ·))),
      ("source_port_id", .ofPoints (behind.takeWhile (!isMark ·)))]
  | [] => .object [(tagField, .text "variable"), ("name", .illFormedText points)]

/-- The tagged form of a value; objects are taken to be in it already, and null
has none. -/
def tag? : Json → Option Json
  | .null => none
  | .bool b => some (.object [(tagField, .text "literal"), ("value", .float (.ofBool b))])
  | .int n => some (.object [(tagField, .text "literal"), ("value", .int n)])
  | .float x => some (.object [(tagField, .text "literal"), ("value", .float x)])
  | .text s => some (tagText s)
  | .illFormedText points => some (tagPoints points)
  | .list items => some (.object [(tagField, .text "vector"), ("values", .list items)])
  | .object fields => some (.object fields)

/-- Why null is no value. -/
def noValueReason : String := "Unsupported port value 'None'"

end PortValue

end ShaderGraph
