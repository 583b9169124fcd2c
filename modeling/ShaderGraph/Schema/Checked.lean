import ShaderGraph.Number.Decimal
import ShaderGraph.Schema.Fault

/-!
# Checked values — reading a document against its model

`Checked α` is a value of `α` or the faults that stood in its way. It is an
applicative functor that collects: where two parts are read side by side, the
faults of both are reported, in order. Reading one part *after* another, so that
only the first reports, is `Checked.andThen`.

The readers of this module know JSON and nothing of graphs. A model is read
field by field from a `Record`.
-/

namespace ShaderGraph

/-- A value, or the faults that stood in its way. -/
inductive Checked (α : Type)
  | accepted (value : α)
  | refused (faults : List Fault)

namespace Checked

/-- A function applied to the accepted value. -/
def map {α β : Type} (f : α → β) : Checked α → Checked β
  | .accepted a => .accepted (f a)
  | .refused faults => .refused faults

/-- Two values side by side: the faults of both are kept, in order. -/
def seq {α β : Type} : Checked (α → β) → (Unit → Checked α) → Checked β
  | .accepted f, x => (x ()).map f
  | .refused faults, x =>
    match x () with
    | .accepted _ => .refused faults
    | .refused more => .refused (faults ++ more)

instance : Applicative Checked where
  map := map
  pure := .accepted
  seq := seq

/-- A further check of an accepted value. -/
def andThen {α β : Type} (x : Checked α) (f : α → Checked β) : Checked β :=
  match x with
  | .accepted a => f a
  | .refused faults => .refused faults

/-- A single fault at the value itself. -/
def fail {α : Type} (cause : Cause) (value : Json) : Checked α :=
  .refused [⟨cause, [], value⟩]

/-- The result for a part, seen from the whole. -/
def under {α : Type} (step : Step) : Checked α → Checked α
  | .accepted a => .accepted a
  | .refused faults => .refused (faults.map (·.under step))

/-- The result for a model: the value, or the rejection of the document. -/
def toExcept {α : Type} (title : String) (origin : Origin) : Checked α → Except Rejection α
  | .accepted a => .ok a
  | .refused faults => .error ⟨title, origin, faults⟩

end Checked

/-! ## Scalars -/

namespace Read

/-- A text about which nothing more is asked. An ill-formed one will do. -/
def text (value : Json) : Checked GivenText :=
  match value with
  | .text s => .accepted (.text s)
  | .illFormedText points => .accepted (.illFormed points)
  | _ => .fail .notText value

/-- A text of one character at least. -/
def nonEmptyText (value : Json) : Checked String :=
  match value with
  | .text s => if s.isEmpty then .fail .emptyText value else .accepted s
  | .illFormedText _ => .fail .illFormedText value
  | _ => .fail .notText value

/-- A class of texts, under the pattern that describes it in messages. -/
structure Pattern where
  source : String
  accepts : List Char → Bool

/-- A text of a class, which holds no empty text. -/
def patternText (pattern : Pattern) (value : Json) : Checked String :=
  (nonEmptyText value).andThen fun s =>
    if pattern.accepts s.toList then .accepted s
    else .fail (.patternMismatch pattern.source) value

/-- A number. Booleans count as one and zero, and a text may spell a number. A
whole number beyond every binary64 value is infinite in the text of a document
and refused elsewhere. -/
def number (origin : Origin) (value : Json) : Checked Binary64 :=
  match value with
  | .float x => .accepted x
  | .bool b => .accepted (.ofBool b)
  | .int n =>
    let x := Binary64.ofInt n
    if x.isFinite || origin = .text then .accepted x else .fail .notNumber value
  | .text s =>
    match Decimal.readField? s with
    | some x => .accepted x
    | none => .fail .unreadableNumber value
  | .illFormedText _ => .fail .illFormedText value
  | _ => .fail .notNumber value

/-- A number other than NaN and the infinities. -/
def finiteNumber (origin : Origin) (value : Json) : Checked Binary64 :=
  (number origin value).andThen fun x =>
    if x.isFinite then .accepted x else .fail .notFinite value

/-- The texts that mean true, in lower case. -/
def trueWords : List String := ["1", "true", "t", "yes", "y", "on"]

/-- The texts that mean false, in lower case. -/
def falseWords : List String := ["0", "false", "f", "no", "n", "off"]

/-- The whole number that a number is, if it is one and fits 64 bits. Of the
numbers that are not written as whole numbers, the least that fits is left out. -/
def word64? (value : Json) : Option Int :=
  match value with
  | .int n => if -(twoTo 63 : Int) ≤ n ∧ n < (twoTo 63 : Int) then some n else none
  | .float x => x.whole?.filter fun n => -(twoTo 63 : Int) < n ∧ n < (twoTo 63 : Int)
  | _ => none

/-- A truth value: one of the words in any case, or the numbers one and zero. Other
whole numbers of 64 bits cannot be read as one, and no other numbers can be meant
as one. -/
def bool (value : Json) : Checked Bool :=
  match value with
  | .bool b => .accepted b
  | .int _ | .float _ =>
    match word64? value with
    | some 1 => .accepted true
    | some 0 => .accepted false
    | some _ => .fail .unreadableBool value
    | none => .fail .notBool value
  | .text s =>
    let word := String.ofList (s.toList.map Char.toLower)
    if trueWords.contains word then .accepted true
    else if falseWords.contains word then .accepted false
    else .fail .unreadableBool value
  | .illFormedText _ => .fail .illFormedText value
  | _ => .fail .notBool value

/-- One of a set of named values. -/
def choice {α : Type} (cause : List String → Cause) (choices : List (String × α)) (value : Json) :
    Checked α :=
  let refused : Checked α := .fail (cause (choices.map (·.1))) value
  match value with
  | .text s =>
    match choices.find? (·.1 == s) with
    | some found => .accepted found.2
    | none => refused
  | .illFormedText _ => .fail .illFormedText value
  | _ => refused

/-- A value or null. -/
def nullable {α : Type} (read : Json → Checked α) : Json → Checked (Option α)
  | .null => .accepted none
  | value => (read value).map some

/-! ## Lists -/

/-- The items from an index on, each read with its index; all faults are kept. -/
def itemsFrom {α : Type} (read : Nat → Json → Checked α) : Nat → List Json → Checked (List α)
  | _, [] => .accepted []
  | index, item :: rest =>
    List.cons <$> (read index item).under (.index index) <*> itemsFrom read (index + 1) rest

/-- A list of items, each read with its index. -/
def indexedList {α : Type} (read : Nat → Json → Checked α) (value : Json) : Checked (List α) :=
  match value with
  | .list items => itemsFrom read 0 items
  | _ => .fail .notList value

/-- A list of items. -/
def list {α : Type} (read : Json → Checked α) (value : Json) : Checked (List α) :=
  indexedList (fun _ => read) value

/-- A list with a least number of items, which counts only when every item was
accepted. -/
def listOfAtLeast {α : Type} (least : Nat) (read : Json → Checked α) (value : Json) :
    Checked (List α) :=
  (list read value).andThen fun items =>
    if items.length < least then .fail (.tooShort least items.length) value else .accepted items

/-- A list of `least` to `most` items. A list that is too long is refused before
its items are looked at. -/
def listWithin {α : Type} (least most : Nat) (read : Json → Checked α) (value : Json) :
    Checked (List α) :=
  match value with
  | .list items =>
    if most < items.length then .fail (.tooLong most items.length) value
    else listOfAtLeast least read value
  | _ => listOfAtLeast least read value

end Read

/-! ## Records -/

/-- An object whose fields are about to be read. -/
structure Record where
  fields : List (GivenText × Json)

namespace Record

/-- The object as a value. -/
def value (r : Record) : Json := .object r.fields

/-- The first of several names that the object has, with its value. -/
def find? (r : Record) (names : List String) : Option (String × Json) :=
  names.findSome? fun name => (Json.lookup? r.fields name).map (name, ·)

/-- A field the object must have, under the first of its names that is there. -/
def requiredAs {α : Type} (r : Record) (names : List String) (read : Json → Checked α) :
    Checked α :=
  match r.find? names with
  | some (name, value) => (read value).under (.name name)
  | none => (Checked.fail .missing r.value).under (.name (names.headD ""))

/-- A field the object may have, under the first of its names that is there. -/
def optionalAs {α : Type} (r : Record) (names : List String) (default : α)
    (read : Json → Checked α) : Checked α :=
  match r.find? names with
  | some (name, value) => (read value).under (.name name)
  | none => .accepted default

/-- A field the object must have. -/
def required {α : Type} (r : Record) (name : String) (read : Json → Checked α) : Checked α :=
  r.requiredAs [name] read

/-- A field the object may have. -/
def optional {α : Type} (r : Record) (name : String) (default : α) (read : Json → Checked α) :
    Checked α :=
  r.optionalAs [name] default read

end Record

/-- A model read from the fields of an object. -/
def Read.model {α : Type} (name : String) (read : Record → Checked α) (value : Json) : Checked α :=
  match value with
  | .object fields => read ⟨fields⟩
  | _ => .fail (.notModel name) value

end ShaderGraph
