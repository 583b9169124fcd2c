import ShaderGraph.Graph.Block
import ShaderGraph.Proofs.Schema.Checked

/-!
# Blocks that came out of a document

A document is checked when it is read. So a value that was read is `Valid`: its
numbers are finite, its vectors have two to four components, its texts are not
empty and hold the characters they may hold, and it is not unchecked. A block
that was read holds valid values (`Block.Parsed.valid`). Only an editor can make
a block that holds others.

A block is read part by part (`Block.read_eq_accepted_iff`), and its values are
read one by one: each is put into tagged form, and that form `Means` the value
(`Block.readInputs_eq_accepted_iff`).
-/

namespace ShaderGraph

namespace PortValue

/-- What a document's check of a value promises. -/
def Valid : PortValue → Prop
  | .literal x => x.isFinite = true
  | .vector xs => (2 ≤ xs.length ∧ xs.length ≤ 4) ∧ ∀ x ∈ xs, x.isFinite = true
  | .variable name => name ≠ "" ∧ name.toList.all isExpressionChar = true
  | .connection source port => source ≠ "" ∧ port ≠ ""
  | .unchecked _ => False

variable {origin : Origin} {document : Json} {value : PortValue}

/-- A literal that was read is finite: the one thing that is asked of it beyond
being a number. -/
theorem valid_of_readLiteral (accepted : readLiteral origin document = .accepted value) :
    value.Valid := by
  simp only [readLiteral, Read.model_eq_accepted_iff, Checked.seq_eq_accepted_iff,
    Checked.map_eq_accepted_iff, Record.required, Record.requiredAs_eq_accepted_iff] at accepted
  obtain ⟨_, _, _, x, ⟨_, _, rfl⟩, ⟨_, _, checked⟩, rfl⟩ := accepted
  exact Read.isFinite_of_finiteNumber checked

/-- A vector that was read has two to four components, all of them finite. -/
theorem valid_of_readVector (accepted : readVector origin document = .accepted value) :
    value.Valid := by
  simp only [readVector, Read.model_eq_accepted_iff, Checked.seq_eq_accepted_iff,
    Checked.map_eq_accepted_iff, Record.required, Record.requiredAs_eq_accepted_iff,
    Read.listWithin_eq_accepted_iff] at accepted
  obtain ⟨_, _, _, xs, ⟨_, _, rfl⟩, ⟨_, _, listed, bounds⟩, rfl⟩ := accepted
  exact ⟨bounds, Read.forall_mem_of_list listed fun _ _ => Read.isFinite_of_finiteNumber⟩

/-- A variable that was read has a name made of the characters of expressions, and
at least one of them. -/
theorem valid_of_readVariable (accepted : readVariable document = .accepted value) :
    value.Valid := by
  simp only [readVariable, Read.model_eq_accepted_iff, Checked.seq_eq_accepted_iff,
    Checked.map_eq_accepted_iff, Record.required, Record.requiredAs_eq_accepted_iff,
    Read.patternText_eq_accepted_iff] at accepted
  obtain ⟨_, _, _, name, ⟨_, _, rfl⟩, ⟨_, _, _, nonempty, matched⟩, rfl⟩ := accepted
  exact ⟨nonempty, matched⟩

/-- A connection that was read names a block and an output, neither of them
empty. -/
theorem valid_of_readConnection (accepted : readConnection document = .accepted value) :
    value.Valid := by
  simp only [readConnection, Read.model_eq_accepted_iff, Checked.seq_eq_accepted_iff,
    Checked.map_eq_accepted_iff, Record.required, Record.requiredAs_eq_accepted_iff,
    Read.nonEmptyText_eq_accepted_iff] at accepted
  obtain ⟨_, _, _, port, ⟨_, source, ⟨_, _, rfl⟩, ⟨_, _, _, hsource⟩, rfl⟩, ⟨_, _, _, hport⟩, rfl⟩ :=
    accepted
  exact ⟨hsource, hport⟩

/-- A value that was read is valid, whichever of the four forms its tag announced.
The unchecked form comes from no tag. -/
theorem valid_of_read (accepted : read origin document = .accepted value) : value.Valid := by
  unfold read at accepted
  split at accepted
  · split at accepted
    · exact absurd accepted Checked.fail_ne_accepted
    · exact valid_of_readLiteral (Checked.under_eq_accepted_iff.mp accepted)
    · exact valid_of_readVector (Checked.under_eq_accepted_iff.mp accepted)
    · exact valid_of_readVariable (Checked.under_eq_accepted_iff.mp accepted)
    · exact valid_of_readConnection (Checked.under_eq_accepted_iff.mp accepted)
    · exact absurd accepted Checked.fail_ne_accepted
  · exact absurd accepted Checked.fail_ne_accepted

/-- What a document says of a port: its tagged form is read as the value. -/
def Means (document : Json) (value : PortValue) : Prop :=
  ∃ tagged, tag? document = some tagged ∧ PortValue.read .value tagged = .accepted value

end PortValue

namespace Block

/-- A block that came out of a document. -/
def Parsed (b : Block) : Prop :=
  ∃ origin document, Block.read origin document = .accepted b

/-- Values are tagged and read one by one, and each means something on its own: the
ports keep their names and their order. By induction on the fields. -/
theorem exists_tagAll?_iff : ∀ {fields : List (GivenText × Json)} {inputs : List (GivenText × PortValue)},
    (∃ tagged, tagAll? fields = some tagged ∧ readTagged tagged = .accepted inputs) ↔
      List.Forall₂ (fun field input => input.1 = field.1 ∧ PortValue.Means field.2 input.2)
        fields inputs
  | [], inputs => by
    rw [List.forall₂_nil_left_iff]
    constructor
    · rintro ⟨_, tagged, accepted⟩
      cases tagged
      cases accepted
      rfl
    · rintro rfl
      exact ⟨[], rfl, rfl⟩
  | (port, value) :: fields, inputs => by
    rw [List.forall₂_cons_left_iff]
    constructor
    · rintro ⟨_, tagged, accepted⟩
      unfold tagAll? at tagged
      split at tagged
      next first rest head tail =>
        cases tagged
        simp only [readTagged, Checked.seq_eq_accepted_iff, Checked.map_eq_accepted_iff,
          Checked.under_eq_accepted_iff] at accepted
        obtain ⟨_, others, ⟨read, accepted, rfl⟩, more, rfl⟩ := accepted
        exact ⟨_, others, ⟨rfl, first, head, accepted⟩, exists_tagAll?_iff.mp ⟨rest, tail, more⟩, rfl⟩
      next => cases tagged
    · rintro ⟨⟨port, read⟩, others, ⟨rfl, first, head, accepted⟩, more, rfl⟩
      obtain ⟨rest, tail, more⟩ := exists_tagAll?_iff.mpr more
      refine ⟨(port, first) :: rest, by rw [tagAll?, head, tail], ?_⟩
      simp only [readTagged, Checked.seq_eq_accepted_iff, Checked.map_eq_accepted_iff,
        Checked.under_eq_accepted_iff]
      exact ⟨_, others, ⟨read, accepted, rfl⟩, more, rfl⟩

/-- The values of a block are read from an object, each for itself. One value that
means nothing is enough to refuse them all. -/
theorem readInputs_eq_accepted_iff {document : Json} {inputs : List (GivenText × PortValue)} :
    readInputs document = .accepted inputs ↔
      ∃ fields, document = .object fields ∧
        List.Forall₂ (fun field input => input.1 = field.1 ∧ PortValue.Means field.2 input.2)
          fields inputs := by
  cases document with
  | object fields =>
    simp only [Json.object.injEq, exists_eq_left', ← exists_tagAll?_iff]
    unfold readInputs
    cases tagged : tagAll? fields <;> simp [tagged]
  | _ => simp [readInputs]

/-- A block is read field by field, and is read when every field is; two of its
fields have an older name as well. -/
theorem read_eq_accepted_iff {origin : Origin} {document : Json} {b : Block} :
    Block.read origin document = .accepted b ↔ ∃ fields, document = .object fields ∧
      Record.required ⟨fields⟩ "id" (Read.patternText idPattern) = .accepted b.id ∧
      Record.requiredAs ⟨fields⟩ ["kind_id", "blockType"] Read.nonEmptyText = .accepted b.kindId ∧
      Record.optionalAs ⟨fields⟩ ["input_values", "inputValues"] [] readInputs = .accepted b.inputs ∧
      Record.optional ⟨fields⟩ "position" .zero (Position.read origin) = .accepted b.position := by
  simp only [Block.read, Read.model_eq_accepted_iff, Checked.seq_eq_accepted_iff,
    Checked.map_eq_accepted_iff]
  constructor
  · rintro ⟨fields, rfl, _, position, ⟨_, inputs, ⟨_, kindId, ⟨id, at_id, rfl⟩, at_kind, rfl⟩, at_inputs,
      rfl⟩, at_position, rfl⟩
    exact ⟨fields, rfl, at_id, at_kind, at_inputs, at_position⟩
  · rintro ⟨fields, rfl, at_id, at_kind, at_inputs, at_position⟩
    exact ⟨fields, rfl, _, _, ⟨_, _, ⟨_, _, ⟨_, at_id, rfl⟩, at_kind, rfl⟩, at_inputs, rfl⟩, at_position,
      rfl⟩

/-- Every value that was read for a port is valid, since each was read from its own
field. -/
theorem valid_of_mem_readInputs {document : Json} {inputs : List (GivenText × PortValue)}
    (accepted : readInputs document = .accepted inputs) : ∀ input ∈ inputs, input.2.Valid := by
  obtain ⟨fields, -, each⟩ := readInputs_eq_accepted_iff.mp accepted
  clear accepted
  induction each with
  | nil => simp
  | cons head _ ih =>
    obtain ⟨_, _, _, accepted⟩ := head
    exact List.forall_mem_cons.mpr ⟨PortValue.valid_of_read accepted, ih⟩

/-- A block that was read holds valid values only. Values set afterwards need not
be, which is why this speaks of blocks as they were read. -/
theorem Parsed.valid {b : Block} (parsed : b.Parsed) : ∀ input ∈ b.inputs, input.2.Valid := by
  obtain ⟨origin, document, accepted⟩ := parsed
  obtain ⟨_, _, _, _, at_inputs, _⟩ := read_eq_accepted_iff.mp accepted
  rcases Record.optionalAs_eq_accepted_iff.mp at_inputs with ⟨_, none⟩ | ⟨_, _, read⟩
  · rw [← none]
    simp
  · exact valid_of_mem_readInputs read

/-- The texts an id can be. -/
def ValidId (id : String) : Prop := id ≠ "" ∧ id.toList.all isIdChar = true

instance : DecidablePred ValidId := fun _ => inferInstanceAs (Decidable (_ ∧ _))

/-- A block that was read has an id of the characters of ids, so its names in the
program are told apart by their ids. -/
theorem Parsed.id_valid {b : Block} (parsed : b.Parsed) : ValidId b.id := by
  obtain ⟨origin, document, accepted⟩ := parsed
  obtain ⟨_, _, at_id, _⟩ := read_eq_accepted_iff.mp accepted
  obtain ⟨_, _, accepted⟩ := Record.requiredAs_eq_accepted_iff.mp at_id
  exact (Read.patternText_eq_accepted_iff.mp accepted).2

/-- The value held for a port is one of the values held, so what is known of all of
them is known of it. -/
theorem mem_inputs_of_value? {b : Block} {port : String} {value : PortValue}
    (held : b.value? port = some value) : ∃ input ∈ b.inputs, input.2 = value := by
  unfold value? at held
  split at held
  · cases held
  · exact ⟨_, Keyed.mem_of_find? held, rfl⟩

/-- The value a block that was read holds for a port is valid. This is the form in
which arguments and dependencies use validity. -/
theorem Parsed.value?_valid {b : Block} (parsed : b.Parsed) {port : String} {value : PortValue}
    (held : b.value? port = some value) : value.Valid := by
  obtain ⟨input, hmem, rfl⟩ := mem_inputs_of_value? held
  exact parsed.valid input hmem

/-- A block that was read holds no unchecked value, so the branch that refuses such
values is never taken for it. -/
theorem Parsed.value?_ne_unchecked {b : Block} (parsed : b.Parsed) (port : String) (held : Json) :
    b.value? port ≠ some (.unchecked held) :=
  fun h => parsed.value?_valid h

end Block

end ShaderGraph
