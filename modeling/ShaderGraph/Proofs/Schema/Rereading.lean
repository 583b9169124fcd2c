import Mathlib
import ShaderGraph.Graph.Basic
import ShaderGraph.Kind.Basic
import ShaderGraph.Proofs.Graph.Block
import ShaderGraph.Schema.Document

/-!
# Reading what was written

Reading is generous: a number may come as a text or a truth value, a field under
an older name, a port value without its tag. Writing is not: a value has one
document. Here it is shown that the document of a value that was read, from
wherever and in whatever form, is read as the same value again
(`Given.reads_own_document`).

`Settled` says this of one reading and the writing that goes with it. It goes from
the parts to the whole: a list is settled when its items are, and a model when its
fields are and its defaults are read back.
-/

namespace ShaderGraph

/-! ## Settled readings -/

/-- What was read is read again from its document. -/
def Settled {α : Type} (read : Origin → Json → Checked α) (write : α → Json) : Prop :=
  ∀ origin document a, read origin document = .accepted a → read .value (write a) = .accepted a

namespace Checked

variable {α β : Type}

theorem map_accepted (f : α → β) {x : Checked α} {a : α} (accepted : x = .accepted a) :
    f <$> x = .accepted (f a) := by
  rw [accepted]
  rfl

theorem seq_accepted {f : Checked (α → β)} {g : α → β} {x : Checked α} {a : α}
    (function : f = .accepted g) (accepted : x = .accepted a) : f <*> x = .accepted (g a) := by
  rw [function, accepted]
  rfl

end Checked

namespace Read

variable {α : Type} {read : Origin → Json → Checked α} {write : α → Json}

/-- A reading is settled that reads every document that can be written, whatever it was read from
before. -/
theorem settled_of_forall (again : ∀ a, read .value (write a) = .accepted a) : Settled read write :=
  fun _ _ a _ => again a

theorem settled_number : Settled Read.number Json.float :=
  settled_of_forall fun _ => rfl

/-- A given text is read as it is from its own document, also when it is ill formed. -/
theorem text_ofGiven (text : GivenText) : Read.text (.ofGiven text) = .accepted text := by
  cases text <;> rfl

/-- A name that was read is not empty, and so is read again. -/
theorem settled_nonEmptyText : Settled (fun _ => Read.nonEmptyText) Json.text := by
  intro _ document text accepted
  obtain ⟨rfl, _⟩ := nonEmptyText_eq_accepted_iff.mp accepted
  exact accepted

theorem settled_patternText (pattern : Pattern) :
    Settled (fun _ => Read.patternText pattern) Json.text := by
  intro _ document text accepted
  obtain ⟨rfl, _⟩ := patternText_eq_accepted_iff.mp accepted
  exact accepted

/-- The document of items that are read back is read as the items, where each is read back with
whatever index it comes to have. -/
theorem indexedList_map_eq_accepted {read : Nat → Json → Checked α} {xs : List α}
    (again : ∀ n, ∀ x ∈ xs, read n (write x) = .accepted x) :
    Read.indexedList read (.list (xs.map write)) = .accepted xs := by
  rw [indexedList_eq_accepted_iff]
  refine ⟨xs.map write, rfl, ?_⟩
  rw [List.zipIdx_map, List.forall₂_map_left_iff]
  nth_rewrite 2 [← List.zipIdx_map_fst 0 xs]
  rw [List.forall₂_map_right_iff, List.forall₂_same]
  exact fun x hx => again x.2 x.1 (List.fst_mem_of_mem_zipIdx hx)

/-- The document of items that are read back is read as the items, where the index says nothing. -/
theorem list_map_eq_accepted {read : Json → Checked α} {xs : List α}
    (again : ∀ x ∈ xs, read (write x) = .accepted x) :
    Read.list read (.list (xs.map write)) = .accepted xs :=
  indexedList_map_eq_accepted fun _ => again

end Read

namespace Settled

variable {α : Type} {read : Origin → Json → Checked α} {write : α → Json}

/-- A list is settled if its items are: each of them was read, and so each is read again. -/
theorem list (settled : Settled read write) :
    Settled (fun origin => Read.list (read origin)) (fun xs => .list (xs.map write)) := by
  intro origin document xs accepted
  exact Read.list_map_eq_accepted
    (Read.forall_mem_of_list accepted fun item x => settled origin item x)

variable {r : Record} {names : List String} {a : α}

/-- What was read from a field is read again from its own document, whichever name the field
had. -/
theorem requiredAs (settled : Settled read write) (origin : Origin)
    (accepted : r.requiredAs names (read origin) = .accepted a) :
    read .value (write a) = .accepted a := by
  obtain ⟨field, _, accepted⟩ := Record.requiredAs_eq_accepted_iff.mp accepted
  exact settled origin field.2 a accepted

/-- What was read from a field that may be missing is read again. It may also be the default, which
therefore has to be readable itself. -/
theorem optionalAs (settled : Settled read write) (origin : Origin) {default : α}
    (usual : read .value (write default) = .accepted default)
    (accepted : r.optionalAs names default (read origin) = .accepted a) :
    read .value (write a) = .accepted a := by
  rcases Record.optionalAs_eq_accepted_iff.mp accepted with ⟨_, rfl⟩ | ⟨field, _, accepted⟩
  · exact usual
  · exact settled origin field.2 a accepted

end Settled

namespace Record

variable {α : Type} {r : Record} {names : List String} {a : α}

theorem requiredAs_of_find? {field : String × Json} {read : Json → Checked α}
    (found : r.find? names = some field) (accepted : read field.2 = .accepted a) :
    r.requiredAs names read = .accepted a :=
  requiredAs_eq_accepted_iff.mpr ⟨field, found, accepted⟩

/-- A field that is found and accepted has its value, and the default is not used. -/
theorem optionalAs_of_find? {field : String × Json} {read : Json → Checked α} (default : α)
    (found : r.find? names = some field) (accepted : read field.2 = .accepted a) :
    r.optionalAs names default read = .accepted a :=
  optionalAs_eq_accepted_iff.mpr (.inr ⟨field, found, accepted⟩)

end Record

open Read Record Checked

/-! ## Port values -/

namespace PortValue

/-- A valid value is read from its document. Each form is written with its tag, and its parts pass
the checks that validity stands for. -/
theorem read_toJson_of_valid : ∀ {value : PortValue}, value.Valid →
    PortValue.read .value value.toJson = .accepted value
  | .literal x, valid => by
    have number : Read.finiteNumber .value (.float x) = .accepted x := if_pos valid
    exact under_eq_accepted_iff.mpr (model_eq_accepted_iff.mpr
      ⟨_, rfl, seq_accepted (map_accepted _ rfl) (requiredAs_of_find? rfl number)⟩)
  | .vector xs, valid => by
    obtain ⟨bounds, finite⟩ := valid
    have numbers : Read.listWithin 2 4 (Read.finiteNumber .value) (.list (xs.map Json.float)) =
        .accepted xs :=
      listWithin_eq_accepted_iff.mpr
        ⟨list_map_eq_accepted fun x hx => if_pos (finite x hx), bounds⟩
    exact under_eq_accepted_iff.mpr (model_eq_accepted_iff.mpr
      ⟨_, rfl, seq_accepted (map_accepted _ rfl) (requiredAs_of_find? rfl numbers)⟩)
  | .variable name, valid => by
    have text : Read.patternText expressionPattern (.text name) = .accepted name :=
      patternText_eq_accepted_iff.mpr ⟨rfl, valid⟩
    exact under_eq_accepted_iff.mpr (model_eq_accepted_iff.mpr
      ⟨_, rfl, seq_accepted (map_accepted _ rfl) (requiredAs_of_find? rfl text)⟩)
  | .connection source port, valid => by
    have source_text : Read.nonEmptyText (.text source) = .accepted source :=
      nonEmptyText_eq_accepted_iff.mpr ⟨rfl, valid.1⟩
    have port_text : Read.nonEmptyText (.text port) = .accepted port :=
      nonEmptyText_eq_accepted_iff.mpr ⟨rfl, valid.2⟩
    exact under_eq_accepted_iff.mpr (model_eq_accepted_iff.mpr
      ⟨_, rfl, seq_accepted
        (seq_accepted (map_accepted _ rfl) (requiredAs_of_find? rfl source_text))
        (requiredAs_of_find? rfl port_text)⟩)

/-- The document of a valid value is in tagged form, and is left as it is when values are
tagged. -/
theorem tag?_toJson_of_valid {value : PortValue} (valid : value.Valid) :
    tag? value.toJson = some value.toJson := by
  cases value with
  | unchecked value => exact valid.elim
  | _ => rfl

end PortValue

/-! ## Blocks -/

namespace Block

/-- The document of a block's values. -/
def inputsToJson (inputs : List (GivenText × PortValue)) : Json :=
  .object (inputs.map fun input => (input.1, input.2.toJson))

theorem readInputs_inputsToJson {inputs : List (GivenText × PortValue)}
    (valid : ∀ input ∈ inputs, input.2.Valid) :
    readInputs (inputsToJson inputs) = .accepted inputs := by
  refine readInputs_eq_accepted_iff.mpr ⟨_, rfl, ?_⟩
  rw [List.forall₂_map_left_iff, List.forall₂_same]
  intro input held
  exact ⟨rfl, _, PortValue.tag?_toJson_of_valid (valid input held),
    PortValue.read_toJson_of_valid (valid input held)⟩

theorem settled_readInputs : Settled (fun _ => readInputs) inputsToJson := by
  intro _ document inputs accepted
  exact readInputs_inputsToJson (valid_of_mem_readInputs accepted)

end Block

/-- A position that was read has two numbers, and these are read again. They need not be finite. -/
theorem Position.settled_read : Settled Position.read Position.toJson := by
  have number : ∀ x, Read.number .value (.float x) = .accepted x := fun _ => rfl
  refine settled_of_forall fun p => model_eq_accepted_iff.mpr ⟨_, rfl, ?_⟩
  exact seq_accepted (map_accepted _ (optionalAs_of_find? _ rfl (number p.x)))
    (optionalAs_of_find? _ rfl (number p.y))

/-- A block that was read is read again: its document has current names only, and its values are in
tagged form. -/
theorem Block.settled_read : Settled Block.read Block.toJson := by
  intro origin document b accepted
  obtain ⟨_, _, at_id, at_kind, at_inputs, at_position⟩ := Block.read_eq_accepted_iff.mp accepted
  have id_again := (settled_patternText idPattern).requiredAs origin at_id
  have kind_again := settled_nonEmptyText.requiredAs origin at_kind
  have inputs_again := Block.settled_readInputs.optionalAs origin rfl at_inputs
  have position_again := Position.settled_read.optionalAs origin rfl at_position
  exact Block.read_eq_accepted_iff.mpr ⟨_, rfl, requiredAs_of_find? rfl id_again,
    requiredAs_of_find? rfl kind_again, optionalAs_of_find? _ rfl inputs_again,
    optionalAs_of_find? _ rfl position_again⟩

/-! ## Uniforms and ports -/

/-- The document of a list of numbers is read as the list, for each number is read as itself. -/
theorem list_numbers (xs : List Binary64) :
    Read.list (Read.number .value) (.list (xs.map Json.float)) = .accepted xs :=
  list_map_eq_accepted fun _ _ => rfl

/-- The value of a uniform is read again in the form it had, a number or a list. -/
theorem UniformValue.settled_read : Settled UniformValue.read UniformValue.toJson := by
  refine settled_of_forall fun value => ?_
  cases value with
  | number x => rfl
  | vector xs =>
    rw [UniformValue.toJson, UniformValue.read, list_numbers]
    rfl

theorem ValueType.settled_read :
    Settled (fun _ => ValueType.read) fun t => .text t.name := by
  refine settled_of_forall fun t => ?_
  cases t <;> rfl

/-- A uniform that was read has an id of its own, given or generated, so another id that waits for
it makes no difference when it is read again. -/
theorem Uniform.read_toJson {id : String} {origin : Origin} {document : Json} {u : Uniform}
    (accepted : Uniform.read id origin document = .accepted u) (id' : String) :
    Uniform.read id' .value u.toJson = .accepted u := by
  simp only [Uniform.read, model_eq_accepted_iff, seq_eq_accepted_iff,
    map_eq_accepted_iff] at accepted
  obtain ⟨_, rfl, _, step, ⟨_, max, ⟨_, min, ⟨_, value, ⟨_, type, ⟨_, name, ⟨id, at_id, rfl⟩,
    at_name, rfl⟩, at_type, rfl⟩, at_value, rfl⟩, at_min, rfl⟩, at_max, rfl⟩, at_step, rfl⟩ :=
    accepted
  have id_again := text_ofGiven id
  have name_again := (settled_patternText identifierPattern).requiredAs origin at_name
  have type_again := ValueType.settled_read.optionalAs origin rfl at_type
  have value_again := UniformValue.settled_read.optionalAs origin rfl at_value
  have min_again := settled_number.optionalAs origin rfl at_min
  have max_again := settled_number.optionalAs origin rfl at_max
  have step_again := settled_number.optionalAs origin rfl at_step
  refine model_eq_accepted_iff.mpr ⟨_, rfl, ?_⟩
  refine seq_accepted ?_ (optionalAs_of_find? _ rfl step_again)
  refine seq_accepted ?_ (optionalAs_of_find? _ rfl max_again)
  refine seq_accepted ?_ (optionalAs_of_find? _ rfl min_again)
  refine seq_accepted ?_ (optionalAs_of_find? _ rfl value_again)
  refine seq_accepted ?_ (optionalAs_of_find? _ rfl type_again)
  refine seq_accepted ?_ (requiredAs_of_find? rfl name_again)
  exact map_accepted _ (optionalAs_of_find? _ rfl id_again)

/-- The document of a default or of none. -/
def PortDefault.toJson? (default : Option PortDefault) : Json :=
  (default.map PortDefault.toJson).getD .null

/-- The default of a port is read again in the form it had, or as missing. -/
theorem PortDefault.settled_read : Settled PortDefault.read PortDefault.toJson? := by
  refine settled_of_forall fun default => ?_
  cases default with
  | none => rfl
  | some default =>
    cases default with
    | number x => rfl
    | vector xs =>
      show PortDefault.read .value (.list (xs.map Json.float)) = .accepted (some (.vector xs))
      unfold PortDefault.read
      rw [list_numbers]
      rfl
    | expression text => cases text <;> rfl

theorem Port.settled_read : Settled Port.read Port.toJson := by
  intro origin document p accepted
  simp only [Port.read, model_eq_accepted_iff, seq_eq_accepted_iff,
    map_eq_accepted_iff] at accepted
  obtain ⟨_, rfl, _, default, ⟨_, type, ⟨_, label, ⟨id, at_id, rfl⟩, at_label, rfl⟩, at_type, rfl⟩,
    at_default, rfl⟩ := accepted
  have id_again := settled_nonEmptyText.requiredAs origin at_id
  have label_again := settled_nonEmptyText.requiredAs origin at_label
  have type_again := ValueType.settled_read.requiredAs origin at_type
  have default_again := PortDefault.settled_read.optionalAs origin rfl at_default
  refine model_eq_accepted_iff.mpr ⟨_, rfl, ?_⟩
  refine seq_accepted ?_ (optionalAs_of_find? _ rfl default_again)
  refine seq_accepted ?_ (requiredAs_of_find? rfl type_again)
  refine seq_accepted ?_ (requiredAs_of_find? rfl label_again)
  exact map_accepted _ (requiredAs_of_find? rfl id_again)

/-! ## Kinds -/

theorem Category.settled_read :
    Settled (fun _ => Category.read) fun category => .text category.name := by
  refine settled_of_forall fun category => ?_
  cases category <;> rfl

/-- The document of output ports, the first and the others. -/
def Kind.outputsToJson (outputs : Port × List Port) : Json :=
  .list ((outputs.1 :: outputs.2).map Port.toJson)

/-- The outputs of a kind are read again; there is at least one, as was asked for when they were
read. -/
theorem Kind.settled_readOutputs : Settled Kind.readOutputs Kind.outputsToJson := by
  intro origin document outputs accepted
  obtain ⟨ports, listed, checked⟩ := andThen_eq_accepted_iff.mp accepted
  cases ports with
  | nil => exact absurd checked fail_ne_accepted
  | cons first others =>
    cases checked
    exact andThen_eq_accepted_iff.mpr
      ⟨first :: others, Port.settled_read.list origin document _ listed, rfl⟩

/-- A kind that was read is read again, with its ports and its template. -/
theorem Kind.settled_read : Settled Kind.read Kind.toJson := by
  intro origin document k accepted
  simp only [Kind.read, model_eq_accepted_iff, seq_eq_accepted_iff,
    map_eq_accepted_iff] at accepted
  obtain ⟨_, rfl, _, outputs, ⟨_, inputs, ⟨_, template, ⟨_, icon, ⟨_, description, ⟨_, category,
    ⟨_, name, ⟨id, at_id, rfl⟩, at_name, rfl⟩, at_category, rfl⟩, at_description, rfl⟩, at_icon,
    rfl⟩, at_template, rfl⟩, at_inputs, rfl⟩, at_outputs, rfl⟩ := accepted
  have id_again := settled_nonEmptyText.requiredAs origin at_id
  have name_again := settled_nonEmptyText.requiredAs origin at_name
  have category_again := Category.settled_read.requiredAs origin at_category
  have description_again := text_ofGiven description
  have icon_again := text_ofGiven icon
  have template_again := settled_nonEmptyText.requiredAs origin at_template
  have inputs_again := Port.settled_read.list.optionalAs origin rfl at_inputs
  have outputs_again := Kind.settled_readOutputs.requiredAs origin at_outputs
  refine model_eq_accepted_iff.mpr ⟨_, rfl, ?_⟩
  -- The outputs go to two fields, so the steps cannot be told from the kind, last field first.
  exact seq_accepted (seq_accepted (seq_accepted (seq_accepted (seq_accepted (seq_accepted
    (seq_accepted
      (map_accepted _ (requiredAs_of_find? rfl id_again))
      (requiredAs_of_find? rfl name_again))
      (requiredAs_of_find? rfl category_again))
      (optionalAs_of_find? _ rfl description_again))
      (optionalAs_of_find? _ rfl icon_again))
      (requiredAs_of_find? rfl template_again))
      (optionalAs_of_find? _ rfl inputs_again))
      (requiredAs_of_find? rfl outputs_again)

/-! ## Graphs -/

/-- Blocks that were read are read again. There were not too many of them, and there are as many in
the document. -/
theorem Graph.settled_readBlocks :
    Settled Graph.readBlocks fun blocks => .list (blocks.map Block.toJson) := by
  intro origin document blocks accepted
  obtain ⟨listed, accepted, checked⟩ := andThen_eq_accepted_iff.mp accepted
  by_cases many : Graph.maxBlocks < listed.length
  · rw [if_pos many] at checked
    exact absurd checked fail_ne_accepted
  · rw [if_neg many] at checked
    cases checked
    exact andThen_eq_accepted_iff.mpr
      ⟨blocks, Block.settled_read.list origin document _ accepted, if_neg many⟩

/-- The uniforms of a graph are read again from their documents, with whatever ids wait. If the
graph had none given, its list of them is empty and is written as such. -/
theorem Uniform.readAll_toJson {idAt : Nat → String} {origin : Origin} {r : Record}
    {uniforms : List Uniform}
    (accepted : r.optional "uniforms" [] (Uniform.readAll idAt origin) = .accepted uniforms)
    (idAt' : Nat → String) :
    Uniform.readAll idAt' .value (.list (uniforms.map Uniform.toJson)) = .accepted uniforms := by
  refine indexedList_map_eq_accepted fun n u hu => ?_
  rcases Record.optionalAs_eq_accepted_iff.mp accepted with ⟨_, rfl⟩ | ⟨field, _, listed⟩
  · cases hu
  · exact forall_mem_of_indexedList listed
      (P := fun u => Uniform.read (idAt' n) .value u.toJson = .accepted u)
      (fun _ _ _ read => Uniform.read_toJson read (idAt' n)) u hu

/-- A graph is read again from its fields, whatever stands behind them, as the precision does in a
request. -/
theorem Graph.readFields_toFields {idAt : Nat → String} {origin : Origin} {r : Record} {g : Graph}
    (accepted : Graph.readFields idAt origin r = .accepted g) (idAt' : Nat → String)
    (others : List (GivenText × Json)) :
    Graph.readFields idAt' .value ⟨g.toFields ++ others⟩ = .accepted g := by
  simp only [Graph.readFields, seq_eq_accepted_iff,
    map_eq_accepted_iff] at accepted
  obtain ⟨_, uniforms, ⟨blocks, at_blocks, rfl⟩, at_uniforms, rfl⟩ := accepted
  have blocks_again := Graph.settled_readBlocks.optionalAs origin rfl at_blocks
  have uniforms_again := Uniform.readAll_toJson at_uniforms idAt'
  exact seq_accepted (map_accepted _ (optionalAs_of_find? _ rfl blocks_again))
    (optionalAs_of_find? _ rfl uniforms_again)

/-- A graph that was read is read again from its document, and the ids that wait make no
difference. -/
theorem Graph.read_toJson {idAt : Nat → String} {origin : Origin} {document : Json} {g : Graph}
    (accepted : Graph.read idAt origin document = .accepted g) (idAt' : Nat → String) :
    Graph.read idAt' .value g.toJson = .accepted g := by
  obtain ⟨fields, rfl, accepted⟩ := model_eq_accepted_iff.mp accepted
  have again := Graph.readFields_toFields accepted idAt' []
  rw [List.append_nil] at again
  exact model_eq_accepted_iff.mpr ⟨_, rfl, again⟩

/-- The document of a precision or of none. -/
def Precision.toJson? (precision : Option Precision) : Json :=
  (precision.map fun p => Json.text p.name).getD .null

theorem Precision.settled_read :
    Settled (fun _ => Read.nullable Precision.read) Precision.toJson? := by
  refine settled_of_forall fun precision => ?_
  cases precision with
  | none => rfl
  | some precision => cases precision <;> rfl

/-- A request that was read is read again, with its graph and the precision it asks for. -/
theorem Request.read_toJson {idAt : Nat → String} {origin : Origin} {document : Json}
    {request : Request} (accepted : Request.read idAt origin document = .accepted request)
    (idAt' : Nat → String) : Request.read idAt' .value request.toJson = .accepted request := by
  simp only [Request.read, model_eq_accepted_iff, seq_eq_accepted_iff,
    map_eq_accepted_iff] at accepted
  obtain ⟨_, rfl, _, precision, ⟨graph, at_graph, rfl⟩, at_precision, rfl⟩ := accepted
  have graph_again := Graph.readFields_toFields at_graph idAt'
    [(GivenText.text "precision", Precision.toJson? precision)]
  have precision_again := Precision.settled_read.optionalAs origin rfl at_precision
  refine model_eq_accepted_iff.mpr ⟨_, rfl, ?_⟩
  exact seq_accepted (map_accepted _ graph_again) (optionalAs_of_find? _ rfl precision_again)

/-! ## Documents as they are given -/

namespace Sample

/-- A text in the form of older documents: other names, and values without tags. -/
def olderText : String :=
  "\x7b\"id\":\"old\",\"blockType\":\"sum\"," ++
    "\"inputValues\":\x7b\"left\":\"near:total:more\",\"right\":\"iTime / 2.0\"\x7d," ++
    "\"position\":\x7b\"x\":\"NaN\"\x7d\x7d"

/-- The document that the text spells. -/
def olderDocument : Json :=
  .object [
    ("id", .text "old"),
    ("blockType", .text "sum"),
    ("inputValues", .object [("left", .text "near:total:more"), ("right", .text "iTime / 2.0")]),
    ("position", .object [("x", .text "NaN")])]

/-- The block that the document describes. -/
def older : Block :=
  ⟨"old", "sum", [("left", .connection "near" "total"), ("right", .variable "iTime / 2.0")],
    ⟨.nan, .zero⟩⟩

end Sample

/-- A document as it is given: a value, or a text that spells one. -/
inductive Given
  | value (document : Json)
  | text (document : GivenText)

/-- What a model reads from a document. -/
def Given.read {α : Type} (read : Origin → Json → Checked α) : Given → Checked α
  | .value document => read .value document
  | .text document => (Read.givenDocument document).andThen (read .text)

namespace Given

/-- What is read from a given document is read from a value, which came as it is or was spelled. So
only values have to be spoken of. -/
theorem exists_of_read {α : Type} {read : Origin → Json → Checked α} {given : Given} {a : α}
    (accepted : given.read read = .accepted a) :
    ∃ origin document, read origin document = .accepted a := by
  cases given with
  | value document => exact ⟨.value, document, accepted⟩
  | text document =>
    obtain ⟨value, _, accepted⟩ := andThen_eq_accepted_iff.mp accepted
    exact ⟨.text, value, accepted⟩

/-- What was read from a given document by a settled reading is read again. -/
theorem reads_of_settled {α : Type} {read : Origin → Json → Checked α} {write : α → Json}
    (settled : Settled read write) {given : Given} {a : α}
    (accepted : given.read read = .accepted a) : read .value (write a) = .accepted a := by
  obtain ⟨origin, document, accepted⟩ := exists_of_read accepted
  exact settled origin document a accepted

/-- **What was read is read again from its own document.** A block, a graph, a request, a
uniform, a port or a kind that was read from a value or from a text has a document, with every
field under its own name and every port value in tagged form, and this document as a value is
read as the same again. An id that was generated for a uniform is in the document, so the ids that
wait when it is read again play no part. -/
theorem reads_own_document (given : Given) (id id' : String) (idAt idAt' : Nat → String) :
    (∀ b, given.read Block.read = .accepted b → Block.read .value b.toJson = .accepted b) ∧
    (∀ g, given.read (Graph.read idAt) = .accepted g →
      Graph.read idAt' .value g.toJson = .accepted g) ∧
    (∀ r, given.read (Request.read idAt) = .accepted r →
      Request.read idAt' .value r.toJson = .accepted r) ∧
    (∀ u, given.read (Uniform.read id) = .accepted u →
      Uniform.read id' .value u.toJson = .accepted u) ∧
    (∀ p, given.read Port.read = .accepted p → Port.read .value p.toJson = .accepted p) ∧
    (∀ k, given.read Kind.read = .accepted k → Kind.read .value k.toJson = .accepted k) := by
  refine ⟨fun b => reads_of_settled Block.settled_read, ?_, ?_, ?_,
    fun p => reads_of_settled Port.settled_read, fun k => reads_of_settled Kind.settled_read⟩
  · intro g accepted
    obtain ⟨origin, document, accepted⟩ := exists_of_read accepted
    exact Graph.read_toJson accepted idAt'
  · intro r accepted
    obtain ⟨origin, document, accepted⟩ := exists_of_read accepted
    exact Request.read_toJson accepted idAt'
  · intro u accepted
    obtain ⟨origin, document, accepted⟩ := exists_of_read accepted
    exact Uniform.read_toJson accepted id'

/-- A block from the text of an older document, with a number that is none; in the block's own
document it is a value, and is read again. -/
theorem reads_own_document_older :
    (Given.text Sample.olderText).read Block.read = .accepted Sample.older ∧
      Block.read .value Sample.older.toJson = .accepted Sample.older := by
  have spelled : Json.read .strict Sample.olderText = .ok Sample.olderDocument := by cbv
  have described : Block.read .text Sample.olderDocument = .accepted Sample.older := by cbv
  have document : Read.givenDocument Sample.olderText = .accepted Sample.olderDocument := by
    rw [Read.givenDocument, Read.document, spelled]
  have accepted : (Given.text Sample.olderText).read Block.read = .accepted Sample.older := by
    rw [Given.read, document, Checked.andThen, described]
  have again := (reads_own_document (.text Sample.olderText) "" "" (fun _ => "") fun _ => "").1
  exact ⟨accepted, again _ accepted⟩

end Given

end ShaderGraph
