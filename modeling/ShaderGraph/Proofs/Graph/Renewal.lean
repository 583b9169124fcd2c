import Mathlib
import ShaderGraph.Proofs.Graph.Block
import ShaderGraph.Proofs.Graph.GeneratedIds

/-!
# Older documents

Documents of an older form have other names for a block's kind and values, and give a value without
its tag. `Graph.renew` puts a document into the current form: it renames the fields of every block
that lacks the current name, and puts every value into tagged form. One document may mix both forms,
and may be wrong anywhere.

The renewed document is read as the same graph, or both are refused (`Graph.reads_renewed`). Two
readings that generate ids for uniforms on their own give graphs that are the same apart from these
ids. Where the documents are refused, the faults are not the same: they name the fields they are
found in, and a renewed document has others.
-/

namespace ShaderGraph

/-! ## Fields -/

namespace Json

/-- The fields with a current name in the place of an older one. -/
def renamed (old new : String) (fields : List (GivenText × Json)) : List (GivenText × Json) :=
  fields.map fun field => if field.1 = .text old then (.text new, field.2) else field

/-- The fields with a current name in the place of an older one, unless the current name is there. -/
def renameField (old new : String) (fields : List (GivenText × Json)) : List (GivenText × Json) :=
  if (lookup? fields new).isSome then fields else renamed old new fields

/-- The fields with another value for a name. -/
def mapField (name : String) (f : Json → Json) (fields : List (GivenText × Json)) :
    List (GivenText × Json) :=
  fields.map fun field => if field.1 = .text name then (field.1, f field.2) else field

variable {old new key : String} {fields : List (GivenText × Json)}

/-- A field that is rewritten has its new value, if it was there at all; rewriting adds no field. -/
theorem lookup?_mapField_self (name : String) (f : Json → Json) (fields : List (GivenText × Json)) :
    lookup? (mapField name f fields) name = (lookup? fields name).map f := by
  induction fields with
  | nil => rfl
  | cons field rest ih =>
    rw [mapField, List.map_cons, ← mapField]
    by_cases same : field.1 = .text name
    · rw [if_pos same, lookup?_cons, lookup?_cons, if_pos same, if_pos same, Option.map_some]
    · rw [if_neg same, lookup?_cons, lookup?_cons, if_neg same, if_neg same, ih]

theorem lookup?_mapField_of_ne {name : String} (f : Json → Json) (other : key ≠ name)
    (fields : List (GivenText × Json)) :
    lookup? (mapField name f fields) key = lookup? fields key := by
  induction fields with
  | nil => rfl
  | cons field rest ih =>
    rw [mapField, List.map_cons, ← mapField, lookup?_cons, lookup?_cons, ih]
    by_cases same : field.1 = .text name
    · have different : field.1 ≠ .text key := by simpa [same] using other.symm
      rw [if_pos same, if_neg different, if_neg different]
    · rw [if_neg same]

/-- Renaming touches neither the fields before it nor those after it, as long as their names are not
the two in question. -/
theorem lookup?_renamed_of_ne (not_old : key ≠ old) (not_new : key ≠ new)
    (fields : List (GivenText × Json)) :
    lookup? (renamed old new fields) key = lookup? fields key := by
  induction fields with
  | nil => rfl
  | cons field rest ih =>
    rw [renamed, List.map_cons, ← renamed, lookup?_cons, lookup?_cons, ih]
    by_cases same : field.1 = .text old
    · have before : field.1 ≠ .text key := by simpa [same] using not_old.symm
      have after : GivenText.text new ≠ .text key := by simpa using not_new.symm
      rw [if_pos same, if_neg before, if_neg after]
    · rw [if_neg same]

/-- Under the new name stands what stood under the old one. This needs the new name to be free: the
first field of a name is the one that counts. -/
theorem lookup?_renamed_new (absent : lookup? fields new = none) :
    lookup? (renamed old new fields) new = lookup? fields old := by
  induction fields with
  | nil => rfl
  | cons field rest ih =>
    rw [lookup?_cons] at absent
    by_cases current : field.1 = .text new
    · rw [if_pos current] at absent
      cases absent
    · rw [if_neg current] at absent
      rw [renamed, List.map_cons, ← renamed, lookup?_cons, lookup?_cons, ih absent]
      by_cases same : field.1 = .text old
      · rw [if_pos same, if_pos rfl, if_pos same]
      · rw [if_neg same, if_neg current, if_neg same]

/-- After renaming nothing is left under the old name, since every field of that name is renamed and
not only the first. -/
theorem lookup?_renamed_old (different : old ≠ new) (fields : List (GivenText × Json)) :
    lookup? (renamed old new fields) old = none := by
  induction fields with
  | nil => rfl
  | cons field rest ih =>
    rw [renamed, List.map_cons, ← renamed, lookup?_cons, ih]
    by_cases same : field.1 = .text old
    · have other : GivenText.text new ≠ .text old := by simpa using different.symm
      rw [if_pos same, if_neg other]
    · rw [if_neg same, if_neg same]

/-- A name that is neither the older nor the current one has the value it had, whether or not there
was anything to rename. -/
theorem lookup?_renameField_of_ne (not_old : key ≠ old) (not_new : key ≠ new)
    (fields : List (GivenText × Json)) :
    lookup? (renameField old new fields) key = lookup? fields key := by
  unfold renameField
  split
  · rfl
  · exact lookup?_renamed_of_ne not_old not_new fields

/-- The current name has the value that was found for both: its own if there was one, and otherwise
that of the older name. -/
theorem lookup?_renameField_new (fields : List (GivenText × Json)) :
    lookup? (renameField old new fields) new = (lookup? fields new).or (lookup? fields old) := by
  unfold renameField
  cases current : lookup? fields new with
  | some value => simp [current]
  | none => simp [lookup?_renamed_new current]

/-- Where there is no current name after renaming, there is no older one either, for it would have
been renamed. -/
theorem lookup?_renameField_old (different : old ≠ new)
    (absent : lookup? (renameField old new fields) new = none) :
    lookup? (renameField old new fields) old = none := by
  unfold renameField at absent ⊢
  split at absent
  next current => simp [absent] at current
  next none =>
    rw [if_neg none]
    exact lookup?_renamed_old different fields

end Json

/-! ## Renamed fields of a record -/

namespace Record

/-- A renamed field is found under the current name, and so a field that may be given under two
names is read as before. -/
theorem value?_renameField {old new : String} (different : old ≠ new)
    (fields : List (GivenText × Json)) :
    value? ⟨Json.renameField old new fields⟩ [new, old] = value? ⟨fields⟩ [new, old] := by
  rw [value?_pair, value?_pair]
  cases found : Json.lookup? (Json.renameField old new fields) new with
  | none =>
    rw [Json.lookup?_renameField_old different found, ← Json.lookup?_renameField_new, found]
    rfl
  | some value =>
    rw [← Json.lookup?_renameField_new, found]
    rfl

/-- A rewritten value is found where no older name can be found instead. The premise holds after
renaming, by `lookup?_renameField_old`. -/
theorem value?_mapField {old new : String} {fields : List (GivenText × Json)} (different : old ≠ new)
    (absent : Json.lookup? fields new = none → Json.lookup? fields old = none) (f : Json → Json) :
    value? ⟨Json.mapField new f fields⟩ [new, old] = (value? ⟨fields⟩ [new, old]).map f := by
  rw [value?_pair, value?_pair, Json.lookup?_mapField_self, Json.lookup?_mapField_of_ne f different]
  cases found : Json.lookup? fields new with
  | none => rw [absent found]; rfl
  | some value => rfl

end Record

/-! ## Values of a port -/

namespace PortValue

/-- A value in tagged form. A null has none and is left. -/
def renew (value : Json) : Json := (tag? value).getD value

/-- What has been tagged is in tagged form, and tagging it once more leaves it as it is. -/
theorem tag?_of_tag? {value tagged : Json} (tags : tag? value = some tagged) :
    tag? tagged = some tagged := by
  cases value with
  | null => cases tags
  | text s =>
    cases tags
    unfold tagText
    split <;> rfl
  | illFormedText points =>
    cases tags
    unfold tagPoints
    dsimp only
    split <;> rfl
  | bool b => cases tags; rfl
  | int n => cases tags; rfl
  | float x => cases tags; rfl
  | list items => cases tags; rfl
  | object fields => cases tags; rfl

/-- A renewed value is tagged as the value was. Values that cannot be tagged are left alone by
renewal, and still cannot be. -/
theorem tag?_renew (value : Json) : tag? (renew value) = tag? value := by
  unfold renew
  cases tags : tag? value with
  | none => rw [Option.getD_none, tags]
  | some tagged => rw [Option.getD_some, tag?_of_tag? tags]

/-- The tagged form means what the value means. Numbers, lists and texts are shorthands, and nothing
is said by them that a tagged value does not say. -/
theorem means_renew_iff {document : Json} {value : PortValue} :
    Means (renew document) value ↔ Means document value := by
  unfold Means
  rw [tag?_renew]

end PortValue

/-! ## Blocks -/

namespace Block

/-- The values of a block in tagged form. -/
def renewInputs : Json → Json
  | .object fields => .object (fields.map fun field => (field.1, PortValue.renew field.2))
  | value => value

/-- The fields of a block under their current names, with its values in tagged form. -/
def renewFields (fields : List (GivenText × Json)) : List (GivenText × Json) :=
  Json.mapField "input_values" renewInputs
    (Json.renameField "inputValues" "input_values" (Json.renameField "blockType" "kind_id" fields))

/-- The document of a block in the current form. -/
def renew : Json → Json
  | .object fields => .object (renewFields fields)
  | value => value

/-- Renewing all values of a block changes nothing of what is read, each being read for itself. -/
theorem readInputs_renewInputs {document : Json} {inputs : List (GivenText × PortValue)} :
    readInputs (renewInputs document) = .accepted inputs ↔ readInputs document = .accepted inputs := by
  cases document with
  | object fields =>
    rw [renewInputs, readInputs_eq_accepted_iff, readInputs_eq_accepted_iff]
    simp only [Json.object.injEq, exists_eq_left', List.forall₂_map_left_iff,
      PortValue.means_renew_iff]
  | _ => rfl

/-- The values are renewed apart from the other fields, so for these only the renaming of the kind's
field is left to look at. -/
theorem lookup?_renewFields_of_ne {key : String} (not_values : key ≠ "input_values")
    (not_older : key ≠ "inputValues") (fields : List (GivenText × Json)) :
    Json.lookup? (renewFields fields) key =
      Json.lookup? (Json.renameField "blockType" "kind_id" fields) key := by
  rw [renewFields, Json.lookup?_mapField_of_ne _ not_values,
    Json.lookup?_renameField_of_ne not_older not_values]

/-- The kind of a renewed block is the one it had, now given under the current name. -/
theorem value?_kind_renewFields (fields : List (GivenText × Json)) :
    Record.value? ⟨renewFields fields⟩ ["kind_id", "blockType"] =
      Record.value? ⟨fields⟩ ["kind_id", "blockType"] := by
  rw [Record.value?_pair, lookup?_renewFields_of_ne (by decide) (by decide),
    lookup?_renewFields_of_ne (by decide) (by decide), ← Record.value?_pair,
    Record.value?_renameField (by decide)]

/-- The values of a renewed block are its values renewed, under whichever name they were given. -/
theorem value?_inputs_renewFields (fields : List (GivenText × Json)) :
    Record.value? ⟨renewFields fields⟩ ["input_values", "inputValues"] =
      (Record.value? ⟨fields⟩ ["input_values", "inputValues"]).map renewInputs := by
  have renamed : Record.value? ⟨Json.renameField "blockType" "kind_id" fields⟩
      ["input_values", "inputValues"] = Record.value? ⟨fields⟩ ["input_values", "inputValues"] := by
    rw [Record.value?_pair, Record.value?_pair, Json.lookup?_renameField_of_ne (by decide) (by decide),
      Json.lookup?_renameField_of_ne (by decide) (by decide)]
  rw [renewFields, Record.value?_mapField (by decide) (Json.lookup?_renameField_old (by decide)),
    Record.value?_renameField (by decide), renamed]

/-- A renewed block is read as the block. What is accepted is the same, with the same result; the
faults of a refused block may point elsewhere. -/
theorem read_renew {origin : Origin} {document : Json} {b : Block} :
    Block.read origin (renew document) = .accepted b ↔ Block.read origin document = .accepted b := by
  cases document with
  | object fields =>
    rw [renew, read_eq_accepted_iff, read_eq_accepted_iff]
    simp only [Json.object.injEq, exists_eq_left']
    have id : Record.value? ⟨renewFields fields⟩ ["id"] = Record.value? ⟨fields⟩ ["id"] := by
      rw [Record.value?_singleton, Record.value?_singleton,
        lookup?_renewFields_of_ne (by decide) (by decide),
        Json.lookup?_renameField_of_ne (by decide) (by decide)]
    have position : Record.value? ⟨renewFields fields⟩ ["position"] =
        Record.value? ⟨fields⟩ ["position"] := by
      rw [Record.value?_singleton, Record.value?_singleton,
        lookup?_renewFields_of_ne (by decide) (by decide),
        Json.lookup?_renameField_of_ne (by decide) (by decide)]
    refine and_congr ?_ (and_congr ?_ (and_congr ?_ ?_))
    · exact Record.requiredAs_congr id
    · exact Record.requiredAs_congr (value?_kind_renewFields fields)
    · exact Record.optionalAs_map (value?_inputs_renewFields fields) fun _ => readInputs_renewInputs
    · exact Record.optionalAs_congr position
  | _ => rfl

end Block

/-! ## Graphs -/

namespace Graph

/-- The documents of blocks in the current form. -/
def renewBlocks : Json → Json
  | .list items => .list (items.map Block.renew)
  | value => value

/-- The document of a graph in the current form. -/
def renew : Json → Json
  | .object fields => .object (Json.mapField "instances" renewBlocks fields)
  | value => value

/-- Blocks are read one by one, and then counted: more than the limit are refused as a whole. -/
theorem readBlocks_eq_accepted_iff {origin : Origin} {document : Json} {blocks : List Block} :
    readBlocks origin document = .accepted blocks ↔
      Read.list (Block.read origin) document = .accepted blocks ∧ blocks.length ≤ maxBlocks := by
  rw [readBlocks, Checked.andThen_eq_accepted_iff]
  constructor
  · intro accepted
    obtain ⟨listed, accepted, checked⟩ := accepted
    by_cases many : maxBlocks < listed.length
    · rw [if_pos many] at checked
      exact absurd checked Checked.fail_ne_accepted
    · rw [if_neg many] at checked
      cases checked
      exact ⟨accepted, Nat.le_of_not_lt many⟩
  · intro accepted
    exact ⟨blocks, accepted.1, if_neg (Nat.not_lt.mpr accepted.2)⟩

/-- Renewing every block of a list leaves their number and what is read from each as it was. -/
theorem readBlocks_renewBlocks {origin : Origin} {document : Json} {blocks : List Block} :
    readBlocks origin (renewBlocks document) = .accepted blocks ↔
      readBlocks origin document = .accepted blocks := by
  cases document with
  | list items =>
    rw [renewBlocks, readBlocks_eq_accepted_iff, readBlocks_eq_accepted_iff,
      Read.list_eq_accepted_iff, Read.list_eq_accepted_iff]
    simp only [Json.list.injEq, exists_eq_left', List.forall₂_map_left_iff, Block.read_renew]
  | _ => rfl

/-- The graph among the fields of an object is read field by field, blocks and uniforms apart; both
may be missing. -/
theorem readFields_eq_accepted_iff {idAt : Nat → String} {origin : Origin} {r : Record} {g : Graph} :
    readFields idAt origin r = .accepted g ↔
      r.optional "instances" [] (readBlocks origin) = .accepted g.blocks ∧
      r.optional "uniforms" [] (Uniform.readAll idAt origin) = .accepted g.uniforms := by
  simp only [readFields, Checked.seq_eq_accepted_iff, Checked.map_eq_accepted_iff]
  constructor
  · intro accepted
    obtain ⟨_, uniforms, ⟨blocks, at_blocks, rfl⟩, at_uniforms, rfl⟩ := accepted
    exact ⟨at_blocks, at_uniforms⟩
  · intro accepted
    exact ⟨_, _, ⟨_, accepted.1, rfl⟩, accepted.2, rfl⟩

/-- A field beside the blocks is read as before, for renewal rewrites the field of the blocks and no
other. -/
theorem optional_mapField {α : Type} {name : String} (other : name ≠ "instances")
    {fields : List (GivenText × Json)} {default a : α} {read : Json → Checked α} :
    Record.optional ⟨Json.mapField "instances" renewBlocks fields⟩ name default read = .accepted a ↔
      Record.optional ⟨fields⟩ name default read = .accepted a := by
  have same : Record.value? ⟨Json.mapField "instances" renewBlocks fields⟩ [name] =
      Record.value? ⟨fields⟩ [name] := by
    rw [Record.value?_singleton, Record.value?_singleton, Json.lookup?_mapField_of_ne _ other]
  exact Record.optionalAs_congr same

/-- The graph among renewed fields is the graph among the fields: the same blocks, and the same
uniforms with the same ids. -/
theorem readFields_mapField {idAt : Nat → String} {origin : Origin} {fields : List (GivenText × Json)} {g : Graph} :
    readFields idAt origin ⟨Json.mapField "instances" renewBlocks fields⟩ = .accepted g ↔
      readFields idAt origin ⟨fields⟩ = .accepted g := by
  have blocks : Record.value? ⟨Json.mapField "instances" renewBlocks fields⟩ ["instances"] =
      (Record.value? ⟨fields⟩ ["instances"]).map renewBlocks := by
    rw [Record.value?_singleton, Record.value?_singleton, Json.lookup?_mapField_self]
  rw [readFields_eq_accepted_iff, readFields_eq_accepted_iff]
  refine and_congr ?_ ?_
  · exact Record.optionalAs_map blocks fun _ => readBlocks_renewBlocks
  · exact optional_mapField (by decide)

/-- A renewed document describes the graph that the document describes. -/
theorem read_renew {idAt : Nat → String} {origin : Origin} {document : Json} {g : Graph} :
    Graph.read idAt origin (renew document) = .accepted g ↔
      Graph.read idAt origin document = .accepted g := by
  cases document with
  | object fields => exact readFields_mapField
  | _ => rfl

end Graph

/-- A renewed request asks for what the request asks for, its precision standing beside the graph
and untouched. -/
theorem Request.read_renew {idAt : Nat → String} {origin : Origin} {document : Json}
    {request : Request} :
    Request.read idAt origin (Graph.renew document) = .accepted request ↔
      Request.read idAt origin document = .accepted request := by
  cases document with
  | object fields =>
    have precision : ∀ a, Record.optional ⟨Json.mapField "instances" Graph.renewBlocks fields⟩
        "precision" none (Read.nullable Precision.read) = .accepted a ↔
        Record.optional ⟨fields⟩ "precision" none (Read.nullable Precision.read) = .accepted a :=
      fun _ => Graph.optional_mapField (by decide)
    simp only [Graph.renew, Request.read, Read.model, Checked.seq_eq_accepted_iff,
      Checked.map_eq_accepted_iff, Graph.readFields_mapField, precision]
  | _ => rfl

/-! ## A document of the older form -/

namespace Sample

/-- A block under older names with bare values, a block of the current form, and two uniforms of
which one has no id. -/
def mixedDocument : Json :=
  .object [
    ("instances", .list [
      .object [
        ("id", .text "old"),
        ("blockType", .text "sum"),
        ("inputValues", .object [("left", .text "near:total:more"), ("right", .int 2)])],
      .object [("id", .text "near"), ("kind_id", .text "sum")]]),
    ("uniforms", .list [
      .object [("name", .text "uTint")],
      .object [("id", .text "kept"), ("name", .text "uGain")]])]

/-- What can be seen of a graph: its blocks with their kinds, the connections of each, and the ids
of its uniforms. -/
structure Outline where
  kinds : List (String × String)
  connections : List (List (GivenText × String × String))
  ids : List GivenText
  deriving DecidableEq

/-- The outline of a graph. -/
def outline (g : Graph) : Outline :=
  ⟨g.blocks.map fun b => (b.id, b.kindId), g.blocks.map Block.connections, g.uniforms.map Uniform.id⟩

/-- The outline of the document's graph, with an id for the uniform that has none. -/
def mixedOutline (id : String) : Outline :=
  ⟨[("old", "sum"), ("near", "sum")], [[("left", "near", "total")], []], [id, "kept"]⟩

end Sample

namespace Graph

/-- What is asked of a graph: its program, its problems and its order. -/
def answers (c : Catalog) (precision : Precision) (g : Graph) :
    Except Refusal (CompileAnswer String) × CheckAnswer String × Except Refusal (OrderAnswer String) :=
  (g.compile c precision, g.check c, g.order c)

/-- Graphs that differ in generated ids have the same program, the same problems and the same order,
and so the same answers altogether. -/
theorem SameButIds.answers_eq {idAt idAt' : Nat → String} {g g' : Graph}
    (same : SameButIds idAt idAt' g g') (c : Catalog) (precision : Precision) :
    g'.answers c precision = g.answers c precision := by
  rw [answers, answers, same.compile_eq, same.check_eq, same.order_eq]

/-- **An older document means the same as its current form.** Wherever a document comes from, and
whatever it holds, the renewed document is read as the same graph and the same request, or both are
refused. Where each of the two readings generates ids of its own, one succeeds just if the other
does, the graphs are the same apart from these ids, and they have the same program, problems and
order. -/
theorem reads_renewed (idAt idAt' : Nat → String) (origin : Origin) (document : Json) :
    (∀ g, Graph.read idAt origin (renew document) = .accepted g ↔
      Graph.read idAt origin document = .accepted g) ∧
    (∀ request, Request.read idAt origin (renew document) = .accepted request ↔
      Request.read idAt origin document = .accepted request) ∧
    ((∃ g', Graph.read idAt' origin (renew document) = .accepted g') ↔
      ∃ g, Graph.read idAt origin document = .accepted g) ∧
    ∀ g g', Graph.read idAt origin document = .accepted g →
      Graph.read idAt' origin (renew document) = .accepted g' →
        g.SameButIds idAt idAt' g' ∧ ∀ c precision, g'.answers c precision = g.answers c precision := by
  have related := related_read idAt idAt' origin document
  refine ⟨fun g => read_renew, fun request => Request.read_renew, ?_, ?_⟩
  · simp only [read_renew]
    generalize Graph.read idAt origin document = first at related ⊢
    generalize Graph.read idAt' origin document = second at related ⊢
    cases related with
    | accepted same => simp
    | refused faults => simp
  · intro g g' accepted accepted'
    rw [read_renew] at accepted'
    rw [accepted, accepted'] at related
    cases related with
    | accepted same => exact ⟨same, same.answers_eq⟩

/-- Two readings with different ids: the older document and the renewed one are both read, as
graphs that differ in the id of one uniform and have all their answers in common. -/
theorem reads_renewed_mixed :
    ∃ g g', Graph.read (fun _ => "first") .text Sample.mixedDocument = .accepted g ∧
      Graph.read (fun _ => "second") .text (renew Sample.mixedDocument) = .accepted g' ∧
      Sample.outline g = Sample.mixedOutline "first" ∧
      Sample.outline g' = Sample.mixedOutline "second" ∧
      g.SameButIds (fun _ => "first") (fun _ => "second") g' ∧
      ∀ c precision, g'.answers c precision = g.answers c precision := by
  have older : (Graph.read (fun _ => "first") .text Sample.mixedDocument).map Sample.outline =
      .accepted (Sample.mixedOutline "first") :=
    (@Checked.toOption_toExcept_eq_some_iff _ title .text _ _).mp (by decide +kernel)
  have renewed : (Graph.read (fun _ => "second") .text (renew Sample.mixedDocument)).map
      Sample.outline = .accepted (Sample.mixedOutline "second") :=
    (@Checked.toOption_toExcept_eq_some_iff _ title .text _ _).mp (by decide +kernel)
  obtain ⟨g, accepted, seen⟩ := Checked.map_eq_accepted_iff.mp older
  obtain ⟨g', accepted', seen'⟩ := Checked.map_eq_accepted_iff.mp renewed
  obtain ⟨same, answers⟩ := (reads_renewed (fun _ => "first") (fun _ => "second") .text
    Sample.mixedDocument).2.2.2 g g' accepted accepted'
  exact ⟨g, g', accepted, accepted', seen, seen', same, answers⟩

/-- Older names and bare values, renewed. -/
example :
    Block.renew (.object [
        ("id", .text "old"),
        ("blockType", .text "sum"),
        ("inputValues", .object [("left", .text "near:total:more"), ("right", .int 2)])]) =
      .object [
        ("id", .text "old"),
        ("kind_id", .text "sum"),
        ("input_values", .object [
          ("left", .object [
            ("kind", .text "connection"),
            ("source_instance_id", .text "near"),
            ("source_port_id", .text "total")]),
          ("right", .object [("kind", .text "literal"), ("value", .int 2)])])] := by
  rfl

end Graph

end ShaderGraph
