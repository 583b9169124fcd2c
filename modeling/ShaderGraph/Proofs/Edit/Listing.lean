import Mathlib.Data.List.Forall2
import ShaderGraph.Edit.Basic
import ShaderGraph.Edit.Serial
import ShaderGraph.Kind.Builtin
import ShaderGraph.Proofs.Graph.Block
import ShaderGraph.Proofs.Keyed
import ShaderGraph.Proofs.Order.Dependencies

/-!
# Listing the connections of blocks

A listed connection is a record of its own, with ends that are checked again: none may be empty or
ill-formed. A block that was read promises this of the block and the output a connection comes from,
and of its own id. It promises nothing of the port the connection stands under, which is the name of
a field and may be any text.

So a list of blocks is listed exactly when every connection stands under a port that has a name, and
then there is one record for each connection, block by block and in the order of a block's values
(`Connection.list_for_each`). The first connection that stands under no name ends the listing: it is
refused for its target port, and with it all the others.
-/

namespace ShaderGraph

/-! ## Texts that stand for ends -/

namespace Read

/-- A text that is not empty is accepted as one, and taken as it is. -/
theorem nonEmptyText_text {text : String} (nonempty : text ≠ "") :
    nonEmptyText (.text text) = .accepted text :=
  nonEmptyText_eq_accepted_iff.mpr ⟨rfl, nonempty⟩

/-- A given text will do for an end if it is well formed and not empty, and is taken as it is. -/
theorem nonEmptyText_ofGiven {text : GivenText} (formed : text.isText = true)
    (nonempty : text ≠ .text "") : nonEmptyText (.ofGiven text) = .accepted text.replaced := by
  cases text with
  | text s => exact nonEmptyText_text fun empty => nonempty (congrArg GivenText.text empty)
  | illFormed points => cases formed

end Read

/-- Ids with a label are not empty, since a dash follows the label. So the id of a record is never
what it is refused for. -/
theorem Serial.ids?_ne_empty {serial : Serial} {label : String} {idAt : Nat → String}
    (made : serial.ids? label = some idAt) (count : Nat) : idAt count ≠ "" := by
  obtain ⟨ms, _, rfl⟩ := Option.map_eq_some_iff.mp made
  intro empty
  -- The label is followed by a dash, so no part of the id has to be looked at but this one.
  have dashed := (String.append_eq_empty_iff.mp
    (String.append_eq_empty_iff.mp (String.append_eq_empty_iff.mp empty).1).1).1
  exact absurd (String.append_eq_empty_iff.mp dashed).2 (by decide)

/-! ## The blocks by their ids -/

namespace Connection

variable {blocks : List Block}

/-- The table that is filled from the last block to the first finds the first block of an id: that
block is set after all others of its id. -/
theorem find?_sources (blocks : List Block) (id : String) :
    Keyed.find? id (sources blocks) = Block.find? blocks id := by
  rw [sources, Keyed.find?_gather, ← List.map_reverse, List.reverse_reverse, Keyed.find?,
    List.find?_map, Option.map_map, Block.find?]
  exact Option.map_id_apply

/-- The type of a source is that of the output which checking finds for it. Listing goes through a
table of its own, and this is where the two ways meet. -/
theorem sourceType?_sources (catalog : Option Catalog) (blocks : List Block) (source output : String) :
    sourceType? catalog (sources blocks) source output =
      catalog.bind fun c => (Block.outputOf? c blocks source output).map Port.valueType := by
  cases catalog with
  | none => rfl
  | some c =>
    simp only [sourceType?, find?_sources, Block.outputOf?, Option.bind_eq_bind, Option.bind_some]
    cases Block.find? blocks source with
    | none => rfl
    | some origin =>
      cases known : c.find? origin.kindId with
      | none => simp [known]
      | some kind => cases sent : kind.findOutput? output <;> simp [known, sent]

end Connection

/-! ## Connections as they are held -/

/-- A connection that a block holds under a port: where it comes from. -/
structure Holding where
  block : Block
  port : GivenText
  source : String
  output : String

/-- The connection of an input, if the input is one. -/
def Block.holding? (b : Block) (input : GivenText × PortValue) : Option Holding :=
  match input.2 with
  | .connection source output => some ⟨b, input.1, source, output⟩
  | _ => none

/-- The connections that a block holds, in the order of its values. -/
def Block.holdings (b : Block) : List Holding := b.inputs.filterMap b.holding?

/-- A value is held as a connection when it is one; the holding keeps the block, the port and both
parts of the connection. -/
theorem Block.holding?_eq_some_iff {b : Block} {input : GivenText × PortValue} {h : Holding} :
    b.holding? input = some h ↔
      h.block = b ∧ h.port = input.1 ∧ input.2 = .connection h.source h.output := by
  obtain ⟨block, port, source, output⟩ := h
  unfold holding?
  split
  next source' output' held => simp [held, eq_comm]
  next other =>
    constructor
    · exact fun h => by cases h
    · rintro ⟨_, _, held⟩
      exact absurd held (other source output)

namespace Holding

/-- The connections that blocks hold, block by block. -/
def all (blocks : List Block) : List Holding := blocks.flatMap Block.holdings

/-- The ends of the connection. -/
def ends (h : Holding) : String × GivenText × String × String :=
  (h.block.id, h.port, h.source, h.output)

/-- The ends that a block and its values promise are not empty. -/
def Addressed (h : Holding) : Prop := h.block.id ≠ "" ∧ h.source ≠ "" ∧ h.output ≠ ""

/-- The port is a name that a record can have for its end: well formed and not empty. -/
def Named (h : Holding) : Prop := h.port.isText = true ∧ h.port ≠ .text ""

instance : DecidablePred Named := fun _ => inferInstanceAs (Decidable (_ ∧ _))

/-- The port of a connection that has a name is this name: no character of it has been replaced. -/
theorem Named.port_eq {h : Holding} (named : h.Named) : h.port = .text h.port.replaced := by
  obtain ⟨formed, _⟩ := named
  cases port : h.port with
  | text name => rfl
  | illFormed points =>
    rw [port] at formed
    cases formed

/-- The record of the connection under an id: its ends, with the port's name, and the type of the
output that it comes from, if there is a catalog and the output is found. -/
def record (catalog : Option Catalog) (blocks : List Block) (h : Holding) (id : String) : Connection where
  id := id
  fromBlock := h.source
  fromPort := h.output
  toBlock := h.block.id
  toPort := h.port.replaced
  valueType := catalog.bind fun c => (Block.outputOf? c blocks h.source h.output).map Port.valueType

/-- The refusal of a record whose target port has no name. -/
def rejection (h : Holding) : Rejection :=
  ⟨Connection.title, .value,
    [⟨if h.port = .text "" then .emptyText else .illFormedText, [.name "to_port_id"],
      .ofGiven h.port⟩]⟩

/-- The holdings of blocks are the connections among their values, under whatever ports these
stand. -/
theorem mem_all_iff {blocks : List Block} {h : Holding} :
    h ∈ all blocks ↔
      h.block ∈ blocks ∧ (h.port, PortValue.connection h.source h.output) ∈ h.block.inputs := by
  simp only [all, Block.holdings, List.mem_flatMap, List.mem_filterMap, Block.holding?_eq_some_iff]
  constructor
  · rintro ⟨_, hb, ⟨port, value⟩, held, rfl, rfl, rfl⟩
    exact ⟨hb, held⟩
  · rintro ⟨hb, held⟩
    exact ⟨h.block, hb, _, held, rfl, rfl, rfl⟩

/-- A connection of a block that was read has a source and an output, and so has the block an id.
Reading refuses empty ones, so only the port can be empty. -/
theorem addressed_of_parsed {blocks : List Block} (parsed : ∀ b ∈ blocks, b.Parsed) :
    ∀ h ∈ all blocks, h.Addressed := by
  intro h hh
  obtain ⟨hb, held⟩ := mem_all_iff.mp hh
  have valid := (parsed h.block hb).valid _ held
  exact ⟨(parsed h.block hb).id_valid.1, valid⟩

end Holding

namespace Connection

open Holding

variable {catalog : Option Catalog} {blocks : List Block} {idAt : Nat → String}

/-- What listing goes through are the ends of all holdings, block by block and value by value. -/
theorem ends_eq_map_all (blocks : List Block) : ends blocks = (Holding.all blocks).map Holding.ends := by
  rw [ends, Holding.all, List.map_flatMap]
  congr 1
  funext b
  rw [Block.connections, Block.holdings, List.map_filterMap, List.map_filterMap]
  congr 1
  funext input
  obtain ⟨port, value⟩ := input
  cases value <;> rfl

/-! ## One record -/

/-- A connection under a name becomes a record with its ends, once all of them are known not to be
empty. -/
theorem ofEnds_of_named {h : Holding} {id : String} (fresh : id ≠ "") (addressed : h.Addressed)
    (named : h.Named) (type : Option ValueType) :
    ofEnds id h.source h.output h.block.id h.port type =
      .accepted ⟨id, h.source, h.output, h.block.id, h.port.replaced, type⟩ := by
  obtain ⟨block, source, output⟩ := addressed
  unfold ofEnds
  dsimp only
  rw [Read.nonEmptyText_text fresh, Read.nonEmptyText_text source, Read.nonEmptyText_text output,
    Read.nonEmptyText_text block, Read.nonEmptyText_ofGiven named.1 named.2]
  rfl

/-- A target port without a name is the only fault there is, and the record is refused for it
alone. -/
theorem ofEnds_of_not_named {h : Holding} {id : String} (fresh : id ≠ "") (addressed : h.Addressed)
    (nameless : ¬ h.Named) (type : Option ValueType) :
    ofEnds id h.source h.output h.block.id h.port type = .refused h.rejection.faults := by
  obtain ⟨block, source, output⟩ := addressed
  unfold ofEnds rejection
  dsimp only
  rw [Read.nonEmptyText_text fresh, Read.nonEmptyText_text source, Read.nonEmptyText_text output,
    Read.nonEmptyText_text block]
  by_cases empty : h.port = .text ""
  · rw [empty]
    rfl
  · rw [if_neg empty]
    cases port : h.port with
    | text name => exact absurd ⟨by rw [port]; rfl, empty⟩ nameless
    | illFormed points => rfl

/-! ## All records -/

/-- Connections under names are all listed, each under an id of its own. By induction on the
connections, with the count of ids going up by one for each. -/
theorem listFrom_of_named (made : ∀ n, idAt n ≠ "") : ∀ (hs : List Holding) (count : Nat),
    (∀ h ∈ hs, h.Addressed) → (∀ h ∈ hs, h.Named) →
      listFrom catalog (sources blocks) idAt count (hs.map Holding.ends) =
        .ok ((hs.zipIdx count).map fun entry => entry.1.record catalog blocks (idAt entry.2))
  | [], _, _, _ => rfl
  | h :: hs, count, addressed, named => by
    rw [List.forall_mem_cons] at addressed named
    have others := listFrom_of_named made hs (count + 1) addressed.2 named.2
    rw [List.map_cons, Holding.ends, listFrom, others, sourceType?_sources,
      ofEnds_of_named (made count) addressed.1 named.1]
    rfl

/-- The first connection without a name decides: those in front of it are listed to no avail, and
those behind it are not looked at. The induction is on those in front. -/
theorem listFrom_of_not_named (made : ∀ n, idAt n ≠ "") {h : Holding} (nameless : ¬ h.Named)
    (later : List Holding) : ∀ (earlier : List Holding) (count : Nat),
    (∀ x ∈ earlier ++ h :: later, x.Addressed) → (∀ x ∈ earlier, x.Named) →
      listFrom catalog (sources blocks) idAt count ((earlier ++ h :: later).map Holding.ends) =
        .error h.rejection
  | [], count, addressed, _ => by
    rw [List.nil_append, List.map_cons, Holding.ends, listFrom,
      ofEnds_of_not_named (made count) (addressed h (by simp)) nameless]
    rfl
  | x :: earlier, count, addressed, named => by
    rw [List.cons_append, List.forall_mem_cons] at addressed
    rw [List.forall_mem_cons] at named
    have others := listFrom_of_not_named made nameless later earlier (count + 1) addressed.2 named.2
    rw [List.cons_append, List.map_cons, Holding.ends, listFrom, others,
      ofEnds_of_named (made count) addressed.1 named.1]
    rfl

/-- Where not all connections have a name, there is a first one without, and those in front of it
have theirs. -/
theorem exists_first_not_named {hs : List Holding} (unnamed : ¬ ∀ h ∈ hs, h.Named) :
    ∃ earlier h later, hs = earlier ++ h :: later ∧ (∀ x ∈ earlier, x.Named) ∧ ¬ h.Named := by
  cases found : hs.find? (fun h => decide (¬ h.Named)) with
  | none =>
    refine absurd (fun h hh => ?_) unnamed
    simpa using List.find?_eq_none.mp found h hh
  | some h =>
    obtain ⟨nameless, earlier, later, split, before⟩ := List.find?_eq_some_iff_append.mp found
    exact ⟨earlier, h, later, split, by simpa using before, by simpa using nameless⟩

/-- Blocks are listed exactly when all their connections have a name, and then the records are
known. -/
theorem list_eq_ok_iff (made : ∀ n, idAt n ≠ "") (addressed : ∀ h ∈ Holding.all blocks, h.Addressed)
    {count : Nat} {records : List Connection} :
    list catalog idAt count blocks = .ok records ↔
      (∀ h ∈ Holding.all blocks, h.Named) ∧
        records = ((Holding.all blocks).zipIdx count).map
          fun entry => entry.1.record catalog blocks (idAt entry.2) := by
  rw [list, ends_eq_map_all]
  constructor
  · intro listed
    by_cases named : ∀ h ∈ Holding.all blocks, h.Named
    · rw [listFrom_of_named made _ count addressed named] at listed
      exact ⟨named, (Except.ok.inj listed).symm⟩
    · obtain ⟨earlier, h, later, split, before, nameless⟩ := exists_first_not_named named
      rw [split] at addressed listed
      rw [listFrom_of_not_named made nameless later earlier count addressed before] at listed
      cases listed
  · rintro ⟨named, rfl⟩
    exact listFrom_of_named made _ count addressed named

/-- Blocks that are not listed hold a connection without a name, and the first such connection is
what the refusal is about. -/
theorem exists_of_list_eq_error (made : ∀ n, idAt n ≠ "")
    (addressed : ∀ h ∈ Holding.all blocks, h.Addressed) {count : Nat} {rejection : Rejection}
    (refused : list catalog idAt count blocks = .error rejection) :
    ∃ earlier h later, Holding.all blocks = earlier ++ h :: later ∧ (∀ x ∈ earlier, x.Named) ∧
      ¬ h.Named ∧ rejection = h.rejection := by
  have unnamed : ¬ ∀ h ∈ Holding.all blocks, h.Named := fun named => by
    rw [(list_eq_ok_iff made addressed).mpr ⟨named, rfl⟩] at refused
    cases refused
  obtain ⟨earlier, h, later, split, before, nameless⟩ := exists_first_not_named unnamed
  rw [list, ends_eq_map_all] at refused
  rw [split] at addressed refused
  rw [listFrom_of_not_named made nameless later earlier count addressed before] at refused
  exact ⟨earlier, h, later, split, before, nameless, (Except.error.inj refused).symm⟩

end Connection

/-! ## Blocks that cannot be listed -/

namespace Sample

/-- A clock that stands still, and draws that are all the same. -/
def serial : Serial := ⟨.whole 0, [0]⟩

/-- A block that holds a connection under the empty name. -/
def nameless : Block := ⟨"a", "color-solid", [("", .connection "b" "c")], .zero⟩

/-- The document of the block. -/
def namelessDocument : Json :=
  .object [
    ("id", .text "a"),
    ("kind_id", .text "color-solid"),
    ("input_values", .object [("", .text "b:c")])]

end Sample

namespace Connection

variable {blocks : List Block} {idAt : Nat → String}

/-- **Blocks are listed when every connection stands under a name.** A list of blocks that were read
is listed exactly if no connection is held under an empty or an ill-formed port. There is one record
then for each connection, block by block and in the order of the values, with the connection's
source and output, the block that holds it and the port. Otherwise the first connection without a
name is refused for its target port, and there is no record at all. -/
theorem list_for_each (parsed : ∀ b ∈ blocks, b.Parsed) {serial : Serial}
    (made : serial.ids? Serial.connectionLabel = some idAt) (catalog : Option Catalog) (count : Nat) :
    ((∃ records, list catalog idAt count blocks = .ok records) ↔
      ∀ h ∈ Holding.all blocks, h.Named) ∧
    (∀ records, list catalog idAt count blocks = .ok records →
      records = ((Holding.all blocks).zipIdx count).map
        fun entry => entry.1.record catalog blocks (idAt entry.2)) ∧
    (∀ rejection, list catalog idAt count blocks = .error rejection →
      ∃ earlier h later, Holding.all blocks = earlier ++ h :: later ∧ (∀ x ∈ earlier, x.Named) ∧
        ¬ h.Named ∧ rejection = h.rejection) := by
  have fresh := Serial.ids?_ne_empty made
  have addressed := Holding.addressed_of_parsed parsed
  refine ⟨?_, fun records listed => ((list_eq_ok_iff fresh addressed).mp listed).2,
    fun rejection => exists_of_list_eq_error fresh addressed⟩
  constructor
  · rintro ⟨records, listed⟩
    exact ((list_eq_ok_iff fresh addressed).mp listed).1
  · exact fun named => ⟨_, (list_eq_ok_iff fresh addressed).mpr ⟨named, rfl⟩⟩

/-- Blocks with an id that repeats, a kind that is unknown and sources that are missing. All
connections are listed, and those that lead nowhere have no type. -/
theorem list_for_each_tangled :
    (∀ b ∈ Sample.tangled, b.Parsed) ∧
      ∃ idAt, Sample.serial.ids? Serial.connectionLabel = some idAt ∧
        ∃ records, list (some Sample.catalog) idAt 0 Sample.tangled = .ok records ∧
          records.map (fun r => (r.toBlock, r.toPort, r.valueType)) =
            [("far", "left", some .float), ("far", "right", none), ("far", "aside", some .float),
              ("odd", "left", none), ("far", "left", some .float)] := by
  have parsed : ∀ b ∈ Sample.tangled, b.Parsed := by
    simp only [Sample.tangled, List.forall_mem_cons]
    exact ⟨⟨.value, Sample.far.toJson, rfl⟩, ⟨.value, Sample.odd.toJson, rfl⟩,
      ⟨.value, Sample.near.toJson, rfl⟩,
      ⟨.value, (Sample.block "far" "sum" [("left", "far", "total")]).toJson, rfl⟩, by simp⟩
  have made : Sample.serial.ids? Serial.connectionLabel = some _ := rfl
  obtain ⟨lists, exact_records, _⟩ := list_for_each parsed made (some Sample.catalog) 0
  obtain ⟨records, listed⟩ := lists.mpr (by decide)
  refine ⟨parsed, _, made, records, listed, ?_⟩
  rw [exact_records records listed]
  decide

/-- A block that was read and holds one connection, of which there is no record. -/
theorem nameless_connection_unlisted :
    Block.read .value Sample.namelessDocument = .accepted Sample.nameless ∧
      Sample.nameless.connections = [(.text "", "b", "c")] ∧
      ∃ idAt, Sample.serial.ids? Serial.connectionLabel = some idAt ∧
        ∀ records, list (some .builtin) idAt 0 [Sample.nameless] ≠ .ok records := by
  refine ⟨by rfl, by rfl, _, rfl, fun records => ?_⟩
  intro h
  cases h

end Connection

end ShaderGraph
