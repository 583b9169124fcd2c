import ShaderGraph.Proofs.Check
import ShaderGraph.Proofs.Edit.Listing
import ShaderGraph.Proofs.Edit.Validity

/-!
# Listed connections and reported problems

Two passes over a list of blocks follow a connection back to its source. Listing goes through the
values a block holds and gives every connection the type of its output, or none. Checking goes
through the inputs a kind declares and reports every connection that leads nowhere, a *stray*.

They agree (`Connection.list_agrees_with_problems`): a record has no type exactly when the connection
is `Untraced`, and of the connections that stand under declared inputs those without a type are the
strays that are reported, one for one. The reports come in another order, that of the declared inputs;
so the lists agree up to a permutation, block by block (`Block.perm_blockProblems`).
-/

namespace ShaderGraph

/-! ## The first of an id -/

/-- The first member of a list with an id. -/
def FirstWith {α : Type} (idOf : α → String) (id : String) (xs : List α) (x : α) : Prop :=
  idOf x = id ∧ ∃ before after, xs = before ++ x :: after ∧ ∀ y ∈ before, idOf y ≠ id

/-- What is found for an id is the first item with it, in words that mention no search. -/
theorem find?_eq_some_iff_firstWith {α : Type} {idOf : α → String} {id : String} {xs : List α} {x : α} :
    xs.find? (idOf · == id) = some x ↔ FirstWith idOf id xs x := by
  rw [List.find?_eq_some_iff_append, FirstWith]
  simp only [beq_iff_eq, Bool.not_eq_true', beq_eq_false_iff_ne]

/-! ## Sources -/

/-- Nothing is known of a connection's source: there is no such block, or the kind of the first such
block is unknown or has no such output. -/
inductive Untraced (c : Catalog) (blocks : List Block) (source output : String) : Prop
  | noBlock (absent : ∀ b ∈ blocks, b.id ≠ source)
  | noKind {b : Block} (first : FirstWith Block.id source blocks b) (unknown : c.find? b.kindId = none)
  | noOutput {b : Block} {kind : Kind} (first : FirstWith Block.id source blocks b)
    (known : c.find? b.kindId = some kind) (absent : ∀ port ∈ kind.outputs, port.id ≠ output)

/-- The port that a connection comes from: the first such output of the first such block. -/
def Traced (c : Catalog) (blocks : List Block) (source output : String) (port : Port) : Prop :=
  ∃ b kind, FirstWith Block.id source blocks b ∧ c.find? b.kindId = some kind ∧
    FirstWith Port.id output kind.outputs port

namespace Block

variable {c : Catalog} {blocks : List Block} {b : Block} {source output : String}

/-- An output is found for a connection exactly when the connection can be traced: to the first
block of the id, its kind, and the first output of the name. -/
theorem outputOf?_eq_some_iff {port : Port} :
    outputOf? c blocks source output = some port ↔ Traced c blocks source output port := by
  simp only [outputOf?, Option.bind_eq_bind, Option.bind_eq_some_iff, Block.find?, Kind.findOutput?,
    find?_eq_some_iff_firstWith, Traced]
  constructor
  · rintro ⟨b, first, kind, known, sent⟩
    exact ⟨b, kind, first, known, sent⟩
  · rintro ⟨b, kind, first, known, sent⟩
    exact ⟨b, first, kind, known, sent⟩

/-- No output is found exactly when the trace breaks off at one of these three points. -/
theorem outputOf?_eq_none_iff :
    outputOf? c blocks source output = none ↔ Untraced c blocks source output := by
  constructor
  · intro none
    cases found : Block.find? blocks source with
    | none => exact .noBlock (by simpa using List.find?_eq_none.mp found)
    | some b =>
      have first := find?_eq_some_iff_firstWith.mp found
      cases known : c.find? b.kindId with
      | none => exact .noKind first known
      | some kind =>
        simp only [outputOf?, found, known, Option.bind_eq_bind, Option.bind_some] at none
        exact .noOutput first known (by simpa using List.find?_eq_none.mp none)
  · intro untraced
    unfold outputOf?
    cases untraced with
    | noBlock absent =>
      have missing : Block.find? blocks source = none := List.find?_eq_none.mpr (by simpa using absent)
      rw [missing]
      rfl
    | noKind first unknown =>
      have found : Block.find? blocks source = some _ := find?_eq_some_iff_firstWith.mpr first
      simp only [found, unknown, Option.bind_eq_bind, Option.bind_some, Option.bind_none]
    | noOutput first known absent =>
      have found : Block.find? blocks source = some _ := find?_eq_some_iff_firstWith.mpr first
      simp only [found, known, Option.bind_eq_bind, Option.bind_some]
      exact List.find?_eq_none.mpr (by simpa using absent)

end Block

/-! ## Strays -/

/-- The diagnostic says that a connection leads nowhere. -/
def Diagnostic.isStray : Diagnostic → Bool
  | .missingBlock _ _ | .missingOutput _ _ _ => true
  | _ => false

/-- The report that a connection leads nowhere: the block it should come from is not there, or has no
such output. -/
def Diagnostic.stray (blocks : List Block) (target source output : String) : Diagnostic :=
  if source ∈ blocks.map Block.id then .missingOutput target output source
  else .missingBlock target source

/-- The inputs that the kind of a block declares; an unknown kind declares none. -/
def Block.declared (c : Catalog) (b : Block) : List Port := (c.find? b.kindId).elim [] Kind.inputs

namespace Holding

/-- The connection stands under an input that the kind of its block declares. -/
def isDeclared (c : Catalog) (h : Holding) : Bool :=
  (h.block.declared c).any fun port => .text port.id == h.port

/-- The report that the connection calls for. -/
def stray? (c : Catalog) (blocks : List Block) (h : Holding) : Option Diagnostic :=
  if (Block.outputOf? c blocks h.source h.output).isNone then
    some (.stray blocks h.block.id h.source h.output)
  else none

end Holding

namespace Block

variable {c : Catalog} {blocks : List Block} {b : Block}

/-- What is wrong with a port is what its connection calls for. The check looks at the first value
under the port's name, and a value that is no connection calls for nothing. -/
theorem portProblem?_eq_stray? {port : Port} :
    portProblem? c blocks b port =
      ((b.inputs.find? (·.1 == .text port.id)).bind b.holding?).bind (Holding.stray? c blocks) := by
  unfold portProblem? value? Keyed.find?
  cases b.inputs.find? (·.1 == .text port.id) with
  | none => rfl
  | some input =>
    obtain ⟨name, value⟩ := input
    cases value with
    | connection source output =>
      show (if _ then _ else _) = Holding.stray? c blocks ⟨b, name, source, output⟩
      unfold Holding.stray? Diagnostic.stray
      cases found : Block.find? blocks source with
      | none =>
        have absent : source ∉ blocks.map Block.id := by
          rw [← exists_find?_iff, found]
          simp
        have missing : outputOf? c blocks source output = none := by
          rw [outputOf?, found]
          rfl
        simp [missing, absent]
      | some origin =>
        have present : source ∈ blocks.map Block.id := exists_find?_iff.mp ⟨origin, found⟩
        simp [present]
    | unchecked value => cases value <;> rfl
    | _ => rfl

/-- What is wrong with a port is always a connection that leads nowhere. -/
theorem isStray_of_portProblem? {port : Port} {d : Diagnostic}
    (wrong : portProblem? c blocks b port = some d) : d.isStray = true := by
  rw [portProblem?_eq_stray?, Option.bind_eq_some_iff] at wrong
  obtain ⟨h, _, wrong⟩ := wrong
  unfold Holding.stray? Diagnostic.stray at wrong
  split at wrong
  · cases wrong
    split <;> rfl
  · cases wrong

/-- The values that stand under declared ports are the values of the declared ports. The one list
follows the values and the other the ports, hence only up to order; a port that stood twice, on
either side, would break it. -/
theorem SingleValued.perm_declared (single : b.SingleValued) {ports : List Port}
    (apart : (ports.map Port.id).Nodup) :
    (b.inputs.filter fun input => ports.any fun port => .text port.id == input.1).Perm
      (ports.filterMap fun port => b.inputs.find? (·.1 == .text port.id)) := by
  -- No name repeats on either side, so the lists are the same up to their order.
  have nodup : b.inputs.Nodup := List.Nodup.of_map _ single
  refine (List.perm_ext_iff_of_nodup (nodup.filter _) ?_).mpr fun input => ?_
  · refine List.pairwise_filterMap.mpr ((List.pairwise_map.mp apart).imp ?_)
    intro port other different input found input' found' same
    have name := ((find?_key_eq_some_iff single).mp found).2
    have name' := ((find?_key_eq_some_iff single).mp found').2
    exact different (GivenText.text.inj (by rw [← name, ← name', same]))
  · simp only [List.mem_filter, List.any_eq_true, beq_iff_eq, List.mem_filterMap,
      find?_key_eq_some_iff single]
    constructor
    · rintro ⟨held, port, hport, name⟩
      exact ⟨port, hport, held, name.symm⟩
    · rintro ⟨port, hport, held, name⟩
      exact ⟨held, port, hport, name.symm⟩

/-- Taking the declared among the connections is taking the connections among the values under
declared ports. -/
theorem filter_isDeclared_holdings (c : Catalog) (b : Block) :
    b.holdings.filter (Holding.isDeclared c) =
      (b.inputs.filter fun input =>
        (b.declared c).any fun port => .text port.id == input.1).filterMap b.holding? := by
  rw [holdings, List.filter_filterMap, List.filterMap_filter]
  congr 1
  funext input
  obtain ⟨port, value⟩ := input
  cases value with
  | connection source output => rfl
  | _ => simp [holding?]

/-- The strays among the problems of a block come from its declared ports. An unknown kind declares
none and is reported as something else. -/
theorem filter_isStray_blockProblems (c : Catalog) (blocks : List Block) (b : Block) :
    (blockProblems c blocks b).filter Diagnostic.isStray =
      (b.declared c).filterMap (portProblem? c blocks b) := by
  unfold blockProblems declared
  cases c.find? b.kindId with
  | none => rfl
  | some kind =>
    refine List.filter_eq_self.mpr fun d hd => ?_
    obtain ⟨port, _, wrong⟩ := List.mem_filterMap.mp hd
    exact isStray_of_portProblem? wrong

/-- No port is declared twice for a block, when no kind declares one twice. -/
theorem nodup_declared (apart : ∀ kind ∈ c.kinds, (kind.inputs.map Port.id).Nodup) :
    ((b.declared c).map Port.id).Nodup := by
  unfold declared
  cases known : c.find? b.kindId with
  | none => exact List.nodup_nil
  | some kind => exact apart kind (List.mem_of_find?_eq_some known)

/-- The connections of a block under declared inputs call for the reports that the check makes.
Listing takes them in the order of the values and checking in that of the inputs. -/
theorem perm_blockProblems (apart : ∀ kind ∈ c.kinds, (kind.inputs.map Port.id).Nodup)
    (single : b.SingleValued) :
    ((b.holdings.filter (Holding.isDeclared c)).filterMap (Holding.stray? c blocks)).Perm
      ((blockProblems c blocks b).filter Diagnostic.isStray) := by
  have reports : (b.declared c).filterMap (portProblem? c blocks b) =
      (((b.declared c).filterMap fun port => b.inputs.find? (·.1 == .text port.id)).filterMap
        b.holding?).filterMap (Holding.stray? c blocks) := by
    simp only [List.filterMap_filterMap]
    congr 1
    funext port
    exact portProblem?_eq_stray?
  rw [filter_isDeclared_holdings, filter_isStray_blockProblems, reports]
  exact ((single.perm_declared (nodup_declared apart)).filterMap _).filterMap _

/-- Only the checks of the blocks find strays; cycles, repeated ids and colliding names are reported
as such. -/
theorem filter_isStray_problems (c : Catalog) (blocks : List Block) :
    (problems c blocks).filter Diagnostic.isStray =
      blocks.flatMap fun b => (blockProblems c blocks b).filter Diagnostic.isStray := by
  have circular : (cycleProblem c blocks).filter Diagnostic.isStray = [] := by
    unfold cycleProblem
    cases Block.sort c blocks <;> rfl
  have repeated : (repeatedAfter [] blocks).filter Diagnostic.isStray = [] := by
    refine List.filter_eq_nil_iff.mpr fun d hd => ?_
    obtain ⟨id, rfl⟩ := exists_of_mem_repeatedAfter hd
    simp [Diagnostic.isStray]
  have collide : (Names.collisions c blocks).filter Diagnostic.isStray = [] := by
    refine List.filter_eq_nil_iff.mpr fun d hd => ?_
    obtain ⟨owner, block, identifier, rfl⟩ := Names.exists_of_mem_collisions hd
    simp [Diagnostic.isStray]
  rw [problems, List.filter_append, List.filter_append, List.filter_append, circular, repeated,
    collide, List.nil_append, List.nil_append, List.append_nil, List.filter_flatMap]

end Block

namespace Connection

variable {c : Catalog} {blocks : List Block} {idAt : Nat → String}

/-- The records without a type of the connections that stand under declared inputs. -/
def strays (c : Catalog) (blocks : List Block) (records : List Connection) : List Connection :=
  (((Holding.all blocks).zip records).filter fun entry =>
    entry.1.isDeclared c && entry.2.valueType.isNone).map Prod.snd

/-- The report that a record without a type calls for. -/
def stray (blocks : List Block) (r : Connection) : Diagnostic :=
  .stray blocks r.toBlock r.fromBlock r.fromPort

/-- The type in a record is that of the output that checking would look for. -/
theorem valueType_record (h : Holding) (id : String) :
    (h.record (some c) blocks id).valueType =
      (Block.outputOf? c blocks h.source h.output).map Port.valueType := rfl

/-- The records of connections under names stand in the order of the connections, with the same
ends, one for one. -/
theorem forall₂_records {catalog : Option Catalog} {hs : List Holding} (named : ∀ h ∈ hs, h.Named)
    (count : Nat) :
    List.Forall₂ (fun h r => h.ends = (r.toBlock, .text r.toPort, r.fromBlock, r.fromPort)) hs
      ((hs.zipIdx count).map fun entry => entry.1.record catalog blocks (idAt entry.2)) := by
  rw [List.forall₂_map_right_iff]
  nth_rewrite 1 [← List.zipIdx_map_fst count hs]
  rw [List.forall₂_map_left_iff, List.forall₂_same]
  intro entry hentry
  have port := (named entry.1 (List.fst_mem_of_mem_zipIdx hentry)).port_eq
  rw [Holding.ends, port]
  rfl

/-- The records without a type call for what their connections call for. By induction on the
connections, with the count of ids going up as they are listed. -/
theorem map_stray_records (c : Catalog) (blocks : List Block) (idAt : Nat → String) :
    ∀ (hs : List Holding) (count : Nat),
      (((hs.zip ((hs.zipIdx count).map fun entry =>
        entry.1.record (some c) blocks (idAt entry.2))).filter fun entry =>
          entry.1.isDeclared c && entry.2.valueType.isNone).map Prod.snd).map (stray blocks) =
        (hs.filter (Holding.isDeclared c)).filterMap (Holding.stray? c blocks)
  | [], _ => rfl
  | h :: hs, count => by
    have others := map_stray_records c blocks idAt hs (count + 1)
    rw [List.zipIdx_cons, List.map_cons, List.zip_cons_cons]
    by_cases declared : h.isDeclared c = true
    · cases sent : Block.outputOf? c blocks h.source h.output with
      | none =>
        have report : h.stray? c blocks = some (stray blocks (h.record (some c) blocks (idAt count))) := by
          rw [Holding.stray?, sent]
          rfl
        rw [List.filter_cons_of_pos (by simp [declared, valueType_record, sent]),
          List.filter_cons_of_pos declared, List.filterMap_cons_some report, List.map_cons,
          List.map_cons, others]
      | some port =>
        have silent : h.stray? c blocks = none := by
          rw [Holding.stray?, sent]
          rfl
        rw [List.filter_cons_of_neg (by simp [valueType_record, sent]),
          List.filter_cons_of_pos declared, List.filterMap_cons_none silent, others]
    · rw [List.filter_cons_of_neg (by simp [declared]), List.filter_cons_of_neg declared, others]

end Connection

/-! ## Both passes -/

namespace Sample

/-- Blocks with strays, held in another order than the inputs are declared in, and a block that holds a
number under the empty name. -/
def scattered : List Block := [
  near,
  block "swap" "sum" [("right", "gone", "total"), ("left", "near", "rest"), ("aside", "gone", "total")],
  ⟨"blank", "sum", [("", .literal .zero)], .zero⟩]

/-- A block that holds a stray, and another connection under half of a character. -/
def halved : Block :=
  ⟨"a", "color-solid",
    [("alpha", .connection "ghost" "x"), (.illFormed [0xD800], .connection "ghost" "y")], .zero⟩

/-- The document of the block. -/
def halvedDocument : Json :=
  .object [
    ("id", .text "a"),
    ("kind_id", .text "color-solid"),
    ("input_values", .object [("alpha", .text "ghost:x"), (.illFormed [0xD800], .text "ghost:y")])]

end Sample

namespace Connection

variable {c : Catalog} {blocks : List Block} {idAt : Nat → String}

/-- **Listing and checking agree.** Where no kind declares an input twice, blocks are listed exactly if
every connection stands under a name. Then there is a record for each connection; it has no type exactly
when the connection cannot be traced to an output, and otherwise the type of the first such output of the
first such block; and the records without a type that stand under declared inputs are the strays that the
check reports, one for one. What the blocks hold beside connections may stand under any port. -/
theorem list_agrees_with_problems (apart : ∀ kind ∈ c.kinds, (kind.inputs.map Port.id).Nodup)
    (single : ∀ b ∈ blocks, b.SingleValued) (addressed : ∀ h ∈ Holding.all blocks, h.Addressed)
    {serial : Serial} (made : serial.ids? Serial.connectionLabel = some idAt) (count : Nat) :
    ((∃ records, list (some c) idAt count blocks = .ok records) ↔
      ∀ h ∈ Holding.all blocks, h.Named) ∧
    ∀ records, list (some c) idAt count blocks = .ok records →
      List.Forall₂ (fun h r => h.ends = (r.toBlock, .text r.toPort, r.fromBlock, r.fromPort))
        (Holding.all blocks) records ∧
      (∀ r ∈ records, r.valueType = none ↔ Untraced c blocks r.fromBlock r.fromPort) ∧
      (∀ r ∈ records, ∀ type, r.valueType = some type →
        ∃ port, Traced c blocks r.fromBlock r.fromPort port ∧ port.valueType = type) ∧
      ((strays c blocks records).map (stray blocks)).Perm
        ((Block.problems c blocks).filter Diagnostic.isStray) := by
  have listed_iff := @list_eq_ok_iff (some c) blocks idAt (Serial.ids?_ne_empty made) addressed count
  refine ⟨?_, fun records listed => ?_⟩
  · simp only [listed_iff, exists_and_left, exists_eq, and_true]
  · obtain ⟨named, rfl⟩ := listed_iff.mp listed
    refine ⟨?_, ?_, ?_, ?_⟩
    · exact forall₂_records named count
    · intro r hr
      obtain ⟨entry, _, rfl⟩ := List.mem_map.mp hr
      rw [valueType_record, Option.map_eq_none_iff, Block.outputOf?_eq_none_iff]
      rfl
    · intro r hr type typed
      obtain ⟨entry, _, rfl⟩ := List.mem_map.mp hr
      rw [valueType_record, Option.map_eq_some_iff] at typed
      obtain ⟨port, sent, rfl⟩ := typed
      exact ⟨port, Block.outputOf?_eq_some_iff.mp sent, rfl⟩
    · rw [strays, map_stray_records, Block.filter_isStray_problems, Holding.all, List.filter_flatMap,
        List.filterMap_flatMap]
      exact List.Perm.flatMap_left _ fun b hb => Block.perm_blockProblems apart (single b hb)

/-- Two strays in declared inputs are reported, in the order of the inputs, and listed without a type in
the order in which they are held; the stray beside them stands under no declared input, and the number
under the empty name is no connection. -/
theorem list_agrees_with_problems_scattered :
    ∃ idAt, Sample.serial.ids? Serial.connectionLabel = some idAt ∧
      ∃ records, list (some Sample.catalog) idAt 0 Sample.scattered = .ok records ∧
        (strays Sample.catalog Sample.scattered records).map (stray Sample.scattered) =
          [.missingBlock "swap" "gone", .missingOutput "swap" "rest" "near"] ∧
        ((strays Sample.catalog Sample.scattered records).map (stray Sample.scattered)).Perm
          ((Block.problems Sample.catalog Sample.scattered).filter Diagnostic.isStray) := by
  have made : Sample.serial.ids? Serial.connectionLabel = some _ := rfl
  obtain ⟨lists, agrees⟩ := @list_agrees_with_problems Sample.catalog Sample.scattered _ (by decide)
    (by unfold Block.SingleValued; decide) (by unfold Holding.Addressed; decide) _ made 0
  obtain ⟨records, listed⟩ := lists.mpr (by decide)
  obtain ⟨_, _, _, reports⟩ := agrees records listed
  refine ⟨_, made, records, listed, ?_, reports⟩
  cases listed
  decide

/-- A stray that is reported and not listed: the block holds a connection under no text. -/
theorem stray_reported_unlisted :
    Block.read .value Sample.halvedDocument = .accepted Sample.halved ∧
      (∀ input ∈ Sample.halved.inputs, input.1 ≠ .text "") ∧
      (∀ kind ∈ Catalog.builtin.kinds, (kind.inputs.map Port.id).Nodup) ∧
      (Block.problems .builtin [Sample.halved]).filter Diagnostic.isStray = [.missingBlock "a" "ghost"] ∧
      ∃ idAt, Sample.serial.ids? Serial.connectionLabel = some idAt ∧
        ∀ records, list (some .builtin) idAt 0 [Sample.halved] ≠ .ok records := by
  refine ⟨by rfl, by decide +kernel, by decide +kernel, by decide +kernel, _, rfl, fun records listed => ?_⟩
  cases listed

end Connection

end ShaderGraph
