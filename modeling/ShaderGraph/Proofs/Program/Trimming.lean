import Mathlib
import ShaderGraph.Proofs.Program.Calls

/-!
# What a graph sees of a block

A block can hold more than its kind asks for: values under ports that are not
declared, in any order, and a place in an editor. `Block.trim` leaves this out
and keeps the id, the kind, and the values of the declared inputs.

Every pass over a graph commutes with trimming: the dependencies, the order, the
problems and the program of trimmed blocks are those of the blocks themselves
(`Dependencies.table_map_trim`, `Block.sort_map_trim`, `Block.problems_map_trim`,
`Program.generate_map_trim`). Blocks that agree on what is kept are the same when
trimmed, so nothing else about them can show (`Program.same_outcomes_of_agrees`).
-/

namespace ShaderGraph

/-! ## A graph with more than is asked for -/

namespace Sample

/-- The blocks of `painting`, elsewhere, with their values in another order and further
values under ports that no kind declares. If these counted, they would close a cycle and
lead nowhere. -/
def cluttered : List Block := [
  ⟨"painted", "sum",
    [("aside", .connection "painted" "total"), ("right", .vector [.zero, .zero]),
      ("left", .connection "primed" "shade")],
    ⟨.zero, .nan⟩⟩,
  ⟨"primed", "tone", [("base", .variable "iTime"), ("glow", .connection "gone" "shade")], .zero⟩]

end Sample

namespace Block

/-! ## Trimmed blocks -/

/-- Two blocks agree on their id, on their kind, and on the value they hold for every
declared input, if the kind is known. -/
structure Agrees (c : Catalog) (b b' : Block) : Prop where
  id : b.id = b'.id
  kindId : b.kindId = b'.kindId
  value : ∀ kind, c.find? b.kindId = some kind → ∀ port ∈ kind.inputs,
    b.value? port.id = b'.value? port.id

/-- The values of the declared inputs, in the order of the ports. -/
def declaredInputs (c : Catalog) (b : Block) : List (GivenText × PortValue) :=
  match c.find? b.kindId with
  | some kind => kind.inputs.filterMap fun port => (b.value? port.id).map (port.id, ·)
  | none => []

/-- The block without the values of undeclared inputs and without its place. -/
def trim (c : Catalog) (b : Block) : Block := ⟨b.id, b.kindId, declaredInputs c b, .zero⟩

variable {c : Catalog} {blocks others : List Block} {b b' : Block} {kind : Kind}

@[simp] theorem id_trim (c : Catalog) (b : Block) : (b.trim c).id = b.id := rfl

@[simp] theorem kindId_trim (c : Catalog) (b : Block) : (b.trim c).kindId = b.kindId := rfl

/-- Blocks that agree are the same when they are trimmed, as nothing is kept on which they
could differ. -/
theorem trim_eq_of_agrees (agree : b.Agrees c b') : b.trim c = b'.trim c := by
  have inputs : declaredInputs c b = declaredInputs c b' := by
    unfold declaredInputs
    rw [← agree.kindId]
    cases known : c.find? b.kindId with
    | none => rfl
    | some kind =>
      apply List.filterMap_congr
      intro port declared
      rw [agree.value kind known port declared]
  rw [trim, trim, agree.id, agree.kindId, inputs]

theorem map_trim_eq_of_agrees (agree : List.Forall₂ (Agrees c) blocks others) :
    blocks.map (trim c) = others.map (trim c) := by
  induction agree with
  | nil => rfl
  | cons first _ ih => rw [List.map_cons, List.map_cons, trim_eq_of_agrees first, ih]

/-- A value that is held is no unchecked null, for such a null counts as no value. -/
theorem value?_ne_null (b : Block) (port : String) : b.value? port ≠ some (.unchecked .null) := by
  unfold value?
  intro held
  split at held
  next => cases held
  next nonnull => exact nonnull held

/-- The value under a declared port among the values of declared ports. A port that is
declared twice has the same value both times. -/
theorem find?_declaredInputs (b : Block) (ports : List Port) (port : Port)
    (declared : port ∈ ports) :
    Keyed.find? (GivenText.text port.id)
      (ports.filterMap fun p => (b.value? p.id).map (GivenText.text p.id, ·)) = b.value? port.id := by
  induction ports with
  | nil => cases declared
  | cons first rest ih =>
    by_cases same : first.id = port.id
    · cases held : b.value? port.id with
      | none =>
        -- Nothing is held for the port, so no entry has its id.
        cases found : Keyed.find? (.text port.id)
            ((first :: rest).filterMap fun p => (b.value? p.id).map (GivenText.text p.id, ·)) with
        | none => rfl
        | some value =>
          obtain ⟨p, -, hp⟩ := List.mem_filterMap.mp (Keyed.mem_of_find? found)
          obtain ⟨_, held', entry⟩ := Option.map_eq_some_iff.mp hp
          rw [GivenText.text.inj (congrArg Prod.fst entry), held] at held'
          cases held'
      | some value => simp [same, held, Keyed.find?_cons]
    · have behind : port ∈ rest := by
        rcases List.mem_cons.mp declared with rfl | h
        · exact absurd rfl same
        · exact h
      cases held : b.value? first.id with
      | none => simpa [held] using ih behind
      | some value => simpa [held, same, Keyed.find?_cons] using ih behind

/-- Trimming changes no value of a declared input; the others are not asked for by
anyone. -/
theorem value?_trim (known : c.find? b.kindId = some kind) {port : Port}
    (declared : port ∈ kind.inputs) : (b.trim c).value? port.id = b.value? port.id := by
  have entry : Keyed.find? (.text port.id) (b.trim c).inputs = b.value? port.id := by
    rw [trim, declaredInputs, known]
    exact find?_declaredInputs b kind.inputs port declared
  have nonnull := value?_ne_null b port.id
  rw [value?, entry]
  split
  next null => exact absurd null nonnull
  next => rfl

/-! ## Order -/

/-- Trimming changes no id, so the same block is found for an id, in its trimmed form. -/
theorem find?_map_trim (c : Catalog) (blocks : List Block) (x : String) :
    Block.find? (blocks.map (trim c)) x = (Block.find? blocks x).map (trim c) := by
  rw [Block.find?, Block.find?, List.find?_map]
  rfl

/-- Trimming changes no id, so the same blocks are first ones, whichever ids were seen
before. -/
theorem firstsAfter_map_trim (c : Catalog) (blocks : List Block) :
    ∀ seen : List String, firstsAfter seen (blocks.map (trim c)) =
      (firstsAfter seen blocks).map (trim c) := by
  induction blocks with
  | nil => exact fun _ => rfl
  | cons b rest ih =>
    intro seen
    rw [List.map_cons, firstsAfter, firstsAfter, id_trim]
    by_cases old : seen.contains b.id = true
    · rw [if_pos old, if_pos old, ih]
    · rw [if_neg old, if_neg old, ih, List.map_cons]

theorem firsts_map_trim (c : Catalog) (blocks : List Block) :
    firsts (blocks.map (trim c)) = (firsts blocks).map (trim c) :=
  firstsAfter_map_trim c blocks []

end Block

namespace Dependencies

open Block

/-- A trimmed block reads from what the block reads from, since only connections under
declared inputs count. -/
theorem sources_trim (c : Catalog) (b : Block) : sources c (b.trim c) = sources c b := by
  rw [sources, sources, kindId_trim]
  cases known : c.find? b.kindId with
  | none => rfl
  | some kind =>
    have each : kind.inputs.filterMap (source? (b.trim c)) = kind.inputs.filterMap (source? b) := by
      apply List.filterMap_congr
      intro port declared
      rw [source?, source?, value?_trim known declared]
    simp only [each]

theorem table_map_trim (c : Catalog) (blocks : List Block) :
    table c (blocks.map (trim c)) = table c blocks := by
  rw [table, table, firsts_map_trim, List.map_map]
  apply List.map_congr_left
  intro b _
  rw [Function.comp_apply, id_trim, sources_trim]

end Dependencies

namespace Block

variable {c : Catalog} {blocks : List Block} {b : Block}

/-- Trimmed blocks are sorted as the blocks are. The walk goes by ids and dependencies, and
these are the same. -/
theorem sort_map_trim (c : Catalog) (blocks : List Block) :
    Block.sort c (blocks.map (trim c)) = (Block.sort c blocks).map (List.map (trim c)) := by
  have found : ∀ ids : List String, ids.filterMap (Block.find? (blocks.map (trim c))) =
      (ids.filterMap (Block.find? blocks)).map (trim c) := by
    intro ids
    rw [List.map_filterMap]
    apply List.filterMap_congr
    intro x _
    exact find?_map_trim c blocks x
  have same : Dependencies.network c (blocks.map (trim c)) = Dependencies.network c blocks := by
    rw [Dependencies.network, Dependencies.network, Dependencies.table_map_trim]
  rw [Block.sort, Block.sort, same]
  cases (Dependencies.network c blocks).walk with
  | error x => rfl
  | ok ids => exact congrArg Except.ok (found ids)

/-- The order of trimmed blocks, told by their ids, is that of the blocks. -/
theorem order_map_trim (c : Catalog) (blocks : List Block) :
    Block.order c (blocks.map (trim c)) = Block.order c blocks := by
  rw [Block.order, Block.order, sort_map_trim]
  cases Block.sort c blocks with
  | error x => rfl
  | ok ordered =>
    have ids : (ordered.map (trim c)).map Block.id = ordered.map Block.id := List.map_map
    exact congrArg Except.ok ids

/-! ## Problems -/

theorem repeatedAfter_map_trim (c : Catalog) (blocks : List Block) :
    ∀ seen : List String, repeatedAfter seen (blocks.map (trim c)) = repeatedAfter seen blocks := by
  induction blocks with
  | nil => exact fun _ => rfl
  | cons b rest ih =>
    intro seen
    simp only [List.map_cons, repeatedAfter, id_trim, ih]

/-- The same names collide, as identifiers are made of the kind and the id. -/
theorem collisions_map_trim (c : Catalog) (blocks : List Block) :
    Names.collisions c (blocks.map (trim c)) = Names.collisions c blocks := by
  have enter : ∀ (l : Names.Ledger) (b : Block), l.enter c (b.trim c) = l.enter c b := by
    intro l b
    rw [Names.Ledger.enter, Names.Ledger.enter, kindId_trim, id_trim]
  rw [Names.collisions, Names.collisions, firsts_map_trim, List.foldl_map]
  simp only [enter]

theorem outputOf?_map_trim (c : Catalog) (blocks : List Block) (source port : String) :
    outputOf? c (blocks.map (trim c)) source port = outputOf? c blocks source port := by
  rw [outputOf?, outputOf?, find?_map_trim]
  cases Block.find? blocks source <;> rfl

/-- The same is wrong with a trimmed block among trimmed blocks, for the check asks for
declared inputs only. -/
theorem blockProblems_trim (c : Catalog) (blocks : List Block) (b : Block) :
    blockProblems c (blocks.map (trim c)) (b.trim c) = blockProblems c blocks b := by
  rw [blockProblems, blockProblems, kindId_trim]
  cases known : c.find? b.kindId with
  | none => rfl
  | some kind =>
    apply List.filterMap_congr
    intro port declared
    simp only [portProblem?, value?_trim known declared, find?_map_trim, outputOf?_map_trim,
      Option.isNone_map, id_trim]

/-- Trimmed blocks have the problems of the blocks, all four sides of them. -/
theorem problems_map_trim (c : Catalog) (blocks : List Block) :
    problems c (blocks.map (trim c)) = problems c blocks := by
  have cycle : cycleProblem c (blocks.map (trim c)) = cycleProblem c blocks := by
    rw [cycleProblem, cycleProblem, sort_map_trim]
    cases Block.sort c blocks <;> rfl
  rw [problems, problems, cycle, repeatedAfter_map_trim, collisions_map_trim, List.flatMap_map]
  simp only [blockProblems_trim]

end Block

/-! ## Programs -/

namespace Program

open Block

variable {c : Catalog} {blocks others : List Block}

theorem mapM_congr {α β ε : Type} {f g : α → Except ε β} {xs : List α}
    (same : ∀ x ∈ xs, f x = g x) : xs.mapM f = xs.mapM g := by
  induction xs with
  | nil => rfl
  | cons x xs ih =>
    rw [List.forall_mem_cons] at same
    rw [List.mapM_cons, List.mapM_cons, same.1, ih same.2]

theorem kindOf_trim (c : Catalog) (b : Block) : kindOf c (b.trim c) = kindOf c b := rfl

/-- A connection is written the same among trimmed blocks, and refused in the same
words. -/
theorem connectionArgument_trim (c : Catalog) (blocks : List Block) (b : Block)
    (source port : String) :
    connectionArgument c (blocks.map (trim c)) (b.trim c) source port =
      connectionArgument c blocks b source port := by
  rw [connectionArgument, connectionArgument, find?_map_trim]
  cases Block.find? blocks source <;> rfl

/-- The call of a trimmed block is the block's call: one argument for each declared input,
whose value is kept. -/
theorem call_trim (c : Catalog) (blocks : List Block) (b : Block) :
    Program.call c (blocks.map (trim c)) (b.trim c) = Program.call c blocks b := by
  rw [Program.call, Program.call, kindOf_trim]
  cases kind_of : kindOf c b with
  | error refusal => rfl
  | ok kind =>
    have known := kindOf_eq_ok_iff.mp kind_of
    have arguments : kind.inputs.mapM (argument c (blocks.map (trim c)) (b.trim c)) =
        kind.inputs.mapM (argument c blocks b) := by
      apply mapM_congr
      intro port declared
      simp only [argument, value?_trim known declared, connectionArgument_trim, id_trim]
    show (kind.inputs.mapM _ >>= _ : Except Refusal Call) = kind.inputs.mapM _ >>= _
    rw [arguments]
    rfl

/-- Trimmed blocks have the program of the blocks, or are refused in the same words. Every
step of generation commutes with trimming, or does not look at what is trimmed. -/
theorem generate_map_trim (c : Catalog) (context : Context) (blocks : List Block) :
    generate c context (blocks.map (trim c)) = generate c context blocks := by
  have kinds : ∀ listed : List Block,
      (listed.map (trim c)).mapM (kindOf c) = listed.mapM (kindOf c) :=
    fun listed => List.mapM_map
  have calls : ∀ ordered : List Block,
      (ordered.map (trim c)).mapM (Program.call c (blocks.map (trim c))) =
        ordered.mapM (Program.call c blocks) := by
    intro ordered
    rw [List.mapM_map]
    exact mapM_congr fun b _ => call_trim c blocks b
  have definitions : ∀ (ordered : List Block) (kinds : List Kind),
      ((ordered.map (trim c)).zip kinds).map (fun entry => definition entry.2 entry.1.id) =
        (ordered.zip kinds).map fun entry => definition entry.2 entry.1.id := by
    intro ordered kinds
    rw [List.zip_map_left, List.map_map]
    rfl
  unfold generate sorted
  rw [List.isEmpty_map, kinds, collisions_map_trim, sort_map_trim]
  cases Block.sort c blocks with
  | error x => rfl
  | ok ordered =>
    simp only [Except.map, Except.mapError, bind, Except.bind, kinds, calls, definitions]

/-- **Only what blocks hold for the declared inputs of their kinds shows.** Two lists whose
blocks agree, one by one, on the id, the kind and the values of the declared inputs have the
same dependencies, the same order or the same id on a cycle, the same problems, and in every
context the same program or the same refusal. -/
theorem same_outcomes_of_agrees (c : Catalog)
    (agree : List.Forall₂ (Block.Agrees c) blocks others) :
    Dependencies.table c blocks = Dependencies.table c others ∧
    Block.order c blocks = Block.order c others ∧
    Block.problems c blocks = Block.problems c others ∧
    ∀ context, generate c context blocks = generate c context others := by
  have same := Block.map_trim_eq_of_agrees agree
  refine ⟨?_, ?_, ?_, ?_⟩
  · rw [← Dependencies.table_map_trim, same, Dependencies.table_map_trim]
  · rw [← order_map_trim, same, order_map_trim]
  · rw [← problems_map_trim, same, problems_map_trim]
  · intro context
    rw [← generate_map_trim, same, generate_map_trim]

/-- A connection of a block to itself and one that leads nowhere count for nothing under
ports that are not declared. -/
theorem same_outcomes_of_agrees_cluttered :
    List.Forall₂ (Block.Agrees Sample.palette) Sample.painting Sample.cluttered ∧
      Block.order Sample.palette Sample.cluttered = .ok ["primed", "painted"] ∧
      Block.problems Sample.palette Sample.cluttered = [] ∧
      generate Sample.palette .usual Sample.cluttered = .ok Sample.picture := by
  have painted : Sample.palette.find? "sum" = some Sample.sum := by cbv
  have primed : Sample.palette.find? "tone" = some Sample.tone := by cbv
  have agree : List.Forall₂ (Block.Agrees Sample.palette) Sample.painting Sample.cluttered := by
    refine .cons ⟨rfl, rfl, fun kind known => ?_⟩ (.cons ⟨rfl, rfl, fun kind known => ?_⟩ .nil)
    · cases known.symm.trans painted
      exact List.forall_mem_cons.mpr ⟨rfl, List.forall_mem_singleton.mpr rfl⟩
    · cases known.symm.trans primed
      exact List.forall_mem_cons.mpr ⟨rfl, List.forall_mem_singleton.mpr rfl⟩
  obtain ⟨-, order, problems, program⟩ := same_outcomes_of_agrees Sample.palette agree
  refine ⟨agree, order.symm.trans (by cbv), problems.symm.trans (by cbv), ?_⟩
  exact (program .usual).symm.trans (by decide +kernel)

end Program

end ShaderGraph
