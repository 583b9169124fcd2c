import Mathlib
import ShaderGraph.Program.Generate
import ShaderGraph.Proofs.Attempt
import ShaderGraph.Proofs.Check
import ShaderGraph.Proofs.Graph.Block
import ShaderGraph.Proofs.Number.Fixed

/-!
# Which graphs have a program

Generation stops at the first thing it cannot do. For each of its parts a law
says when the part succeeds, from the numbers of an argument up to the program.

The problems of a graph are found without generating anything, and they are all
that can go wrong with its structure. What they leave open is whether each
argument can be written: an input without a value needs a default, and the
numbers have to be printable (`Program.generate_ok_iff_no_problems`).
-/

namespace ShaderGraph

/-- The numbers that are printed for a port: those of the value a block holds
for it, or without a value those of the default. -/
def Block.printed (b : Block) (port : Port) : List Binary64 :=
  match b.value? port.id with
  | some (.literal x) => [x]
  | some (.vector components) => components
  | some _ => []
  | none =>
    match port.default with
    | some (.number x) => [x]
    | some (.vector components) => components
    | _ => []

/-! ## Small graphs -/

namespace Sample

/-- A kind with a default for one of its inputs. -/
def tone : Kind where
  id := "tone"
  name := "Tone"
  category := .blend
  description := ""
  icon := ""
  template := Kind.namePlaceholder
  inputs := [port "base", ⟨"level", "Level", .float, some (.number .zero)⟩]
  output := port "shade"
  moreOutputs := []

/-- A catalog of two kinds. -/
def palette : Catalog := ⟨[sum, tone]⟩

/-- A block that leaves one input to its default. -/
def primed : Block := ⟨"primed", "tone", [("base", .variable "iTime")], .zero⟩

/-- A block that reads from `primed`. -/
def painted : Block :=
  ⟨"painted", "sum", [("left", .connection "primed" "shade"), ("right", .vector [.zero, .zero])],
    .zero⟩

/-- Two blocks out of order. -/
def painting : List Block := [painted, primed]

end Sample

namespace Program

open Attempt

/-! ## Arguments -/

variable {c : Catalog} {blocks : List Block} {b : Block} {port : Port}

theorem exists_number_iff {x : Binary64} : (∃ text, number x = .ok text) ↔ x.Printable := by
  rw [← Binary64.fixed?_isSome_iff, number]
  cases x.fixed? 2 28 <;> simp

theorem exists_vector_iff {components : List Binary64} :
    (∃ text, vector components = .ok text) ↔ ∀ x ∈ components, x.Printable := by
  have succeeds : (∃ text, vector components = .ok text) ↔
      ∃ parts, components.mapM number = .ok parts := by
    rw [vector]
    cases components.mapM number <;> simp [Except.map]
  rw [succeeds, exists_mapM_ok_iff]
  simp only [exists_number_iff]

/-- A kind is had for a block exactly when the catalog finds it. -/
theorem kindOf_eq_ok_iff {kind : Kind} : kindOf c b = .ok kind ↔ c.find? b.kindId = some kind := by
  rw [kindOf]
  cases c.find? b.kindId <;> simp [reject]

/-- A connection can be written when its output is there, which is what the check
asks for as well. -/
theorem exists_connectionArgument_iff {source output : String} :
    (∃ text, connectionArgument c blocks b source output = .ok text) ↔
      (Block.outputOf? c blocks source output).isSome := by
  rw [connectionArgument, Block.outputOf?]
  cases Block.find? blocks source with
  | none => simp [reject]
  | some origin =>
    cases known : c.find? origin.kindId with
    | none => simp [kindOf, known, reject, bind, Except.bind]
    | some kind =>
      cases sent : kind.findOutput? output <;> simp [kindOf, known, sent, reject, bind, Except.bind]

/-- An argument can be written when nothing is wrong with the port, a default stands
in for a missing value, the numbers are printable, and the value has been checked.
The four are about different values, and only the first is a problem to the
check. -/
theorem exists_argument_iff :
    (∃ text, argument c blocks b port = .ok text) ↔
      Block.portProblem? c blocks b port = none ∧
      (b.value? port.id = none → port.default ≠ none) ∧
      (∀ x ∈ b.printed port, x.Printable) ∧
      ∀ held, b.value? port.id ≠ some (.unchecked held) := by
  rw [argument, Block.portProblem?_eq_none_iff, Block.printed]
  cases b.value? port.id with
  | none =>
    cases given : port.default with
    | none => simp [defaultArgument, given, reject]
    | some default =>
      cases default <;> simp [defaultArgument, given, exists_number_iff, exists_vector_iff]
  | some value =>
    cases value <;> simp [exists_number_iff, exists_vector_iff, exists_connectionArgument_iff, reject]

/-- A call can be written when its kind is known and its arguments can, one for each
declared input. -/
theorem exists_call_iff :
    (∃ call, Program.call c blocks b = .ok call) ↔
      ∃ kind, c.find? b.kindId = some kind ∧
        ∀ port ∈ kind.inputs, ∃ text, argument c blocks b port = .ok text := by
  simp only [call, bind_eq_ok_iff, kindOf_eq_ok_iff, ← exists_mapM_ok_iff]
  constructor
  · rintro ⟨_, kind, known, arguments, written, _⟩
    exact ⟨kind, known, arguments, written⟩
  · rintro ⟨kind, known, arguments, written⟩
    exact ⟨_, kind, known, arguments, written, rfl⟩

/-! ## Programs -/

/-- The order that generation uses is that of sorting; it differs in how a cycle is
reported. -/
theorem sorted_eq_ok_iff {ordered : List Block} :
    sorted c blocks = .ok ordered ↔ Block.sort c blocks = .ok ordered := by
  rw [sorted]
  cases Block.sort c blocks <;> simp [Except.mapError]

/-- What generation goes through, and what it puts together at the end. Every step
is a condition of its own, and the steps come in the order in which they can
refuse. -/
theorem generate_eq_ok_iff {context : Context} {p : Program} :
    generate c context blocks = .ok p ↔
      blocks ≠ [] ∧ (∃ known, blocks.mapM (kindOf c) = .ok known) ∧
      ∃ ordered, Block.sort c blocks = .ok ordered ∧ Names.collisions c blocks = [] ∧
      ∃ kinds, ordered.mapM (kindOf c) = .ok kinds ∧
      ∃ calls, ordered.mapM (call c blocks) = .ok calls ∧
      ∃ last, calls.getLast? = some last ∧
        p = {
          precision := context.precision
          uniforms := declareUniforms context.uniforms
          definitions := (ordered.zip kinds).map fun (b, k) => definition k b.id
          calls := calls
          outputType := last.type
          output := last.result } := by
  unfold generate
  by_cases empty : blocks = []
  · simp [empty, reject]
  · rw [if_neg (by simpa using empty)]
    simp only [bind_eq_ok_iff, sorted_eq_ok_iff]
    constructor
    · rintro ⟨known, all, ordered, sort, rest⟩
      split at rest
      · cases rest
      next apart =>
        simp only [bind_eq_ok_iff] at rest
        obtain ⟨kinds, hkinds, calls, hcalls, rest⟩ := rest
        split at rest
        · cases rest
        next last hlast =>
          cases rest
          exact ⟨empty, ⟨known, all⟩, ordered, sort, by simpa using apart, kinds, hkinds, calls,
            hcalls, last, hlast, rfl⟩
    · rintro ⟨_, ⟨known, all⟩, ordered, sort, apart, kinds, hkinds, calls, hcalls, last, hlast, rfl⟩
      refine ⟨known, all, ordered, sort, ?_⟩
      rw [if_neg (by simp [apart])]
      simp only [bind_eq_ok_iff]
      refine ⟨kinds, hkinds, calls, hcalls, ?_⟩
      rw [hlast]

/-- Blocks have a program when their kinds are known, no names collide, and the
blocks can be sorted and every call of theirs written. The context has no say in
it. -/
theorem exists_generate_iff (context : Context) (nonempty : blocks ≠ []) :
    (∃ p, generate c context blocks = .ok p) ↔
      (∀ b ∈ blocks, ∃ kind, c.find? b.kindId = some kind) ∧ Names.collisions c blocks = [] ∧
      ∃ ordered, Block.sort c blocks = .ok ordered ∧
        ∀ b ∈ ordered, ∃ call, Program.call c blocks b = .ok call := by
  simp only [← kindOf_eq_ok_iff, ← exists_mapM_ok_iff, generate_eq_ok_iff]
  constructor
  · rintro ⟨_, _, all, ordered, sort, apart, _, _, calls, hcalls, _⟩
    exact ⟨all, apart, ordered, sort, calls, hcalls⟩
  · rintro ⟨all, apart, ordered, sort, calls, hcalls⟩
    have known : ∃ kinds, ordered.mapM (kindOf c) = .ok kinds := by
      rw [exists_mapM_ok_iff]
      intro b hb
      exact exists_mapM_ok_iff.mp all b (Block.mem_of_mem_sort sort hb)
    obtain ⟨kinds, hkinds⟩ := known
    have some_call : calls ≠ [] := by
      rintro rfl
      rw [mapM_eq_ok_iff, List.forall₂_nil_right_iff] at hcalls
      exact Block.sort_ne_nil sort nonempty hcalls
    exact ⟨_, nonempty, all, ordered, sort, apart, kinds, hkinds, calls, hcalls, _,
      List.getLast?_eq_some_getLast some_call, rfl⟩

/-- **Parsed blocks with distinct ids have a program exactly when they have no
problem and every argument can be written**: an input without a value has a
default, and the numbers to print are printable.

With a repeated id the two part: it is a problem, but the first block of the id
may well have a program. -/
theorem generate_ok_iff_no_problems (c : Catalog) (context : Context) {blocks : List Block}
    (nonempty : blocks ≠ []) (parsed : ∀ b ∈ blocks, b.Parsed)
    (distinct : (blocks.map Block.id).Nodup) :
    (∃ p, generate c context blocks = .ok p) ↔
      Block.problems c blocks = [] ∧
      ∀ b ∈ blocks, ∀ kind, c.find? b.kindId = some kind → ∀ port ∈ kind.inputs,
        (b.value? port.id = none → port.default ≠ none) ∧
        ∀ x ∈ b.printed port, x.Printable := by
  rw [exists_generate_iff context nonempty, Block.problems_eq_nil_iff]
  simp only [Block.blockProblems_eq_nil_iff, exists_call_iff, exists_argument_iff]
  constructor
  · rintro ⟨_, apart, ordered, sort, written⟩
    -- Ids are distinct, so no block is left out of the sorted ones.
    have each := fun b hb =>
      written b ((Block.mem_iff_of_sort sort).mpr (Block.find?_id_of_mem distinct hb))
    refine ⟨⟨⟨ordered, sort⟩, distinct, ?_, apart⟩, ?_⟩
    · intro b hb
      obtain ⟨kind, known, ports⟩ := each b hb
      exact ⟨kind, known, fun port hport => (ports port hport).1⟩
    · intro b hb kind known port hport
      obtain ⟨_, same, ports⟩ := each b hb
      cases known.symm.trans same
      exact ⟨(ports port hport).2.1, (ports port hport).2.2.1⟩
  · rintro ⟨⟨⟨ordered, sort⟩, _, sound, apart⟩, printable⟩
    refine ⟨?_, apart, ordered, sort, ?_⟩
    · intro b hb
      obtain ⟨kind, known, _⟩ := sound b hb
      exact ⟨kind, known⟩
    · intro b placed
      have hb := List.mem_of_find?_eq_some ((Block.mem_iff_of_sort sort).mp placed)
      obtain ⟨kind, known, ports⟩ := sound b hb
      refine ⟨kind, known, fun port hport => ⟨ports port hport, ?_⟩⟩
      obtain ⟨given, print⟩ := printable b hb kind known port hport
      -- An unchecked value is no problem and yet no argument; here there is none.
      exact ⟨given, print, (parsed b hb).value?_ne_unchecked port.id⟩

/-- A connection to a block that stands behind, a vector, an expression, and an
input left to its default: each of the ways in which an argument is written. -/
theorem generate_ok_iff_no_problems_painting :
    Sample.painting ≠ [] ∧ (∀ b ∈ Sample.painting, b.Parsed) ∧
      (Sample.painting.map Block.id).Nodup ∧
      ∃ p, generate Sample.palette .usual Sample.painting = .ok p := by
  have nonempty : Sample.painting ≠ [] := nofun
  have distinct : (Sample.painting.map Block.id).Nodup := by decide
  have parsed : ∀ b ∈ Sample.painting, b.Parsed := by
    simp only [Sample.painting, List.forall_mem_cons, List.not_mem_nil, false_imp_iff, implies_true,
      and_true]
    exact ⟨⟨.text, Sample.painted.toJson, by cbv⟩, ⟨.text, Sample.primed.toJson, by cbv⟩⟩
  refine ⟨nonempty, parsed, distinct, ?_⟩
  refine (generate_ok_iff_no_problems Sample.palette .usual nonempty parsed distinct).mpr
    ⟨by cbv, ?_⟩
  simp only [Sample.painting, List.forall_mem_cons, List.not_mem_nil, false_imp_iff, implies_true,
    and_true]
  refine ⟨fun kind known => ?_, fun kind known => ?_⟩
  · cases known.symm.trans (show _ = some Sample.sum by cbv)
    simp [Sample.sum, Sample.port, Sample.painted, Block.printed, Block.value?,
      Keyed.find?, Binary64.printable_zero]
  · cases known.symm.trans (show _ = some Sample.tone by cbv)
    simp [Sample.tone, Sample.port, Sample.primed, Block.printed, Block.value?,
      Keyed.find?, Binary64.printable_zero]

end Program

end ShaderGraph
