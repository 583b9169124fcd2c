import Mathlib
import ShaderGraph.Compile
import ShaderGraph.Proofs.Program.Calls

/-!
# What a compiled graph is warned of

Compiling answers with a program, the order of its blocks, and the problems that
did not stand in its way. Making the program has looked at the first block of
each id, and found nothing wrong; the check looks at the other blocks too. So
all that is left is that ids repeat, and what is wrong with the connections of
the blocks that repeat one (`Graph.compile_warnings`).
-/

namespace ShaderGraph

/-! ## A graph with warnings -/

namespace Sample

/-- Another block with the id of `primed`. It reads from a block that is not there, and
from an output that is not there. -/
def stray : Block :=
  block "primed" "sum" [("left", "gone", "total"), ("right", "painted", "nothing")]

/-- Two blocks, and one that repeats the id of the second. -/
def overpainting : Graph := ⟨painting ++ [stray], []⟩

end Sample

namespace Block

variable {c : Catalog} {blocks : List Block} {b : Block}

/-! ## Repeated ids -/

/-- The blocks that repeat an id: one of the blocks in front has it. -/
def repeats (blocks : List Block) : List Block :=
  (blocks.zipIdx.filter fun entry => (blocks.take entry.2).any (·.id == entry.1.id)).map (·.1)

/-- A block at the end is a repetition when its id occurs in front of it, and changes
nothing for the others. -/
theorem repeats_concat (blocks : List Block) (b : Block) :
    repeats (blocks ++ [b]) =
      repeats blocks ++ if b.id ∈ blocks.map Block.id then [b] else [] := by
  have front : ∀ entry ∈ blocks.zipIdx, (blocks ++ [b]).take entry.2 = blocks.take entry.2 := by
    intro entry hentry
    exact List.take_append_of_le_length (List.snd_lt_of_mem_zipIdx hentry).le
  have last : (blocks.any (·.id == b.id)) = decide (b.id ∈ blocks.map Block.id) := by
    simp [List.any_eq]
  unfold repeats
  rw [List.zipIdx_append, List.filter_append, List.map_append,
    List.filter_congr fun entry hentry => by rw [front entry hentry]]
  congr 1
  by_cases old : b.id ∈ blocks.map Block.id <;> simp [last, old]

/-- The check notices a block at the end on the same condition, with ids that were seen
before counted in. This is what the two have in common. -/
theorem repeatedAfter_concat (b : Block) :
    ∀ (blocks : List Block) (seen : List String), repeatedAfter seen (blocks ++ [b]) =
      repeatedAfter seen blocks ++
        if b.id ∈ seen ∨ b.id ∈ blocks.map Block.id then [.duplicateId b.id] else [] := by
  intro blocks
  induction blocks with
  | nil =>
    intro seen
    by_cases old : b.id ∈ seen <;> simp [repeatedAfter, old]
  | cons first rest ih =>
    intro seen
    rw [List.cons_append, repeatedAfter, repeatedAfter]
    split
    next repeated =>
      have old : first.id ∈ seen := by simpa using repeated
      rw [ih, List.cons_append]
      congr 3
      simp only [List.map_cons, List.mem_cons, eq_iff_iff]
      constructor
      · exact Or.imp_right .inr
      · rintro (h | h | h)
        · exact .inl h
        · exact .inl (h ▸ old)
        · exact .inr h
    next =>
      rw [ih]
      congr 2
      simp only [List.map_cons, List.mem_cons, eq_iff_iff]
      tauto

/-- An id is reported as repeated once for each block that repeats it, in the order of
these blocks. By induction from the end, where both sides change alike. -/
theorem repeatedAfter_nil_eq_map (blocks : List Block) :
    repeatedAfter [] blocks = (repeats blocks).map fun b => .duplicateId b.id := by
  induction blocks using List.reverseRecOn with
  | nil => rfl
  | append_singleton blocks b ih =>
    rw [repeatedAfter_concat, repeats_concat, List.map_append, ih]
    congr 1
    by_cases old : b.id ∈ blocks.map Block.id <;> simp [old]

/-- What gives nothing for the first block of an id gives only what it gives for the
blocks that repeat one. Used with the messages about a block, which a first block has
none of. -/
theorem flatMap_eq_flatMap_repeats {α : Type} {f : Block → List α}
    (silent : ∀ b, Block.find? blocks b.id = some b → f b = []) :
    blocks.flatMap f = (repeats blocks).flatMap f := by
  -- The induction is on the blocks up to one of them; what is found for an id may lie behind.
  have upTo : ∀ front, front <+: blocks → front.flatMap f = (repeats front).flatMap f := by
    intro front
    induction front using List.reverseRecOn with
    | nil => exact fun _ => rfl
    | append_singleton front b ih =>
      rintro ⟨rest, rfl⟩
      have before := ih ⟨b :: rest, by simp⟩
      rw [repeats_concat, List.flatMap_append, List.flatMap_append, before]
      congr 1
      by_cases old : b.id ∈ front.map Block.id
      · simp [old]
      · have first : Block.find? (front ++ [b] ++ rest) b.id = some b := by
          have passed : Block.find? front b.id = none := by
            rw [← Option.not_isSome_iff_eq_none, Option.isSome_iff_exists, exists_find?_iff]
            exact old
          rw [Block.find?] at passed ⊢
          simp [List.find?_append, passed]
        simp [old, silent b first]
  exact upTo blocks (List.prefix_refl blocks)

theorem repeats_eq_nil_iff : repeats blocks = [] ↔ (blocks.map Block.id).Nodup := by
  rw [← List.map_eq_nil_iff, ← repeatedAfter_nil_eq_map, repeatedAfter_eq_nil_iff]
  simp

/-! ## Connections that lead nowhere -/

/-- The message about the connection that a block holds for a port, if it leads
nowhere. -/
def strayMessage? (c : Catalog) (blocks : List Block) (b : Block) (port : Port) : Option String :=
  match b.value? port.id with
  | some (.connection source output) =>
    match Block.find? blocks source with
    | none => some ("Block " ++ b.id ++ " references non-existent block " ++ source)
    | some origin =>
      if ((c.find? origin.kindId).bind (·.findOutput? output)).isSome then none
      else
        some ("Block " ++ b.id ++ " references non-existent output " ++ output ++ " on block "
          ++ source)
  | _ => none

/-- The messages about the connections of a block that lead nowhere, in the order of the
ports that its kind declares. -/
def strayMessages (c : Catalog) (blocks : List Block) (b : Block) : List String :=
  ((c.find? b.kindId).elim [] Kind.inputs).filterMap (strayMessage? c blocks b)

/-- The message about a port says which connection leads nowhere, and whether the block
is missing or only its output. -/
theorem map_message_portProblem? (c : Catalog) (blocks : List Block) (b : Block) (port : Port) :
    (portProblem? c blocks b port).map Diagnostic.message = strayMessage? c blocks b port := by
  unfold portProblem? strayMessage?
  cases b.value? port.id with
  | none => rfl
  | some value =>
    cases value with
    | connection source output =>
      cases found : Block.find? blocks source with
      | none =>
        simp only [found]
        rfl
      | some origin =>
        cases sent : (c.find? origin.kindId).bind (·.findOutput? output) with
        | none =>
          simp only [outputOf?, found, Option.bind_eq_bind, Option.bind_some, sent]
          rfl
        | some port => simp [outputOf?, found, sent]
    | _ => rfl

/-- Of a block of known kind, what is wrong is that connections lead nowhere; one message
is given for each, in the order of the declared ports. -/
theorem map_message_blockProblems {kind : Kind} (known : c.find? b.kindId = some kind) :
    (blockProblems c blocks b).map Diagnostic.message = strayMessages c blocks b := by
  simp only [blockProblems, strayMessages, known, Option.elim_some, List.map_filterMap,
    map_message_portProblem?]

end Block

/-! ## Warnings -/

namespace Graph

variable {c : Catalog} {precision : Precision} {g : Graph} {answer : CompileAnswer String}

/-- What compiling goes through, and what it answers with. The blocks are sorted once for
the program and once for the order that is answered, with one result. -/
theorem compile_eq_ok_iff :
    g.compile c precision = .ok answer ↔
      ∃ p ordered, Program.generate c ⟨precision, g.uniforms⟩ g.blocks = .ok p ∧
        Block.sort c g.blocks = .ok ordered ∧
        answer = {
          source := p.text
          order := ordered.map Block.id
          problems := (Block.problems c g.blocks).map Diagnostic.message } := by
  simp only [compile, Attempt.bind_eq_ok_iff, Program.sorted_eq_ok_iff, Except.ok.injEq]
  constructor
  · rintro ⟨p, generated, ordered, sort, rfl⟩
    exact ⟨p, ordered, generated, sort, rfl⟩
  · rintro ⟨p, ordered, generated, sort, rfl⟩
    exact ⟨p, generated, ordered, sort, rfl⟩

/-- Nothing is wrong with the first block of an id in a graph that has a program, for
making the program has looked up its kind and the source of every connection. -/
theorem blockProblems_eq_nil_of_generate {context : Context} {blocks : List Block} {p : Program}
    {b : Block} (generated : Program.generate c context blocks = .ok p)
    (first : Block.find? blocks b.id = some b) : Block.blockProblems c blocks b = [] := by
  obtain ⟨nonempty, -⟩ := Program.generate_eq_ok_iff.mp generated
  obtain ⟨-, -, ordered, sort, written⟩ :=
    (Program.exists_generate_iff context nonempty).mp ⟨p, generated⟩
  have called := written b ((Block.mem_iff_of_sort sort).mpr first)
  obtain ⟨kind, known, arguments⟩ := Program.exists_call_iff.mp called
  refine Block.blockProblems_eq_nil_iff.mpr ⟨kind, known, fun port hport => ?_⟩
  exact (Program.exists_argument_iff.mp (arguments port hport)).1

/-- The problems of a graph that has a program are the blocks that repeat an id, and what
is wrong with them. Cycles and colliding names would have stopped the program. -/
theorem problems_of_generate {context : Context} {blocks : List Block} {p : Program}
    (generated : Program.generate c context blocks = .ok p) :
    Block.problems c blocks =
      (Block.repeats blocks).map (fun b => .duplicateId b.id) ++
        (Block.repeats blocks).flatMap (Block.blockProblems c blocks) := by
  obtain ⟨-, -, ordered, sort, apart, -⟩ := Program.generate_eq_ok_iff.mp generated
  have acyclic : Block.cycleProblem c blocks = [] := Block.cycleProblem_eq_nil_iff.mpr ⟨ordered, sort⟩
  rw [Block.problems, acyclic, apart, Block.repeatedAfter_nil_eq_map,
    Block.flatMap_eq_flatMap_repeats fun b => blockProblems_eq_nil_of_generate generated]
  simp

/-- The messages of the problems of a graph that has a program: first the repeated ids,
then the connections of these blocks that lead nowhere. -/
theorem messages_of_generate {context : Context} {blocks : List Block} {p : Program}
    (generated : Program.generate c context blocks = .ok p) :
    (Block.problems c blocks).map Diagnostic.message =
      (Block.repeats blocks).map (fun b => "Duplicate block id: " ++ b.id) ++
        (Block.repeats blocks).flatMap (Block.strayMessages c blocks) := by
  obtain ⟨-, ⟨kinds, known⟩, -⟩ := Program.generate_eq_ok_iff.mp generated
  rw [problems_of_generate generated, List.map_append, List.map_map, List.map_flatMap]
  congr 1
  apply List.flatMap_congr
  intro b repeated
  have listed : b ∈ blocks := by
    obtain ⟨entry, hentry, rfl⟩ := List.mem_map.mp repeated
    exact List.fst_mem_of_mem_zipIdx (List.mem_of_mem_filter hentry)
  obtain ⟨kind, found⟩ := Attempt.exists_mapM_ok_iff.mp ⟨kinds, known⟩ b listed
  exact Block.map_message_blockProblems (Program.kindOf_eq_ok_iff.mp found)

/-- **A compiled graph is warned of its repeated ids and of nothing else than what they
hide.** There is one message for each block that repeats an id, in their order; then come
the messages about connections of these blocks that lead nowhere, block by block and port
by port. So there are no warnings exactly when no id repeats.

The order lists the blocks as the main function of the program calls them. -/
theorem compile_warnings (compiled : g.compile c precision = .ok answer) :
    answer.problems =
      (Block.repeats g.blocks).map (fun b => "Duplicate block id: " ++ b.id) ++
        (Block.repeats g.blocks).flatMap (Block.strayMessages c g.blocks) ∧
    (answer.problems = [] ↔ (g.blocks.map Block.id).Nodup) ∧
    ∃ (before color : String) (calls : List Call),
      answer.source = before ++ ("void main() \x7b\n  " ++ Program.coordinatesLine ++ "\n\n" ++
        String.join (calls.map fun call => "  " ++ call.line ++ "\n") ++
        "  " ++ Program.colorVariable ++ " = " ++ color ++ ";\n\x7d\n") ∧
      List.Forall₂ (fun id call => ∃ b kind, Block.find? g.blocks id = some b ∧
        c.find? b.kindId = some kind ∧ call.IsOf kind id) answer.order calls := by
  obtain ⟨p, ordered, generated, sort, rfl⟩ := compile_eq_ok_iff.mp compiled
  have said := messages_of_generate generated
  refine ⟨said, ?_, ?_⟩
  · show (Block.problems c g.blocks).map Diagnostic.message = [] ↔ _
    rw [said, ← Block.repeats_eq_nil_iff]
    constructor
    · intro none
      exact List.map_eq_nil_iff.mp (List.append_eq_nil_iff.mp none).1
    · intro none
      simp [none]
  · obtain ⟨_, sort', _, called⟩ := Program.calls_of_generate generated
    cases sort.symm.trans sort'
    obtain ⟨before, text⟩ := Program.text_eq_append_main p
    refine ⟨before, _, p.calls, text, List.forall₂_map_left_iff.mpr ?_⟩
    have firsts : ∀ b ∈ ordered, Block.find? g.blocks b.id = some b := fun b hb =>
      (Block.mem_iff_of_sort sort).mp hb
    refine ((List.forall₂_and_left _ _).mpr ⟨firsts, called⟩).imp ?_
    rintro b call ⟨first, written⟩
    obtain ⟨kind, _, known, _⟩ := Program.call_eq_ok_iff.mp written
    exact ⟨b, kind, first, known, Program.isOf_of_call written known⟩

/-- A block that repeats an id and holds two connections that lead nowhere: one repeated
id is reported, and then the connections in the order of the ports. -/
theorem compile_warnings_overpainting :
    ∃ answer, Sample.overpainting.compile Sample.palette .mediump = .ok answer ∧
      answer.problems = [
        "Duplicate block id: primed",
        "Block primed references non-existent block gone",
        "Block primed references non-existent output nothing on block painted"] := by
  have compiles :
      (Sample.overpainting.compile Sample.palette .mediump).toOption.isSome = true := by
    decide +kernel
  cases compiled : Sample.overpainting.compile Sample.palette .mediump with
  | error refusal => simp [compiled, Except.toOption] at compiles
  | ok answer =>
    refine ⟨answer, rfl, (compile_warnings compiled).1.trans ?_⟩
    decide +kernel

end Graph

end ShaderGraph
