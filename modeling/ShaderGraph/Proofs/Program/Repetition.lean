import Mathlib
import ShaderGraph.Proofs.Program.Acceptance

/-!
# Repeated ids

Where several blocks share an id, the first of them counts, and the others might
as well not be there: dependencies, order, collisions, look-up and program are
those of the list without them (`Program.first_occurrence_wins`).

Generation asks for the kinds of the others all the same before it leaves them
aside, so they have to be known.
-/

namespace ShaderGraph

/-! ## A graph with a repeated id -/

namespace Sample

/-- Another block with the id of `primed`, of another kind. If it counted, it would
close a cycle. -/
def shadow : Block := block "primed" "sum" [("left", "painted", "total")]

/-- Two blocks, and one in the shadow of the second. -/
def repainting : List Block := painting ++ [shadow]

end Sample

/-! ## First occurrences -/

namespace Block

variable {c : Catalog} {blocks : List Block} {b : Block}

/-- The blocks without those whose id occurs before. -/
def firstOccurrences (blocks : List Block) : List Block :=
  blocks.eraseDupsBy fun b b' => b.id == b'.id

/-- What is kept of a list, after blocks that have been kept. By induction on the
list; the loop gathers what it keeps in reverse. -/
theorem eraseDupsBy_loop_eq (blocks : List Block) :
    ∀ kept : List Block, List.eraseDupsBy.loop (fun b b' : Block => b.id == b'.id) blocks kept =
      kept.reverse ++ firstsAfter (kept.map Block.id) blocks := by
  induction blocks with
  | nil => simp [List.eraseDupsBy.loop, firstsAfter]
  | cons b rest ih =>
    intro kept
    have seen : kept.any (fun b' => b.id == b'.id) = (kept.map Block.id).contains b.id := by
      rw [List.contains_eq_any_beq, List.any_map]
      rfl
    unfold List.eraseDupsBy.loop firstsAfter
    rw [seen]
    split
    next repeated => rw [repeated, ih, if_pos rfl]
    next new => rw [new, ih]; simp

/-- The first occurrences, said by the library's own function, are what the
program's loop keeps. Statements use the one and proofs the other. -/
theorem firstOccurrences_eq_firsts (blocks : List Block) : firstOccurrences blocks = firsts blocks :=
  eraseDupsBy_loop_eq blocks []

theorem firsts_firstOccurrences (blocks : List Block) :
    firsts (firstOccurrences blocks) = firsts blocks := by
  rw [firstOccurrences_eq_firsts, firsts_firsts]

theorem find?_firstOccurrences (blocks : List Block) :
    Block.find? (firstOccurrences blocks) = Block.find? blocks := by
  funext x
  rw [firstOccurrences_eq_firsts, find?_firsts]

theorem mem_of_mem_firstOccurrences (hb : b ∈ firstOccurrences blocks) : b ∈ blocks := by
  rw [firstOccurrences_eq_firsts, mem_firsts_iff] at hb
  exact List.mem_of_find?_eq_some hb

/-- Some block is left when repeated ids are left out, unless there was none at
all. -/
theorem firstOccurrences_eq_nil_iff : firstOccurrences blocks = [] ↔ blocks = [] := by
  rw [firstOccurrences_eq_firsts]
  cases blocks with
  | nil => simp [firsts, firstsAfter]
  | cons b rest => simp [firsts, firstsAfter]

/-- The dependencies of a list are those of its first occurrences, as the table gets
one entry for each id. -/
theorem table_firstOccurrences (c : Catalog) (blocks : List Block) :
    Dependencies.table c (firstOccurrences blocks) = Dependencies.table c blocks := by
  rw [Dependencies.table, Dependencies.table, firsts_firstOccurrences]

/-- A list is sorted as its first occurrences are, into the same order or up to the
same cycle. -/
theorem sort_firstOccurrences (c : Catalog) (blocks : List Block) :
    Block.sort c (firstOccurrences blocks) = Block.sort c blocks := by
  rw [Block.sort, Block.sort, Dependencies.network, Dependencies.network, table_firstOccurrences,
    find?_firstOccurrences]

/-- The collisions of a list are those of its first occurrences, for only these
declare identifiers. -/
theorem collisions_firstOccurrences (c : Catalog) (blocks : List Block) :
    Names.collisions c (firstOccurrences blocks) = Names.collisions c blocks := by
  rw [Names.collisions, Names.collisions, firsts_firstOccurrences]

end Block

/-! ## Programs -/

namespace Program

open Attempt

variable {c : Catalog} {blocks others : List Block}

/-- A call looks at the other blocks only to find those it reads from, so blocks
that are found alike are called alike. -/
theorem call_congr (same : Block.find? blocks = Block.find? others) :
    Program.call c blocks = Program.call c others := by
  have connections : connectionArgument c blocks = connectionArgument c others := by
    funext b source port
    rw [connectionArgument, connectionArgument, same]
  have arguments : argument c blocks = argument c others := by
    funext b port
    rw [argument, argument, connections]
  funext b
  rw [Program.call, Program.call, arguments]

/-- With all kinds known, the program of a graph is that of its first blocks.
Without this premise a repeated block of unknown kind would refuse the whole, as the
kinds of all blocks are looked up. -/
theorem generate_firstOccurrences (known : ∀ b ∈ blocks, ∃ kind, c.find? b.kindId = some kind)
    (context : Context) :
    generate c context (Block.firstOccurrences blocks) = generate c context blocks := by
  by_cases empty : blocks = []
  · subst empty
    rfl
  · simp only [← kindOf_eq_ok_iff] at known
    obtain ⟨kinds, all⟩ := exists_mapM_ok_iff.mpr known
    obtain ⟨kept, some⟩ := exists_mapM_ok_iff.mpr fun b (hb : b ∈ Block.firstOccurrences blocks) =>
      known b (Block.mem_of_mem_firstOccurrences hb)
    have kept_nonempty := mt Block.firstOccurrences_eq_nil_iff.mp empty
    unfold generate
    rw [if_neg (by simpa using kept_nonempty), if_neg (by simpa using empty), all, some, sorted, sorted,
      Block.sort_firstOccurrences, Block.collisions_firstOccurrences,
      call_congr (Block.find?_firstOccurrences blocks)]
    rfl

/-- **The first block of an id wins everywhere.** Without the blocks whose id occurs
before, a list has the same dependencies, the same order or the same id on a cycle,
and the same collisions, and the same block is found for an id. If the kinds of all
blocks are known, it has the same program or is refused in the same words. -/
theorem first_occurrence_wins (c : Catalog) (blocks : List Block) :
    Dependencies.table c (Block.firstOccurrences blocks) = Dependencies.table c blocks ∧
    Block.sort c (Block.firstOccurrences blocks) = Block.sort c blocks ∧
    Names.collisions c (Block.firstOccurrences blocks) = Names.collisions c blocks ∧
    (∀ id, Block.find? (Block.firstOccurrences blocks) id = Block.find? blocks id) ∧
    ((∀ b ∈ blocks, ∃ kind, c.find? b.kindId = some kind) → ∀ context,
      generate c context (Block.firstOccurrences blocks) = generate c context blocks) :=
  ⟨Block.table_firstOccurrences c blocks, Block.sort_firstOccurrences c blocks,
    Block.collisions_firstOccurrences c blocks,
    fun id => congrFun (Block.find?_firstOccurrences blocks) id, generate_firstOccurrences⟩

/-- A block of another kind that would close a cycle counts for nothing behind the
first of its id. -/
theorem first_occurrence_wins_repainting :
    (∀ b ∈ Sample.repainting, ∃ kind, Sample.palette.find? b.kindId = some kind) ∧
      Block.firstOccurrences Sample.repainting = Sample.painting ∧
      generate Sample.palette .usual Sample.painting =
        generate Sample.palette .usual Sample.repainting := by
  have known : ∀ b ∈ Sample.repainting, ∃ kind, Sample.palette.find? b.kindId = some kind := by
    simp only [← Option.isSome_iff_exists]
    decide
  have kept : Block.firstOccurrences Sample.repainting = Sample.painting := by rfl
  refine ⟨known, kept, ?_⟩
  rw [← kept]
  exact (first_occurrence_wins Sample.palette Sample.repainting).2.2.2.2 known .usual

end Program

end ShaderGraph
