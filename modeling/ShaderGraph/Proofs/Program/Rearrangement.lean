import Mathlib
import ShaderGraph.Proofs.Program.Calls
import ShaderGraph.Proofs.Program.Repetition

/-!
# The order of the caller

Sorting, checking and generating go through the blocks in the order they are
listed in, and what they say depends on it: which id on a cycle is named, which
of two blocks owns an identifier, what is refused first. Whether they say
anything does not (`Program.accepted_in_any_order`).

The reason is that each of the three verdicts can be put in terms of which blocks
there are and which block is found for an id. Where no id repeats, neither
changes when the blocks are rearranged.
-/

namespace ShaderGraph

namespace Block

variable {c : Catalog} {blocks others : List Block}

/-- Where no id repeats, the block that is found for an id does not depend on the order.
All else about rearranged blocks follows from this. -/
theorem find?_eq_of_perm (distinct : (blocks.map Block.id).Nodup) (perm : blocks.Perm others) :
    Block.find? blocks = Block.find? others := by
  have distinct' : (others.map Block.id).Nodup := (perm.map Block.id).nodup_iff.mp distinct
  funext x
  ext b
  constructor
  · intro found
    cases id_eq_of_find? found
    exact find?_id_of_mem distinct' (perm.mem_iff.mp (List.mem_of_find?_eq_some found))
  · intro found
    cases id_eq_of_find? found
    exact find?_id_of_mem distinct (perm.mem_iff.mpr (List.mem_of_find?_eq_some found))

/-! ## Verdicts that rest on what is found -/

/-- Which ids depend on which rests on the blocks that are found for them, and on nothing
else about the list. -/
theorem depends_congr (same : Block.find? blocks = Block.find? others) :
    Block.Depends c blocks = Block.Depends c others := by
  funext x y
  simp only [Block.Depends, ← exists_find?_iff, same]

/-- Whether blocks can be sorted rests on their dependencies, for what matters is whether
these have a cycle; the order that is found need not be the same. -/
theorem exists_sort_ok_congr (same : Block.find? blocks = Block.find? others) :
    (∃ ordered, Block.sort c blocks = .ok ordered) ↔ ∃ ordered, Block.sort c others = .ok ordered := by
  rw [exists_sort_iff_acyclic, exists_sort_iff_acyclic, depends_congr same]

/-- Whether blocks cannot be sorted rests on their dependencies too, though another id may
be named. -/
theorem exists_sort_error_congr (same : Block.find? blocks = Block.find? others) :
    (∃ x, Block.sort c blocks = .error x) ↔ ∃ x, Block.sort c others = .error x := by
  have refused : ∀ listed : List Block, (∃ x, Block.sort c listed = .error x) ↔
      ¬ ∃ ordered, Block.sort c listed = .ok ordered := by
    intro listed
    cases Block.sort c listed <;> simp
  rw [refused blocks, refused others, exists_sort_ok_congr same]

/-- Whether names collide rests on the blocks that are found for ids. Which of two blocks
is the owner depends on the order, and so do the reports. -/
theorem collisions_eq_nil_congr (same : Block.find? blocks = Block.find? others) :
    Names.collisions c blocks = [] ↔ Names.collisions c others = [] := by
  simp only [Names.collisions_eq_nil_iff, Names.mem_declarations_iff, same]

/-- What is wrong with a block is told from the block and those it reads from, which are
looked up by their ids. -/
theorem blockProblems_congr (same : Block.find? blocks = Block.find? others) :
    blockProblems c blocks = blockProblems c others := by
  have outputs : outputOf? c blocks = outputOf? c others := by
    funext source port
    rw [outputOf?, outputOf?, same]
  have ports : portProblem? c blocks = portProblem? c others := by
    funext b port
    rw [portProblem?, portProblem?, same, outputs]
  funext b
  rw [blockProblems, blockProblems, ports]

/-- Rearranged blocks have no problem exactly when the blocks had none; each of the four
sides is looked at by itself. -/
theorem problems_eq_nil_of_perm (distinct : (blocks.map Block.id).Nodup)
    (perm : blocks.Perm others) : problems c blocks = [] ↔ problems c others = [] := by
  have same := find?_eq_of_perm distinct perm
  have distinct' := (perm.map Block.id).nodup_iff
  simp only [problems_eq_nil_iff, exists_sort_ok_congr same, distinct', blockProblems_congr same,
    perm.mem_iff, collisions_eq_nil_congr same]

end Block

/-! ## Programs -/

namespace Program

variable {c : Catalog} {blocks others : List Block}

/-- The call of every sorted block can be written when that of every block can that is
found for its id. In this form the order is out of the way. -/
theorem exists_sorted_calls_iff :
    (∃ ordered, Block.sort c blocks = .ok ordered ∧
      ∀ b ∈ ordered, ∃ call, Program.call c blocks b = .ok call) ↔
    (∃ ordered, Block.sort c blocks = .ok ordered) ∧
      ∀ b, Block.find? blocks b.id = some b → ∃ call, Program.call c blocks b = .ok call := by
  constructor
  · rintro ⟨ordered, sort, written⟩
    exact ⟨⟨ordered, sort⟩, fun b found => written b ((Block.mem_iff_of_sort sort).mpr found)⟩
  · rintro ⟨⟨ordered, sort⟩, written⟩
    exact ⟨ordered, sort, fun b hb => written b ((Block.mem_iff_of_sort sort).mp hb)⟩

/-- Rearranged blocks have a program exactly when the blocks had one. It may be another
program, with its calls in another order. -/
theorem exists_generate_of_perm (context : Context) (distinct : (blocks.map Block.id).Nodup)
    (perm : blocks.Perm others) :
    (∃ p, generate c context blocks = .ok p) ↔ ∃ p, generate c context others = .ok p := by
  by_cases empty : blocks = []
  · subst empty
    rw [perm.nil_eq]
  · have nonempty : others ≠ [] := fun none => empty (perm.trans (none ▸ .nil)).eq_nil
    have same := Block.find?_eq_of_perm distinct perm
    rw [exists_generate_iff context empty, exists_generate_iff context nonempty,
      exists_sorted_calls_iff, exists_sorted_calls_iff]
    simp only [perm.mem_iff, Block.collisions_eq_nil_congr same, Block.exists_sort_ok_congr same,
      call_congr same, same]

/-- **Whether blocks are accepted does not depend on the order they are listed in.**
Where no id repeats and the blocks are rearranged, they cannot be sorted exactly when they
could not before, they are free of problems exactly when they were, and they have a program
in the same context exactly when they had one. -/
theorem accepted_in_any_order (c : Catalog) (context : Context)
    (distinct : (blocks.map Block.id).Nodup) (perm : blocks.Perm others) :
    ((∃ x, Block.sort c blocks = .error x) ↔ ∃ x, Block.sort c others = .error x) ∧
    (Block.problems c blocks = [] ↔ Block.problems c others = []) ∧
    ((∃ p, generate c context blocks = .ok p) ↔ ∃ p, generate c context others = .ok p) :=
  ⟨Block.exists_sort_error_congr (Block.find?_eq_of_perm distinct perm),
    Block.problems_eq_nil_of_perm distinct perm, exists_generate_of_perm context distinct perm⟩

/-- A knot taken up at its other end is refused as well, though another block is named;
and blocks that stand out of order have a program in order too. -/
theorem accepted_in_any_order_reversed :
    Block.sort Sample.catalog Sample.knot = .error "here" ∧
    Block.sort Sample.catalog Sample.knot.reverse = .error "there" ∧
    ((∃ x, Block.sort Sample.catalog Sample.knot = .error x) ↔
      ∃ x, Block.sort Sample.catalog Sample.knot.reverse = .error x) ∧
    ∃ p, generate Sample.palette .usual Sample.painting.reverse = .ok p := by
  have tied := accepted_in_any_order Sample.catalog .usual (by decide)
    Sample.knot.reverse_perm.symm
  have painted := accepted_in_any_order Sample.palette .usual (by decide)
    Sample.painting.reverse_perm.symm
  have program : generate Sample.palette .usual Sample.painting = .ok Sample.picture := by
    decide +kernel
  exact ⟨by cbv, by cbv, tied.1, painted.2.2.mp ⟨_, program⟩⟩

end Program

end ShaderGraph
