import Mathlib
import ShaderGraph.Proofs.Order.Stability
import ShaderGraph.Proofs.Program.Rearrangement

/-!
# Sorting what is sorted

Blocks that stand in order are sorted as they stand. Sorted blocks stand in order,
so sorting them once more changes nothing; and since they are the first blocks of
their ids, they have the program that the blocks had which they were sorted from
(`Program.sort_keeps_order`).

A program depends on the order of the caller in one way only, through the sorted
list: everything else that generation asks of the blocks is which block is found
for an id (`Block.find?_of_sort`).
-/

namespace ShaderGraph

namespace Sample

/-- Blocks in order, and behind them a second one of an id. If it counted, it would read
from itself. -/
def settled : List Block := untangled ++ [block "far" "sum" [("left", "far", "total")]]

/-- The blocks of `painting` in order. -/
def dried : List Block := [primed, painted]

end Sample

namespace Block

variable {c : Catalog} {blocks ordered : List Block}

/-- Sorted blocks are the first blocks of their ids, rearranged: both have no id twice,
and the same blocks in them. -/
theorem perm_firsts_of_sort (sorted : Block.sort c blocks = .ok ordered) :
    (firsts blocks).Perm ordered := by
  have first : (firsts blocks).Nodup := .of_map Block.id (nodup_firstsAfter blocks [])
  have last : ordered.Nodup := .of_map Block.id (inOrder_of_sort sorted).nodup
  apply (List.perm_ext_iff_of_nodup first last).mpr
  intro b
  rw [mem_firsts_iff, mem_iff_of_sort sorted]

/-- Sorting changes no look-up, for it keeps the first block of each id. -/
theorem find?_of_sort (sorted : Block.sort c blocks = .ok ordered) :
    Block.find? ordered = Block.find? blocks := by
  rw [← find?_eq_of_perm (nodup_firstsAfter blocks []) (perm_firsts_of_sort sorted)]
  exact funext (find?_firsts blocks)

/-- In sorted blocks no id repeats, so all of them are first blocks. -/
theorem firsts_of_sort (sorted : Block.sort c blocks = .ok ordered) : firsts ordered = ordered :=
  firstsAfter_eq_self ordered [] (inOrder_of_sort sorted).nodup (by simp)

/-- Sorted blocks are in order: they depend on each other as they did before, and each
stands behind those that it depends on. -/
theorem inOrder_sorted (sorted : Block.sort c blocks = .ok ordered) :
    (Dependencies.network c ordered).InOrder (Dependencies.network c ordered).nodes := by
  have nodes : (Dependencies.network c ordered).nodes = ordered.map Block.id := by
    rw [Dependencies.nodes_network, firsts_of_sort sorted]
  have edges : (Dependencies.network c ordered).Edge = (Dependencies.network c blocks).Edge := by
    rw [Dependencies.edge_eq_depends, Dependencies.edge_eq_depends,
      depends_congr (find?_of_sort sorted)]
  have inOrder := inOrder_of_sort sorted
  refine ⟨nodes ▸ inOrder.nodup, fun _ => Iff.rfl, ?_⟩
  intro i x at_i y edge
  rw [nodes] at at_i ⊢
  rw [edges] at edge
  exact inOrder.behind i x at_i y edge

/-- Sorting twice is sorting once, since what is in order is kept as it stands. -/
theorem sort_of_sort (sorted : Block.sort c blocks = .ok ordered) :
    Block.sort c ordered = .ok ordered := by
  rw [sort_eq_firsts_of_inOrder (inOrder_sorted sorted), firsts_of_sort sorted]

end Block

namespace Program

variable {c : Catalog} {context : Context} {blocks ordered : List Block} {p : Program}

/-- Sorted blocks have the program of the blocks they were sorted from. Definitions and
calls follow the order that sorting gives, and this is the same for both. -/
theorem generate_of_sort (sorted : Block.sort c blocks = .ok ordered)
    (generated : generate c context blocks = .ok p) : generate c context ordered = .ok p := by
  obtain ⟨nonempty, _, _, sorted', apart, kinds, known, calls, called, last, at_end, rfl⟩ :=
    generate_eq_ok_iff.mp generated
  cases sorted.symm.trans sorted'
  have same := Block.find?_of_sort sorted
  apply generate_eq_ok_iff.mpr
  refine ⟨Block.sort_ne_nil sorted nonempty, ⟨kinds, known⟩, ordered, Block.sort_of_sort sorted,
    (Block.collisions_eq_nil_congr same).mpr apart, kinds, known, calls, ?_, last, at_end, rfl⟩
  rw [call_congr same]
  exact called

/-- **Sorting keeps an order that is there.** Blocks whose dependencies occur before them
are sorted as they stand, without those whose id occurs before. So sorted blocks stay as
they are when they are sorted again, and their program is that of the blocks they were
sorted from, to the letter. -/
theorem sort_keeps_order (c : Catalog) (blocks : List Block) :
    ((∀ x y, Block.Depends c blocks x y →
        (blocks.map Block.id).idxOf y < (blocks.map Block.id).idxOf x) →
      Block.sort c blocks = .ok (Block.firstOccurrences blocks)) ∧
    (∀ ordered, Block.sort c blocks = .ok ordered → Block.sort c ordered = .ok ordered) ∧
    ∀ context p, generate c context blocks = .ok p →
      ∃ ordered, Block.sort c blocks = .ok ordered ∧ generate c context ordered = .ok p := by
  refine ⟨?_, fun _ sorted => Block.sort_of_sort sorted, ?_⟩
  · intro before
    rw [Block.firstOccurrences_eq_firsts]
    exact Block.sort_eq_firsts_of_inOrder (Block.inOrder_of_idxOf_lt before)
  · intro context p generated
    obtain ⟨_, _, ordered, sorted, _⟩ := generate_eq_ok_iff.mp generated
    exact ⟨ordered, sorted, generate_of_sort sorted generated⟩

/-- A block of unknown kind, a connection from nowhere and a repeated id do not disturb an
order; and a picture out of order is the picture in order. -/
theorem sort_keeps_order_settled :
    Block.sort Sample.catalog Sample.settled = .ok (Block.firstOccurrences Sample.settled) ∧
    Block.sort Sample.palette Sample.painting = .ok Sample.dried ∧
    Block.sort Sample.palette Sample.dried = .ok Sample.dried ∧
    generate Sample.palette .usual Sample.painting = .ok Sample.picture ∧
    generate Sample.palette .usual Sample.dried = .ok Sample.picture := by
  have before : ∀ x y, Block.Depends Sample.catalog Sample.settled x y →
      (Sample.settled.map Block.id).idxOf y < (Sample.settled.map Block.id).idxOf x := by
    have listed : ∀ x ∈ (Dependencies.network Sample.catalog Sample.settled).nodes,
        ∀ y ∈ (Dependencies.network Sample.catalog Sample.settled).successors x,
          y ∈ (Dependencies.network Sample.catalog Sample.settled).nodes →
          (Sample.settled.map Block.id).idxOf y < (Sample.settled.map Block.id).idxOf x := by
      decide +kernel
    intro x y depends
    obtain ⟨source, target, successor⟩ := Dependencies.edge_iff.mpr depends
    exact listed x source y successor target
  have sorted : Block.sort Sample.palette Sample.painting = .ok Sample.dried := by cbv
  have painted : generate Sample.palette .usual Sample.painting = .ok Sample.picture := by
    decide +kernel
  obtain ⟨_, again, same⟩ := sort_keeps_order Sample.palette Sample.painting
  obtain ⟨ordered, sorted', program⟩ := same .usual Sample.picture painted
  cases sorted.symm.trans sorted'
  exact ⟨(sort_keeps_order Sample.catalog Sample.settled).1 before, sorted, again _ sorted, painted,
    program⟩

end Program

end ShaderGraph
