import Mathlib.Data.List.Permutation
import ShaderGraph.Proofs.Order.Dependencies

/-!
# Blocks added at the end

A network may have more nodes behind those it has. If no node that was there leads
to an added one (`Network.Extends`), a walk of the longer network begins with the
walk of the shorter one: every move of the one is a move of the other, with the
added nodes as roots still to come (`Walk.Move.extend`). It is cut short at the same
node, or it goes on where the shorter walk is complete, and what is finished by then
stays in front (`Network.Extends.walk_error`, `Network.Extends.walk_prefix`).

So blocks that are added at the end never change the order of those in front, as
long as the blocks in front do not read from them (`Block.sort_append`).
-/

namespace ShaderGraph

/-! ## Longer networks -/

/-- A network with nodes added behind. The nodes that were there keep their successors, and
none of these is an added node. -/
structure Network.Extends {α : Type} (n m : Network α) (added : List α) : Prop where
  nodes : m.nodes = n.nodes ++ added
  successors : ∀ x ∈ n.nodes, m.successors x = n.successors x
  apart : ∀ x ∈ n.nodes, ∀ y ∈ n.successors x, y ∈ added → y ∈ n.nodes

section Extends

variable {α : Type} {n m : Network α} {added : List α} {x y : α}

/-- A node of the shorter network is one of the longer network too, where the added nodes
stand behind all others. -/
theorem Network.Extends.mem_nodes (ext : n.Extends m added) (node : x ∈ n.nodes) : x ∈ m.nodes := by
  rw [ext.nodes]
  exact List.mem_append_left added node

/-- A successor of an old node is a node of both networks or of neither. This is the premise
that keeps the walk of the old nodes from turning to an added one. -/
theorem Network.Extends.mem_nodes_iff (ext : n.Extends m added) (node : x ∈ n.nodes)
    (successor : y ∈ n.successors x) : y ∈ m.nodes ↔ y ∈ n.nodes := by
  refine ⟨?_, ext.mem_nodes⟩
  intro target
  rw [ext.nodes] at target
  rcases List.mem_append.mp target with old | new
  · exact old
  · exact ext.apart x node y successor new

end Extends

namespace Walk

variable {α : Type} [DecidableEq α] {n m : Network α} {s t : State α} {added : List α}

/-! ## Moves and runs -/

/-- A move is a step, the other way round than `Walk.move_of_step`. Together they let a move
be carried to another network as a step of it. -/
theorem step_of_move (move : Move n s t) : step n s = .running t := by
  cases move with
  | skipRoot skipped =>
    simp only [step]
    rw [if_pos skipped]
  | takeRoot node new =>
    simp only [step]
    rw [if_neg (by simp [node, new])]
    rfl
  | finish => rfl
  | @pass _ _ next _ _ _ _ passed =>
    simp only [step]
    by_cases node : next ∈ n.nodes
    · rw [if_neg (not_not.mpr node), passed.resolve_left (not_not.mpr node)]
    · rw [if_pos node]
  | descend node new =>
    simp only [step]
    rw [if_neg (not_not.mpr node), new]
    rfl

/-- A walk goes on from the state after a step as it would have gone on from the state
before. -/
theorem run_of_step (taken : step n s = .running t) : run n s = run n t := by
  rw [run]
  split
  next other => rw [taken] at other; cases other; rfl
  next other => rw [taken] at other; cases other
  next other => rw [taken] at other; cases other

/-- A walk goes on from every state it reaches to the same end, order or node on a cycle. By
induction on the moves. -/
theorem run_of_reaches (reached : Reaches n s t) : run n s = run n t := by
  induction reached with
  | refl => rfl
  | tail _ taken ih => rw [ih, run_of_step taken]

/-- A walk ends where the node on top has a successor in progress, and names this successor,
whatever else is on the stack. -/
theorem run_of_cycle {top x : α} {pending : List α} {below : List (Frame α)}
    (stack : s.stack = ⟨top, x :: pending⟩ :: below) (node : x ∈ n.nodes)
    (marked : mark? s.marks x = some .inProgress) : run n s = .error x := by
  have ended : step n s = .cycle x := by
    simp only [step, stack]
    rw [if_neg (not_not.mpr node), marked]
  rw [run]
  split
  next other => rw [ended] at other; cases other
  next other => rw [ended] at other; cases other
  next other => rw [ended] at other; cases other; rfl

/-- What is finished stays in front: moves add to the order at its end and take nothing from
it. -/
theorem order_prefix_of_reaches (reached : Reaches n s t) : s.order <+: t.order := by
  induction reached with
  | refl => exact List.prefix_refl _
  | tail _ taken ih =>
    apply ih.trans
    cases move_of_step taken with
    | skipRoot => exact List.prefix_refl _
    | takeRoot => exact List.prefix_refl _
    | finish => exact List.prefix_append _ _
    | pass => exact List.prefix_refl _
    | descend => exact List.prefix_refl _

/-- The order of a walk begins with what was finished at any of its moments, seen from the
end. -/
theorem order_prefix_of_run {order : List α} (ran : run n s = .ok order) : s.order <+: order := by
  obtain ⟨t, reached, _, _, rfl⟩ := exists_complete_of_run ran
  exact order_prefix_of_reaches reached

/-! ## Walks of longer networks -/

/-- The same moment of a walk with more roots to come. -/
def State.awaiting (s : State α) (more : List α) : State α := { s with roots := s.roots ++ more }

/-- **Step.** A move in a network is a move in a longer one, where the added roots wait
behind the others. The nodes, marks and successors that the move asks about are the same in
both. -/
theorem Move.extend (ext : n.Extends m added) (inv : Invariant n s)
    (listed : ∀ x ∈ s.roots, x ∈ n.nodes) (move : Move n s t) :
    Move m (s.awaiting added) (t.awaiting added) := by
  cases move with
  | @skipRoot root _ _ _ skipped =>
    have node : root ∈ n.nodes := listed root (by simp)
    exact .skipRoot (.inr (skipped.resolve_left (not_not.mpr node)))
  | @takeRoot root _ _ _ node new =>
    rw [← ext.successors root node]
    exact .takeRoot (ext.mem_nodes node) new
  | finish => exact .finish
  | pass passed =>
    obtain ⟨node, successor⟩ := inv.mem_successors_of_pending
    apply Move.pass
    rw [ext.mem_nodes_iff node successor]
    exact passed
  | @descend _ _ next _ _ _ _ node new =>
    rw [← ext.successors next node]
    exact .descend (ext.mem_nodes node) new

/-- Roots are taken from the list and never added, so what waits at the end has been waiting
from the start. -/
theorem roots_subset_of_move (move : Move n s t) : t.roots ⊆ s.roots := by
  cases move with
  | skipRoot => exact List.subset_cons_self _ _
  | takeRoot => exact List.subset_cons_self _ _
  | finish => exact List.Subset.refl _
  | pass => exact List.Subset.refl _
  | descend => exact List.Subset.refl _

/-- **Run.** What a walk reaches, the walk of a longer network reaches too, with the added
roots still waiting. By induction on the moves, with the roots known to be old nodes. -/
theorem Reaches.extend (ext : n.Extends m added) (reached : Reaches n (start n.nodes) s) :
    Reaches m (start m.nodes) (s.awaiting added) ∧ ∀ x ∈ s.roots, x ∈ n.nodes := by
  induction reached with
  | refl =>
    refine ⟨?_, fun x hx => hx⟩
    rw [ext.nodes]
    exact .refl
  | tail before taken ih =>
    obtain ⟨reached, listed⟩ := ih
    have move := move_of_step taken
    have longer := move.extend ext (Invariant.of_reaches before) listed
    exact ⟨reached.tail (step_of_move longer), fun x hx => listed x (roots_subset_of_move move hx)⟩

end Walk

section Walks

variable {α : Type} [DecidableEq α] {n m : Network α} {added : List α}

/-- A walk that is cut short is cut short in a longer network too, at the same node, since it
never comes to the added roots. -/
theorem Network.Extends.walk_error (ext : n.Extends m added) {x : α} (walked : n.walk = .error x) :
    m.walk = .error x := by
  obtain ⟨s, reached, top, pending, below, stack, node, marked⟩ := Walk.exists_cycle_of_run walked
  rw [Network.walk, Walk.run_of_reaches (Walk.Reaches.extend ext reached).1]
  exact Walk.run_of_cycle stack (ext.mem_nodes node) marked

/-- A walk that ends well is the beginning of every walk of a longer network that does: when
the old roots are done, its order stands, and what follows is added behind it. -/
theorem Network.Extends.walk_prefix (ext : n.Extends m added) {order whole : List α}
    (walked : n.walk = .ok order) (longer : m.walk = .ok whole) : order <+: whole := by
  obtain ⟨s, reached, _, _, rfl⟩ := Walk.exists_complete_of_run walked
  rw [Network.walk, Walk.run_of_reaches (Walk.Reaches.extend ext reached).1] at longer
  exact Walk.order_prefix_of_run (s := s.awaiting added) longer

end Walks

/-! ## Blocks -/

namespace Sample

/-- A block of its own, one that reads from a block in front, and a second one with an id
from in front, which would read from the block of its own if it counted. -/
def latecomers : List Block := [
  block "late" "sum" [],
  block "later" "sum" [("left", "far", "total")],
  block "near" "sum" [("left", "late", "total")]]

end Sample

namespace Block

variable {c : Catalog} {blocks others : List Block}

/-- The first blocks of a longer list begin with those of the shorter one, and behind them
come first blocks of the others, after the ids that are known by then. -/
theorem exists_firstsAfter_append (blocks others : List Block) :
    ∀ seen : List String, ∃ known, firstsAfter seen (blocks ++ others) =
      firstsAfter seen blocks ++ firstsAfter known others := by
  induction blocks with
  | nil => exact fun seen => ⟨seen, rfl⟩
  | cons b rest ih =>
    intro seen
    simp only [List.cons_append, firstsAfter]
    split
    · exact ih seen
    · obtain ⟨known, split⟩ := ih (b.id :: seen)
      exact ⟨known, by rw [split, List.cons_append]⟩

/-- The network of a longer list is longer, if the blocks in front do not read from what is
added. Without this, an old node would have a successor that only the longer network has. -/
theorem exists_network_extends
    (closed : ∀ b, Block.find? blocks b.id = some b → ∀ source, b.Reads c source →
      source ∈ others.map Block.id → source ∈ blocks.map Block.id) :
    ∃ added, (Dependencies.network c blocks).Extends (Dependencies.network c (blocks ++ others))
      added := by
  obtain ⟨known, split⟩ := exists_firstsAfter_append blocks others []
  have nodes : (Dependencies.network c (blocks ++ others)).nodes =
      (Dependencies.network c blocks).nodes ++ (firstsAfter known others).map Block.id := by
    rw [Dependencies.nodes_network, Dependencies.nodes_network, firsts, split, List.map_append, firsts]
  refine ⟨_, nodes, fun x node => ?_, fun x node y successor added => ?_⟩
  · rw [Dependencies.successors_network, Dependencies.successors_network,
      find?_append_of_mem (Dependencies.mem_nodes_iff.mp node)]
  · obtain ⟨b, found⟩ := exists_find?_iff.mpr (Dependencies.mem_nodes_iff.mp node)
    cases id_eq_of_find? found
    rw [Dependencies.successors_network, found] at successor
    obtain ⟨late, listed, rfl⟩ := List.mem_map.mp added
    have occurs : late.id ∈ others.map Block.id :=
      exists_find?_iff.mp ⟨late, ((mem_firstsAfter_iff others known).mp listed).2⟩
    exact Dependencies.mem_nodes_iff.mpr
      (closed b found late.id (Dependencies.mem_sources_iff.mp successor) occurs)

/-- The ids of sorted blocks are those that occur, so that what is sorted behind others can
be told by its ids. -/
theorem mem_map_id_of_sort {ordered : List Block} (sorted : Block.sort c blocks = .ok ordered)
    (x : String) : x ∈ ordered.map Block.id ↔ x ∈ blocks.map Block.id := by
  rw [(inOrder_of_sort sorted).mem_iff, Dependencies.mem_nodes_iff]

/-- Blocks that can be sorted with others behind them come first, and in their own order; the
rest is whatever the walk still finds in the others. -/
theorem exists_sort_append_eq {ordered whole : List Block}
    (ext : ∃ added, (Dependencies.network c blocks).Extends
      (Dependencies.network c (blocks ++ others)) added)
    (sorted : Block.sort c blocks = .ok ordered)
    (longer : Block.sort c (blocks ++ others) = .ok whole) : ∃ rest, whole = ordered ++ rest := by
  obtain ⟨added, ext⟩ := ext
  obtain ⟨order, walked, rfl⟩ := walk_of_sort sorted
  obtain ⟨_, walked', rfl⟩ := walk_of_sort longer
  obtain ⟨behind, rfl⟩ := ext.walk_prefix walked walked'
  refine ⟨behind.filterMap (Block.find? (blocks ++ others)), ?_⟩
  have same : order.filterMap (Block.find? (blocks ++ others)) =
      order.filterMap (Block.find? blocks) := by
    apply List.filterMap_congr
    intro x hx
    exact find?_append_of_mem
      (Dependencies.mem_nodes_iff.mp (((Network.walk_ok walked).mem_iff x).mp hx))
  rw [List.filterMap_append, same]

/-- **Blocks added at the end never change the order of those in front**, as long as no first
block in front reads from an id that only the added ones have. Where the blocks in front are
refused, they are refused with the others too, and the same id is named. Where they can be
sorted, the whole is refused or comes in two parts: first the blocks in front as they are
sorted alone, then the ids that occur only in the others, each once. -/
theorem sort_append (c : Catalog) {blocks others : List Block}
    (closed : ∀ b, Block.find? blocks b.id = some b → ∀ source, b.Reads c source →
      ¬ (source ∈ others.map Block.id ∧ source ∉ blocks.map Block.id)) :
    (∀ x, Block.sort c blocks = .error x → Block.sort c (blocks ++ others) = .error x) ∧
    ∀ ordered, Block.sort c blocks = .ok ordered →
      (∃ x, Block.sort c (blocks ++ others) = .error x) ∨
      ∃ rest, Block.sort c (blocks ++ others) = .ok (ordered ++ rest) ∧ (rest.map Block.id).Nodup ∧
        ∀ x, x ∈ rest.map Block.id ↔ x ∈ others.map Block.id ∧ x ∉ blocks.map Block.id := by
  have ext := exists_network_extends fun b first source reads occurs =>
    not_not.mp fun new => closed b first source reads ⟨occurs, new⟩
  refine ⟨fun x refused => ?_, fun ordered sorted => ?_⟩
  · obtain ⟨added, ext⟩ := ext
    have cut : (Dependencies.network c blocks).walk = .error x := walk_of_sort_error refused
    rw [Block.sort, ext.walk_error cut]
    rfl
  · cases longer : Block.sort c (blocks ++ others) with
    | error x => exact .inl ⟨x, rfl⟩
    | ok whole =>
      obtain ⟨rest, rfl⟩ := exists_sort_append_eq ext sorted longer
      have nodup := (inOrder_of_sort longer).nodup
      rw [List.map_append] at nodup
      obtain ⟨_, once, apart⟩ := List.nodup_append.mp nodup
      refine .inr ⟨rest, rfl, once, fun x => ?_⟩
      have all := mem_map_id_of_sort longer x
      have front := mem_map_id_of_sort sorted x
      rw [List.map_append, List.map_append, List.mem_append, List.mem_append] at all
      constructor
      · intro behind
        have new : x ∉ blocks.map Block.id := fun old => apart x (front.mpr old) x behind rfl
        exact ⟨(all.mp (.inr behind)).resolve_left new, new⟩
      · rintro ⟨occurs, new⟩
        exact (all.mpr (.inr occurs)).resolve_left fun old => new (front.mp old)

/-- Blocks out of order come first in their own order, though one of them occurs again; and a
knot stays a knot. -/
theorem sort_append_latecomers :
    Block.sort Sample.catalog Sample.tangled = .ok Sample.untangled ∧
    (∃ rest, Block.sort Sample.catalog (Sample.tangled ++ Sample.latecomers) =
        .ok (Sample.untangled ++ rest) ∧
      ∀ x, x ∈ rest.map Block.id ↔
        x ∈ Sample.latecomers.map Block.id ∧ x ∉ Sample.tangled.map Block.id) ∧
    Block.sort Sample.catalog (Sample.knot ++ Sample.latecomers) = .error "here" := by
  have sorted : Block.sort Sample.catalog Sample.tangled = .ok Sample.untangled := by cbv
  have refused : Block.sort Sample.catalog Sample.knot = .error "here" := by cbv
  have whole : (Block.sort Sample.catalog (Sample.tangled ++ Sample.latecomers)).isOk = true := by
    cbv
  -- What a block reads from are its sources, which can be listed.
  have read : ∀ {blocks : List Block}, (∀ b ∈ blocks, ∀ source ∈ Dependencies.sources Sample.catalog b,
      ¬ (source ∈ Sample.latecomers.map Block.id ∧ source ∉ blocks.map Block.id)) →
      ∀ b, Block.find? blocks b.id = some b → ∀ source, b.Reads Sample.catalog source →
        ¬ (source ∈ Sample.latecomers.map Block.id ∧ source ∉ blocks.map Block.id) := by
    intro blocks listed b first source reads
    exact listed b (List.mem_of_find?_eq_some first) source (Dependencies.mem_sources_iff.mpr reads)
  have closed := read (show ∀ b ∈ Sample.tangled, _ by decide)
  have tied := read (show ∀ b ∈ Sample.knot, _ by decide)
  refine ⟨sorted, ?_, (sort_append Sample.catalog tied).1 "here" refused⟩
  rcases (sort_append Sample.catalog closed).2 Sample.untangled sorted with ⟨x, cut⟩ | ⟨rest, h, _, ids⟩
  · rw [cut] at whole
    cases whole
  · exact ⟨rest, h, ids⟩

end Block

end ShaderGraph
