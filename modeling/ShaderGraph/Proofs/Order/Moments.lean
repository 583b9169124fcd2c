import Mathlib.Data.List.Permutation
import ShaderGraph.Proofs.Order.Dependencies

/-!
# Blocks while they are sorted

Sorting blocks is a walk of their network, and a `Block.Moment` is a state that the walk comes to.
`Block.Sorting` says in terms of the blocks what holds of such a state: of the stack and the ids in
progress, of the blocks that are in order already and the finished ids, and of what each frame has
taken from the list of its dependencies. It holds at every moment, whatever the blocks are
(`Block.sorting_of_moment`), also on the way to a cycle.

A step of the walk looks at one dependency. Whoever takes the frame on top and looks through its
dependencies until one is entered, or the frame is finished, makes several steps in one turn; the
turns begin at moments all the same.
-/

namespace ShaderGraph

/-- A stack without its upper frames: above what is left stands the lowest of them, and what is
said of the stack is said of the rest with that node above. -/
theorem Walk.Underway.drop {α : Type} {n : Network α} {order : List α} {stack : List (Frame α)} :
    ∀ (front : List (Frame α)) {above : Option α}, Underway n order above (front ++ stack) →
      Underway n order ((front.getLast?.map Frame.node).or above) stack
  | [], _, underway => underway
  | g :: front, above, ⟨_, rest⟩ => by
    have lower := rest.drop front
    rw [List.getLast?_cons]
    cases last : front.getLast? with
    | none => rwa [last] at lower
    | some h => rwa [last] at lower

/-- A state that the walk of some blocks comes to. -/
def Block.Moment (c : Catalog) (blocks : List Block) (s : Walk.State String) : Prop :=
  Walk.Reaches (Dependencies.network c blocks) (Walk.start (Dependencies.network c blocks).nodes) s

/-! ## A moment of a small graph -/

namespace Sample

/-- A block that reads from two others, of which one reads from the other. -/
def tower : List Block := [
  block "top" "sum" [("left", "base", "total"), ("right", "middle", "total")],
  block "middle" "sum" [("left", "base", "total")],
  block "base" "sum" []]

/-- The moment at which the last block of `tower` is in order and the other two are in progress. -/
def climbing : Walk.State String where
  roots := ["middle", "base"]
  stack := [⟨"middle", ["base"]⟩, ⟨"top", []⟩]
  marks := [("middle", .inProgress), ("base", .finished), ("base", .inProgress), ("top", .inProgress)]
  order := ["base"]

/-- The state in the example is one that the walk of the blocks comes to, found by making its steps
from the start. -/
theorem moment_climbing : Block.Moment catalog tower climbing := by
  have taken : Walk.step (Dependencies.network catalog tower)
      (Walk.start (Dependencies.network catalog tower).nodes) = .running
        ⟨["middle", "base"], [⟨"top", ["base", "middle"]⟩], [("top", .inProgress)], []⟩ := by cbv
  have entered : Walk.step (Dependencies.network catalog tower)
      ⟨["middle", "base"], [⟨"top", ["base", "middle"]⟩], [("top", .inProgress)], []⟩ = .running
        ⟨["middle", "base"], [⟨"base", []⟩, ⟨"top", ["middle"]⟩],
          [("base", .inProgress), ("top", .inProgress)], []⟩ := by cbv
  have finished : Walk.step (Dependencies.network catalog tower)
      ⟨["middle", "base"], [⟨"base", []⟩, ⟨"top", ["middle"]⟩],
        [("base", .inProgress), ("top", .inProgress)], []⟩ = .running
        ⟨["middle", "base"], [⟨"top", ["middle"]⟩],
          [("base", .finished), ("base", .inProgress), ("top", .inProgress)], ["base"]⟩ := by cbv
  have reentered : Walk.step (Dependencies.network catalog tower)
      ⟨["middle", "base"], [⟨"top", ["middle"]⟩],
        [("base", .finished), ("base", .inProgress), ("top", .inProgress)], ["base"]⟩ =
        .running climbing := by cbv
  exact .head taken (.head entered (.head finished (.head reentered .refl)))

end Sample

namespace Block

variable {c : Catalog} {blocks : List Block} {s : Walk.State String}

/-- The blocks that are in order already. -/
def settled (blocks : List Block) (s : Walk.State String) : List Block :=
  s.order.filterMap (Block.find? blocks)

/-- What holds at every moment while blocks are sorted. -/
structure Sorting (c : Catalog) (blocks : List Block) (s : Walk.State String) : Prop where
  /-- The ids on the stack are distinct, and they are the ids in progress. -/
  stack_nodup : (s.stack.map Walk.Frame.node).Nodup
  inProgress_iff : ∀ x, Walk.mark? s.marks x = some .inProgress ↔ x ∈ s.stack.map Walk.Frame.node
  /-- Of two frames, one right above the other, the lower depends on the upper. -/
  stack_path : ∀ front upper lower back, s.stack = front ++ upper :: lower :: back →
    Depends c blocks lower.node upper.node
  /-- The finished ids are those of the blocks in order, and none is there twice. -/
  finished_iff : ∀ x, Walk.mark? s.marks x = some .finished ↔ x ∈ (settled blocks s).map Block.id
  settled_nodup : ((settled blocks s).map Block.id).Nodup
  /-- What a finished id depends on is finished, and its block stands further in front. -/
  settled_behind : ∀ (i : Nat) (b : Block), (settled blocks s)[i]? = some b →
    ∀ y, Depends c blocks b.id y → Walk.mark? s.marks y = some .finished ∧
      ∃ (j : Nat) (origin : Block), j < i ∧ (settled blocks s)[j]? = some origin ∧ origin.id = y
  /-- A frame has looked at some of its dependencies, and those behind them are pending. What it has
  looked at is finished, or is right above it, or does not occur. -/
  looked : ∀ front f back, s.stack = front ++ f :: back →
    ∃ b looked, Block.find? blocks f.node = some b ∧
      Dependencies.sources c b = looked ++ f.pending ∧
      ∀ y ∈ looked, y ∈ blocks.map Block.id →
        Walk.mark? s.marks y = some .finished ∨ front.getLast?.map Walk.Frame.node = some y

/-- The settled blocks have the finished ids, in the order in which these were finished, since each
finished id occurs and has a block. -/
theorem map_id_settled (inv : Walk.Invariant (Dependencies.network c blocks) s) :
    (settled blocks s).map Block.id = s.order :=
  map_id_filterMap_find? blocks s.order fun x hx =>
    Dependencies.mem_nodes_iff.mp (inv.mem_of_marked ((inv.finished_iff x).mpr hx))

/-- The id of a frame occurs, and its block's sources are those it has looked at, the one right
above it, and those still pending, in that order; the first are finished. -/
theorem looked_of_underway {front back : List (Walk.Frame String)} {f : Walk.Frame String}
    (inv : Walk.Invariant (Dependencies.network c blocks) s) (stack : s.stack = front ++ f :: back) :
    ∃ b looked, Block.find? blocks f.node = some b ∧
      Dependencies.sources c b =
        looked ++ (front.getLast?.map Walk.Frame.node).toList ++ f.pending ∧
      ∀ y ∈ looked, y ∈ blocks.map Block.id → Walk.mark? s.marks y = some .finished := by
  have onStack : f.node ∈ s.stack.map Walk.Frame.node := by simp [stack]
  have node := inv.mem_of_marked ((inv.inProgress_iff f.node).mpr onStack)
  obtain ⟨b, found⟩ := exists_find?_iff.mpr (Dependencies.mem_nodes_iff.mp node)
  have underway := inv.underway
  rw [stack] at underway
  obtain ⟨⟨looked, split, done⟩, _⟩ := underway.drop front
  rw [Dependencies.successors_network, found, Option.or_none] at split
  refine ⟨b, looked, found, split, fun y hy occurs => ?_⟩
  exact (inv.finished_iff y).mpr (done y hy (Dependencies.mem_nodes_iff.mpr occurs))

/-- The invariant of walks, said of blocks: each of the parts of `Sorting` is read off from one
field of the invariant. -/
theorem sorting_of_invariant (inv : Walk.Invariant (Dependencies.network c blocks) s) :
    Sorting c blocks s where
  stack_nodup := inv.stack_nodup
  inProgress_iff := inv.inProgress_iff
  stack_path front upper lower back stack := by
    -- The upper frame is the last of those above the lower one.
    have stack' : s.stack = (front ++ [upper]) ++ lower :: back := by simp [stack]
    obtain ⟨b, looked, found, split, _⟩ := looked_of_underway inv stack'
    rw [List.getLast?_concat] at split
    have upperNode : upper.node ∈ s.stack.map Walk.Frame.node := by simp [stack]
    have occurs := inv.mem_of_marked ((inv.inProgress_iff upper.node).mpr upperNode)
    refine ⟨⟨b, found, Dependencies.mem_sources_iff.mp ?_⟩, Dependencies.mem_nodes_iff.mp occurs⟩
    rw [split]
    simp
  finished_iff x := by rw [map_id_settled inv, inv.finished_iff]
  settled_nodup := by
    rw [map_id_settled inv]
    exact inv.order_nodup
  settled_behind i b at_i y depends := by
    have ids := map_id_settled inv
    have placed : s.order[i]? = some b.id := by rw [← ids, List.getElem?_map, at_i]; rfl
    obtain ⟨j, before, at_j⟩ := inv.behind i b.id placed y (Dependencies.edge_iff.mpr depends)
    refine ⟨(inv.finished_iff y).mpr (List.mem_of_getElem? at_j), ?_⟩
    rw [← ids, List.getElem?_map] at at_j
    obtain ⟨origin, found, rfl⟩ := Option.map_eq_some_iff.mp at_j
    exact ⟨j, origin, before, found, rfl⟩
  looked front f back stack := by
    obtain ⟨b, looked, found, split, done⟩ := looked_of_underway inv stack
    refine ⟨b, looked ++ (front.getLast?.map Walk.Frame.node).toList, found, split, fun y hy occurs => ?_⟩
    rcases List.mem_append.mp hy with hy | above
    · exact .inl (done y hy occurs)
    · exact .inr (Option.mem_toList.mp above)

/-- **What holds at every moment while blocks are sorted.** The stack is a path of dependencies and
holds the ids in progress; the blocks that are in order are those of the finished ids, each behind
what it depends on; and what a frame has looked at is finished or is right above it. -/
theorem sorting_of_moment (moment : Moment c blocks s) : Sorting c blocks s :=
  sorting_of_invariant (Walk.Invariant.of_reaches moment)

/-- The lower frame has looked at a finished dependency and at the one above it. -/
theorem sorting_of_moment_climbing :
    Moment Sample.catalog Sample.tower Sample.climbing ∧
      Sorting Sample.catalog Sample.tower Sample.climbing ∧
      Depends Sample.catalog Sample.tower "top" "middle" := by
  have sorting := sorting_of_moment Sample.moment_climbing
  exact ⟨Sample.moment_climbing, sorting, sorting.stack_path [] _ _ [] rfl⟩

end Block

end ShaderGraph
