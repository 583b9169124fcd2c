import Mathlib.Logic.Relation
import ShaderGraph.Order.Walk

/-!
# What every walk keeps

A walk is a transition system. `Move` names what one step can do, and
`Walk.Invariant` is what every move keeps, so it holds at every moment of every
walk (`Invariant.of_reaches`):

- the nodes in progress are the nodes on the stack, each there once;
- the finished nodes are the nodes of the order, each there once;
- of its successors, a node on the stack has looked at finished ones, at ones
  that are no nodes, and last at the node above it (`Underway`).

Two laws follow. A walk that ends well has put every node behind its successors
(`Network.walk_ok`). A walk that is cut short names a node on a cycle
(`Network.walk_error`): the stack is a path, and the successor that cut the walk
short leads back into it.

A network in order has no cycle (`Network.InOrder.acyclic`), so of the two ends
a walk can have, the network alone decides which.
-/

namespace ShaderGraph

open Relation

/-! ## Orders and cycles of a network -/

/-- One node leads to another. Successors that are no nodes do not count. -/
structure Network.Edge {α : Type} (n : Network α) (x y : α) : Prop where
  source : x ∈ n.nodes
  target : y ∈ n.nodes
  successor : y ∈ n.successors x

/-- Each node of a list stands behind its successors. -/
def Network.Behind {α : Type} (n : Network α) (order : List α) : Prop :=
  ∀ (i : Nat) (x : α), order[i]? = some x → ∀ y, n.Edge x y → ∃ j, j < i ∧ order[j]? = some y

/-- A list holds the nodes of a network, each once and behind its successors. -/
structure Network.InOrder {α : Type} (n : Network α) (order : List α) : Prop where
  nodup : order.Nodup
  mem_iff : ∀ x, x ∈ order ↔ x ∈ n.nodes
  behind : n.Behind order

section Orders

variable {α : Type} {n : Network α} {order : List α}

/-- A node whose successors are in the list may stand behind it. This is what
happens when a node is finished, and the only way in which the order grows. -/
theorem Network.Behind.concat (behind : n.Behind order) {x : α}
    (settled : ∀ y, n.Edge x y → y ∈ order) : n.Behind (order ++ [x]) := by
  intro i z hz y edge
  rcases Nat.lt_trichotomy i order.length with hlt | heq | hgt
  · rw [List.getElem?_append_left hlt] at hz
    obtain ⟨j, hj, hy⟩ := behind i z hz y edge
    exact ⟨j, hj, by rw [List.getElem?_append_left (by omega)]; exact hy⟩
  · subst heq
    rw [List.getElem?_concat_length, Option.some.injEq] at hz
    subst hz
    obtain ⟨j, hj⟩ := List.mem_iff_getElem?.mp (settled y edge)
    have hlt := (List.getElem?_eq_some_iff.mp hj).1
    exact ⟨j, hlt, by rw [List.getElem?_append_left hlt]; exact hj⟩
  · rw [List.getElem?_eq_none (by simp; omega)] at hz
    cases hz

/-- What a node leads to in one or more steps stands in front of it, wherever in the
list the node is. By induction on the path, one edge at a time. -/
theorem Network.Behind.of_transGen (behind : n.Behind order) {x y : α}
    (path : TransGen n.Edge x y) :
    ∀ i : Nat, order[i]? = some x → ∃ j, j < i ∧ order[j]? = some y := by
  induction path with
  | single edge => exact fun i hi => behind i x hi _ edge
  | tail _ edge ih =>
    intro i hi
    obtain ⟨j, hj, hy⟩ := ih i hi
    obtain ⟨k, hk, hz⟩ := behind j _ hy _ edge
    exact ⟨k, Nat.lt_trans hk hj, hz⟩

/-- A network whose nodes stand in order has no cycle: a node would have to stand in
front of itself. So a walk that ends well is proof that there was none to be
found. -/
theorem Network.InOrder.acyclic (inOrder : n.InOrder order) (x : α) :
    ¬ TransGen n.Edge x x := by
  intro cycle
  have hnode : x ∈ n.nodes := by
    obtain ⟨_, edge, _⟩ := TransGen.head'_iff.mp cycle
    exact edge.source
  obtain ⟨i, hi⟩ := List.mem_iff_getElem?.mp ((inOrder.mem_iff x).mpr hnode)
  obtain ⟨j, hj, hx⟩ := inOrder.behind.of_transGen cycle i hi
  have hlt := (List.getElem?_eq_some_iff.mp hi).1
  have heq := (List.getElem?_inj hlt inOrder.nodup).mp (hi.trans hx.symm)
  omega

end Orders

namespace Walk

/-! ## Frames -/

section Frames

variable {α : Type} {n : Network α} {order : List α}

/-- How far the frames of a stack have come. A frame has looked at a part of its
successors, and behind that at the node `above` it; those of the part that are
nodes are finished. -/
def Underway (n : Network α) (order : List α) : Option α → List (Frame α) → Prop
  | _, [] => True
  | above, f :: below =>
    (∃ looked, n.successors f.node = looked ++ above.toList ++ f.pending ∧
      ∀ y ∈ looked, y ∈ n.nodes → y ∈ order) ∧
    Underway n order (some f.node) below

/-- More finished nodes do no harm to the frames of a stack: what a frame has looked
at is finished or just above it, and finished nodes stay finished. -/
theorem Underway.mono {order' : List α} (sub : ∀ x ∈ order, x ∈ order') :
    ∀ {above : Option α} {stack : List (Frame α)},
      Underway n order above stack → Underway n order' above stack
  | _, [], _ => trivial
  | _, _ :: _, ⟨⟨looked, split, done⟩, rest⟩ =>
    ⟨⟨looked, split, fun y hy node => sub y (done y hy node)⟩, rest.mono sub⟩

/-- When the node above a stack is finished, its frames have looked at it and at
nothing after it. So what was said of that node as the one above is now said of it
as a finished one. -/
theorem Underway.pop {x : α} (finished : x ∈ order) :
    ∀ {stack : List (Frame α)}, Underway n order (some x) stack → Underway n order none stack
  | [], _ => trivial
  | f :: _, ⟨⟨looked, split, done⟩, rest⟩ => by
    refine ⟨⟨looked ++ [x], by simpa using split, ?_⟩, rest⟩
    intro y hy node
    rcases List.mem_append.mp hy with hy | hy
    · exact done y hy node
    · rw [List.mem_singleton.mp hy]
      exact finished

/-- The frames of a stack are a path to the node on top: each frame is at work on a
successor, which is the next frame's node. A cycle is read off from this path. -/
theorem Underway.reaches_top :
    ∀ {above : Option α} {f : Frame α} {below : List (Frame α)},
      Underway n order above (f :: below) → (∀ g ∈ f :: below, g.node ∈ n.nodes) →
      ∀ g ∈ f :: below, ReflTransGen n.Edge g.node f.node
  | _, f, [], _, _, g, hg => by
    rw [List.mem_singleton.mp hg]
  | _, f, h :: below, ⟨_, rest⟩, nodes, g, hg => by
    rcases List.mem_cons.mp hg with rfl | hg
    · exact .refl
    · obtain ⟨⟨looked, split, _⟩, _⟩ := id rest
      have path := rest.reaches_top (fun g hg => nodes g (List.mem_cons_of_mem _ hg)) g hg
      refine path.tail ⟨nodes h (by simp), nodes f (by simp), ?_⟩
      rw [split]
      simp

end Frames

variable {α : Type} [DecidableEq α] {n : Network α} {s t : State α}

/-! ## Moves -/

/-- What one step can do. -/
inductive Move (n : Network α) : State α → State α → Prop
  /-- A root that is no node, or has been met, is passed over. -/
  | skipRoot {root : α} {roots : List α} {marks : List (α × Mark)} {order : List α}
      (skipped : root ∉ n.nodes ∨ mark? marks root ≠ none) :
      Move n ⟨root :: roots, [], marks, order⟩ ⟨roots, [], marks, order⟩
  /-- A new root is entered. -/
  | takeRoot {root : α} {roots : List α} {marks : List (α × Mark)} {order : List α}
      (node : root ∈ n.nodes) (new : mark? marks root = none) :
      Move n ⟨root :: roots, [], marks, order⟩
        ⟨roots, [⟨root, n.successors root⟩], (root, .inProgress) :: marks, order⟩
  /-- A node with nothing left to look at is finished. -/
  | finish {roots : List α} {x : α} {below : List (Frame α)} {marks : List (α × Mark)}
      {order : List α} :
      Move n ⟨roots, ⟨x, []⟩ :: below, marks, order⟩
        ⟨roots, below, (x, .finished) :: marks, order ++ [x]⟩
  /-- A successor that is no node, or is finished, is passed over. -/
  | pass {roots : List α} {x next : α} {pending : List α} {below : List (Frame α)}
      {marks : List (α × Mark)} {order : List α}
      (passed : next ∉ n.nodes ∨ mark? marks next = some .finished) :
      Move n ⟨roots, ⟨x, next :: pending⟩ :: below, marks, order⟩
        ⟨roots, ⟨x, pending⟩ :: below, marks, order⟩
  /-- A new successor is entered. -/
  | descend {roots : List α} {x next : α} {pending : List α} {below : List (Frame α)}
      {marks : List (α × Mark)} {order : List α}
      (node : next ∈ n.nodes) (new : mark? marks next = none) :
      Move n ⟨roots, ⟨x, next :: pending⟩ :: below, marks, order⟩
        ⟨roots, ⟨next, n.successors next⟩ :: ⟨x, pending⟩ :: below,
          (next, .inProgress) :: marks, order⟩

/-- A step that does not end the walk is a move, one of five. All that is said about
steps below is said about moves, so the case split over the step is made here and
nowhere else. -/
theorem move_of_step (h : step n s = .running t) : Move n s t := by
  obtain ⟨roots, stack, marks, order⟩ := s
  cases stack with
  | nil =>
    cases roots with
    | nil => cases h
    | cons root roots =>
      simp only [step] at h
      split at h
      next skipped => cases h; exact .skipRoot skipped
      next taken =>
        cases h
        rw [not_or, Decidable.not_not, Decidable.not_not] at taken
        exact .takeRoot taken.1 taken.2
  | cons top below =>
    obtain ⟨x, pending⟩ := top
    cases pending with
    | nil => cases h; exact .finish
    | cons next pending =>
      simp only [step] at h
      split at h
      next outside => cases h; exact .pass (.inl outside)
      next inside =>
        split at h
        next finished => cases h; exact .pass (.inr finished)
        · cases h
        next new => cases h; exact .descend (Decidable.not_not.mp inside) new

/-- A walk is complete when it has neither roots nor nodes in progress, and then it
gives the nodes it has finished, in the order in which it finished them. -/
theorem eq_of_step_complete {order : List α} (h : step n s = .complete order) :
    s.roots = [] ∧ s.stack = [] ∧ s.order = order := by
  obtain ⟨roots, stack, marks, found⟩ := s
  cases stack with
  | nil =>
    cases roots with
    | nil => cases h; exact ⟨rfl, rfl, rfl⟩
    | cons root roots =>
      simp only [step] at h
      split at h <;> cases h
  | cons top below =>
    obtain ⟨x, pending⟩ := top
    cases pending with
    | nil => cases h
    | cons next pending =>
      simp only [step] at h
      repeat' split at h
      all_goals cases h

/-- A walk is cut short when the node on top has a successor in progress, and it
names that successor; there is no other step that ends a walk without an order. -/
theorem eq_of_step_cycle {x : α} (h : step n s = .cycle x) :
    ∃ top pending below, s.stack = ⟨top, x :: pending⟩ :: below ∧
      x ∈ n.nodes ∧ mark? s.marks x = some .inProgress := by
  obtain ⟨roots, stack, marks, order⟩ := s
  cases stack with
  | nil =>
    cases roots with
    | nil => cases h
    | cons root roots =>
      simp only [step] at h
      split at h <;> cases h
  | cons top below =>
    obtain ⟨y, pending⟩ := top
    cases pending with
    | nil => cases h
    | cons next pending =>
      simp only [step] at h
      split at h
      · cases h
      next inside =>
        split at h
        · cases h
        next marked =>
          cases h
          exact ⟨y, pending, below, rfl, Decidable.not_not.mp inside, marked⟩
        · cases h

/-! ## The invariant -/

/-- A mark more, and one node more has been met. The kind of the mark plays no part,
for a node that is in progress has been met as much as a finished one. -/
theorem met_cons_iff {x y : α} {m : Mark} {marks : List (α × Mark)} :
    mark? ((x, m) :: marks) y ≠ none ↔ x = y ∨ mark? marks y ≠ none := by
  rw [mark?_cons]
  by_cases hxy : x = y <;> simp [hxy]

/-- What holds of a walk at every moment. -/
structure Invariant (n : Network α) (s : State α) : Prop where
  /-- Every node is a root still to come or has been met, -/
  awaited : ∀ x ∈ n.nodes, x ∈ s.roots ∨ mark? s.marks x ≠ none
  /-- and nothing but nodes has been met. -/
  met : ∀ x, mark? s.marks x ≠ none → x ∈ n.nodes
  inProgress_iff : ∀ x, mark? s.marks x = some .inProgress ↔ x ∈ s.stack.map Frame.node
  stack_nodup : (s.stack.map Frame.node).Nodup
  finished_iff : ∀ x, mark? s.marks x = some .finished ↔ x ∈ s.order
  order_nodup : s.order.Nodup
  behind : n.Behind s.order
  underway : Underway n s.order none s.stack

/-- A walk starts with the invariant: nothing has been met, nothing is in progress,
and every node still waits among the roots. -/
theorem invariant_start (n : Network α) : Invariant n (start n.nodes) where
  awaited x hx := .inl hx
  met x hx := absurd rfl hx
  inProgress_iff x := by simp [start, mark?]
  stack_nodup := List.nodup_nil
  finished_iff x := by simp [start, mark?]
  order_nodup := List.nodup_nil
  behind i x hx := by simp [start] at hx
  underway := trivial

/-- What carries a mark is a node of the network, for successors that are none are
passed over before they could be marked. -/
theorem Invariant.mem_of_marked (inv : Invariant n s) {x : α} {m : Mark}
    (marked : mark? s.marks x = some m) : x ∈ n.nodes :=
  inv.met x (by rw [marked]; exact Option.some_ne_none _)

/-- With an empty stack nothing is in progress, so what has been met is finished.
This is the state in which a walk takes its next root or ends. -/
theorem Invariant.finished_of_met (inv : Invariant n s) (idle : s.stack = []) {x : α}
    (met : mark? s.marks x ≠ none) : mark? s.marks x = some .finished := by
  match hm : mark? s.marks x with
  | none => exact absurd hm met
  | some .inProgress =>
    have held := (inv.inProgress_iff x).mp hm
    rw [idle] at held
    cases held
  | some .finished => rfl

/-- The node on top is in progress, as are all nodes of the stack; stated of the top
alone because that is the one a step works on. -/
theorem Invariant.top_inProgress {roots pending order : List α} {x : α} {below : List (Frame α)}
    {marks : List (α × Mark)} (inv : Invariant n ⟨roots, ⟨x, pending⟩ :: below, marks, order⟩) :
    mark? marks x = some .inProgress :=
  (inv.inProgress_iff x).mpr List.mem_cons_self

/-- What the node on top has still to look at is among its successors, and the node
is one of the network. So looking at it follows an edge or leads out of the
network. -/
theorem Invariant.mem_successors_of_pending {roots pending order : List α} {x next : α}
    {below : List (Frame α)} {marks : List (α × Mark)}
    (inv : Invariant n ⟨roots, ⟨x, next :: pending⟩ :: below, marks, order⟩) :
    x ∈ n.nodes ∧ next ∈ n.successors x := by
  obtain ⟨⟨looked, split, _⟩, _⟩ := inv.underway
  refine ⟨inv.mem_of_marked inv.top_inProgress, ?_⟩
  rw [split]
  simp

/-- Entering a node keeps the invariant. The node comes off the roots or from
the frame below it, so both may have moved on, as long as the same nodes are in
progress. -/
theorem Invariant.enter {roots roots' order : List α} {stack stack' : List (Frame α)}
    {marks : List (α × Mark)} {x : α} (inv : Invariant n ⟨roots, stack, marks, order⟩)
    (node : x ∈ n.nodes) (new : mark? marks x = none)
    (awaited : ∀ y ∈ roots, y = x ∨ y ∈ roots')
    (same : stack'.map Frame.node = stack.map Frame.node)
    (underway : Underway n order (some x) stack') :
    Invariant n ⟨roots', ⟨x, n.successors x⟩ :: stack', (x, .inProgress) :: marks, order⟩ where
  awaited y hy := by
    rw [met_cons_iff]
    rcases inv.awaited y hy with root | met
    · rcases awaited y root with rfl | root
      · exact .inr (.inl rfl)
      · exact .inl root
    · exact .inr (.inr met)
  met y hy := by
    rcases met_cons_iff.mp hy with rfl | met
    · exact node
    · exact inv.met y met
  inProgress_iff y := by
    rw [mark?_cons, List.map_cons, same, List.mem_cons]
    by_cases hxy : x = y
    · simp [hxy]
    · rw [if_neg hxy, inv.inProgress_iff y]
      exact (or_iff_right (Ne.symm hxy)).symm
  stack_nodup := by
    rw [List.map_cons, same, List.nodup_cons]
    refine ⟨fun hx => ?_, inv.stack_nodup⟩
    rw [(inv.inProgress_iff x).mpr hx] at new
    cases new
  finished_iff y := by
    rw [mark?_cons]
    by_cases hxy : x = y
    · subst hxy
      rw [if_pos rfl, ← inv.finished_iff x, new]
      simp
    · rw [if_neg hxy]
      exact inv.finished_iff y
  order_nodup := inv.order_nodup
  behind := inv.behind
  underway := ⟨⟨[], by simp, by simp⟩, underway⟩

/-- Finishing the node on top keeps the invariant. All its successors have been
looked at and are finished, so it may stand behind them in the order. -/
theorem Invariant.finish {roots order : List α} {x : α} {below : List (Frame α)}
    {marks : List (α × Mark)} (inv : Invariant n ⟨roots, ⟨x, []⟩ :: below, marks, order⟩) :
    Invariant n ⟨roots, below, (x, .finished) :: marks, order ++ [x]⟩ := by
  obtain ⟨⟨looked, split, done⟩, rest⟩ := inv.underway
  obtain ⟨fresh, nodup⟩ := List.nodup_cons.mp inv.stack_nodup
  have marked := inv.top_inProgress
  have node : x ∈ n.nodes := inv.mem_of_marked marked
  have unfinished : x ∉ order := by
    intro hx
    rw [(inv.finished_iff x).mpr hx] at marked
    cases marked
  refine ⟨fun y hy => ?_, fun y hy => ?_, fun y => ?_, nodup, fun y => ?_, ?_, ?_, ?_⟩
  · rw [met_cons_iff]
    exact (inv.awaited y hy).imp_right .inr
  · rcases met_cons_iff.mp hy with rfl | met
    · exact node
    · exact inv.met y met
  · rw [mark?_cons]
    by_cases hxy : x = y
    · subst hxy
      exact ⟨fun h => by simp at h, fun hx => absurd hx fresh⟩
    · rw [if_neg hxy, inv.inProgress_iff y, List.map_cons, List.mem_cons]
      exact or_iff_right (Ne.symm hxy)
  · rw [mark?_cons, List.mem_append, List.mem_singleton]
    by_cases hxy : x = y
    · simp [hxy]
    · rw [if_neg hxy, inv.finished_iff y]
      exact (or_iff_left (Ne.symm hxy)).symm
  · exact List.nodup_append.mpr
      ⟨inv.order_nodup, List.pairwise_singleton _ x, by
        rintro y hy z hz rfl
        rw [List.mem_singleton.mp hz] at hy
        exact unfinished hy⟩
  · refine inv.behind.concat fun y edge => ?_
    have hy := edge.successor
    rw [split] at hy
    exact done y (by simpa using hy) edge.target
  · exact (rest.mono fun y hy => List.mem_append_left _ hy).pop (by simp)

/-- Passing over a successor keeps the invariant, whether the successor lies outside
the network or is finished: in both cases the node on top has nothing to wait
for. -/
theorem Invariant.pass {roots order pending : List α} {x next : α} {below : List (Frame α)}
    {marks : List (α × Mark)}
    (inv : Invariant n ⟨roots, ⟨x, next :: pending⟩ :: below, marks, order⟩)
    (passed : next ∉ n.nodes ∨ mark? marks next = some .finished) :
    Invariant n ⟨roots, ⟨x, pending⟩ :: below, marks, order⟩ := by
  obtain ⟨⟨looked, split, done⟩, rest⟩ := inv.underway
  refine ⟨inv.awaited, inv.met, inv.inProgress_iff, inv.stack_nodup, inv.finished_iff,
    inv.order_nodup, inv.behind, ⟨looked ++ [next], by simpa using split, ?_⟩, rest⟩
  intro y hy node
  rcases List.mem_append.mp hy with hy | hy
  · exact done y hy node
  · rw [List.mem_singleton] at hy
    subst hy
    exact (inv.finished_iff y).mp (passed.resolve_left fun outside => outside node)

/-- **Step.** Every move keeps the invariant: taking or skipping a root, entering or
passing over a successor, and finishing the node on top. -/
theorem Invariant.move (inv : Invariant n s) (move : Move n s t) : Invariant n t := by
  cases move with
  | @skipRoot root roots _ _ skipped =>
    refine { inv with awaited := fun x hx => ?_ }
    rcases inv.awaited x hx with root | met
    · rcases List.mem_cons.mp root with rfl | root
      · exact .inr (skipped.resolve_left fun outside => outside hx)
      · exact .inl root
    · exact .inr met
  | takeRoot node new =>
    exact inv.enter node new (fun _ hy => List.mem_cons.mp hy) rfl trivial
  | finish => exact inv.finish
  | pass passed => exact inv.pass passed
  | descend node new =>
    obtain ⟨⟨looked, split, done⟩, rest⟩ := inv.underway
    exact inv.enter node new (fun _ hy => .inr hy) rfl ⟨⟨looked, by simpa using split, done⟩, rest⟩

/-! ## Runs -/

/-- One state comes out of another in some number of steps. -/
def Reaches (n : Network α) : State α → State α → Prop :=
  ReflTransGen fun s t => step n s = .running t

/-- **Run.** The invariant holds at every moment of every walk, from the start on.
By induction on the moves that lead there. -/
theorem Invariant.of_reaches (reached : Reaches n (start n.nodes) s) : Invariant n s := by
  induction reached with
  | refl => exact invariant_start n
  | tail _ taken inv => exact inv.move (move_of_step taken)

/-- Where a walk ends: in a state that it reaches and whose step gives what the walk
gives, an order or a node. The induction is that of the recursion of `run`
itself. -/
theorem run_ends (n : Network α) (s : State α) :
    ∃ t, Reaches n s t ∧
      ((∃ order, step n t = .complete order ∧ run n s = .ok order) ∨
        ∃ x, step n t = .cycle x ∧ run n s = .error x) := by
  fun_induction run n s with
  | case1 s t taken ih =>
    obtain ⟨u, reached, ended⟩ := ih
    exact ⟨u, .head taken reached, ended⟩
  | case2 s order ended => exact ⟨s, .refl, .inl ⟨order, ended, rfl⟩⟩
  | case3 s x ended => exact ⟨s, .refl, .inr ⟨x, ended, rfl⟩⟩

/-- A run that ends well has neither roots nor nodes in progress left, and its order
is that of the state in which it ended. So the invariant of that state speaks of the
result. -/
theorem exists_complete_of_run {order : List α} (ran : run n s = .ok order) :
    ∃ t, Reaches n s t ∧ t.roots = [] ∧ t.stack = [] ∧ t.order = order := by
  obtain ⟨t, reached, ⟨found, ended, h⟩ | ⟨x, _, h⟩⟩ := run_ends n s
  · cases ran.symm.trans h
    exact ⟨t, reached, eq_of_step_complete ended⟩
  · cases ran.symm.trans h

/-- A run that is cut short has come upon a node in progress among the successors of
the node on top. The state in which this happens is kept, since the stack in it is
the cycle. -/
theorem exists_cycle_of_run {x : α} (ran : run n s = .error x) :
    ∃ t, Reaches n s t ∧ ∃ top pending below, t.stack = ⟨top, x :: pending⟩ :: below ∧
      x ∈ n.nodes ∧ mark? t.marks x = some .inProgress := by
  obtain ⟨t, reached, ⟨_, _, h⟩ | ⟨y, ended, h⟩⟩ := run_ends n s
  · cases ran.symm.trans h
  · cases ran.symm.trans h
    exact ⟨t, reached, eq_of_step_cycle ended⟩

end Walk

section Walks

variable {α : Type} [DecidableEq α] {n : Network α}

/-- A walk that ends well has put the network in order: every node is there once,
and each stands behind the successors that are nodes. -/
theorem Network.walk_ok {order : List α} (walked : n.walk = .ok order) : n.InOrder order := by
  obtain ⟨s, reached, roots, stack, rfl⟩ := Walk.exists_complete_of_run walked
  have inv := Walk.Invariant.of_reaches reached
  refine ⟨inv.order_nodup, fun x => ?_, inv.behind⟩
  rw [← inv.finished_iff x]
  constructor
  · exact fun finished => inv.mem_of_marked finished
  · exact fun node => inv.finished_of_met stack ((inv.awaited x node).resolve_left (by simp [roots]))

/-- A walk that is cut short names a node on a cycle: the stack is a path from
that node to the node on top, which leads back to it. -/
theorem Network.walk_error {x : α} (walked : n.walk = .error x) : TransGen n.Edge x x := by
  obtain ⟨s, reached, top, pending, below, stack, node, marked⟩ := Walk.exists_cycle_of_run walked
  have inv := Walk.Invariant.of_reaches reached
  have underway := inv.underway
  have nodes : ∀ f ∈ s.stack, f.node ∈ n.nodes := by
    intro f hf
    exact inv.mem_of_marked ((inv.inProgress_iff f.node).mpr (List.mem_map_of_mem hf))
  obtain ⟨f, hf, rfl⟩ := List.mem_map.mp ((inv.inProgress_iff x).mp marked)
  rw [stack] at underway nodes hf
  have path := underway.reaches_top nodes f hf
  obtain ⟨⟨looked, split, _⟩, _⟩ := underway
  refine TransGen.tail' path ⟨nodes _ (by simp), node, ?_⟩
  rw [split]
  simp

end Walks

end ShaderGraph
