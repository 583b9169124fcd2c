import Mathlib
import ShaderGraph.Proofs.Order.Firsts
import ShaderGraph.Proofs.Order.Moments

/-!
# Sorting by tables

`Block.sort` walks a network that has successors for every id. Here blocks are sorted with nothing at
hand but two tables that are filled beforehand: one holds the first block of each id, the other its
dependencies (`Tables.ofBlocks`). Each table is filled on its own, and every look into one may miss,
which ends the sorting without an answer (`Tables.Outcome.missing`).

No look misses. Both tables have the ids that occur as their keys (`map_fst_fill`), and an id is
looked up only after it was found to occur. A walk that is seen through the tables
(`Walk.State.tabled`) makes the same steps (`Tables.step_tabled`), so sorting by tables comes to
the same end, after three steps for each id and one for each dependency at most
(`Tables.runs_end_as_sort`).
-/

namespace ShaderGraph

/-! ## Tables -/

/-- A table filled from blocks, one after the other. An id that has an entry keeps it. -/
def fill {β : Type} (entry : Block → β) (blocks : List Block) : List (String × β) :=
  blocks.foldl (fun table b => addFirst Prod.fst table (b.id, entry b)) []

/-- What a table has under an id. -/
def lookUp? {β : Type} (table : List (String × β)) (id : String) : Option β :=
  (table.find? (·.1 == id)).map Prod.snd

section Fill

variable {β : Type} (entry : Block → β) (blocks : List Block)

/-- What blocks bring to a table are entries for the first blocks of the ids it does not have, in
the order of the blocks. The table stands for the ids that were seen. -/
theorem foldl_addFirst_eq_append :
    ∀ (table : List (String × β)) (seen : List String), (∀ x, x ∈ seen ↔ x ∈ table.map Prod.fst) →
      blocks.foldl (fun table b => addFirst Prod.fst table (b.id, entry b)) table =
        table ++ (Block.firstsAfter seen blocks).map fun b => (b.id, entry b) := by
  induction blocks with
  | nil => simp [Block.firstsAfter]
  | cons b rest ih =>
    intro table seen same
    have old_iff : table.any (·.1 == b.id) = true ↔ seen.contains b.id = true := by
      rw [any_key_iff, List.contains_iff_mem, same]
    rw [List.foldl_cons, Block.firstsAfter, addFirst]
    by_cases old : seen.contains b.id = true
    · rw [if_pos (old_iff.mpr old), if_pos old, ih table seen same]
    · rw [if_neg (fun h => old (old_iff.mp h)), if_neg old, ih _ (b.id :: seen)]
      · simp
      · intro x
        simp [same, or_comm]

/-- A table that is filled block by block holds one entry for the first block of each id, and none
for a repeated one. -/
theorem fill_eq_map_firsts :
    fill entry blocks = (Block.firsts blocks).map fun b => (b.id, entry b) :=
  foldl_addFirst_eq_append entry blocks [] [] (by simp)

/-- The keys of a table are the ids that occur, whatever is entered under them; so two tables of the
same blocks have the same keys. -/
theorem map_fst_fill : (fill entry blocks).map Prod.fst = (Block.firsts blocks).map Block.id := by
  rw [fill_eq_map_firsts, List.map_map]
  rfl

/-- Under an id stands what is entered for its first block, and an id that does not occur has no
entry. -/
theorem lookUp?_fill (x : String) :
    lookUp? (fill entry blocks) x = (Block.find? blocks x).map entry := by
  rw [← Block.find?_firsts, fill_eq_map_firsts, lookUp?, List.find?_map, Option.map_map]
  rfl

end Fill

/-- What sorting by tables looks into. -/
structure Tables where
  blocks : List (String × Block)
  sources : List (String × List String)

namespace Tables

/-- The tables of a list of blocks. -/
def ofBlocks (c : Catalog) (blocks : List Block) : Tables :=
  ⟨fill id blocks, fill (Dependencies.sources c) blocks⟩

/-! ## Steps -/

/-- Sorting by tables at one moment. -/
structure State where
  roots : List String
  stack : List (Walk.Frame String)
  marks : List (String × Walk.Mark)
  ordered : List Block

/-- What a step leads to. -/
inductive Outcome
  | running (state : State)
  | complete (ordered : List Block)
  | cycle (id : String)
  /-- A table was asked for an id that is not among its keys. -/
  | missing (id : String)

/-- An id met for the first time goes on the stack with its dependencies, which are looked up. -/
def enter (t : Tables) (s : State) (x : String) : Outcome :=
  match lookUp? t.sources x with
  | some pending =>
    .running { s with stack := ⟨x, pending⟩ :: s.stack, marks := (x, .inProgress) :: s.marks }
  | none => .missing x

/-- An id with nothing left to look at is finished, and its block, which is looked up, comes behind
the others. -/
def finish (t : Tables) (s : State) (x : String) : Outcome :=
  match lookUp? t.blocks x with
  | some b =>
    .running { s with marks := (x, .finished) :: s.marks, ordered := s.ordered ++ [b] }
  | none => .missing x

/-- One step. -/
def step (t : Tables) (s : State) : Outcome :=
  match s.stack with
  | [] =>
    match s.roots with
    | [] => .complete s.ordered
    | root :: roots =>
      if Walk.mark? s.marks root ≠ none then .running { s with roots := roots }
      else t.enter { s with roots := roots } root
  | top :: below =>
    match top.pending with
    | [] => t.finish { s with stack := below } top.node
    | next :: pending =>
      let passed : State := { s with stack := ⟨top.node, pending⟩ :: below }
      if lookUp? t.blocks next = none then .running passed
      else
        match Walk.mark? s.marks next with
        | some .finished => .running passed
        | some .inProgress => .cycle next
        | none => t.enter passed next

/-- Every id is a root in its turn. -/
def start (t : Tables) : State := ⟨t.blocks.map Prod.fst, [], [], []⟩

/-- What sorting by tables comes to in a number of steps. -/
inductive Run (t : Tables) : Nat → State → Prop
  | start : Run t 0 t.start
  | next {k : Nat} {s s' : State} (ran : Run t k s) (taken : t.step s = .running s') : Run t (k + 1) s'

/-- Three steps for each id, which is a root, is entered and is finished once; and one for each
dependency, which is looked at once. -/
def stepBound (t : Tables) : Nat :=
  3 * t.blocks.length + (t.sources.map fun entry => entry.2.length).sum

end Tables

/-! ## A walk seen through the tables -/

namespace Walk

variable {α : Type} [DecidableEq α] {n : Network α}

/-- The roots that are still to come are nodes at every moment, for they were at the start and are
only taken away. -/
theorem mem_nodes_of_mem_roots {w : State α} (reached : Reaches n (start n.nodes) w) :
    ∀ x ∈ w.roots, x ∈ n.nodes := by
  induction reached with
  | refl => exact fun x hx => hx
  | tail _ taken ih =>
    cases move_of_step taken with
    | skipRoot => exact fun x hx => ih x (List.mem_cons_of_mem _ hx)
    | takeRoot => exact fun x hx => ih x (List.mem_cons_of_mem _ hx)
    | finish => exact ih
    | pass => exact ih
    | descend => exact ih

/-- What nodes weigh when none of them has been met: two for each and one for each of their
successors. This is the bound on the steps, counted from the tables. -/
theorem unmetWeight_nil (n : Network α) (xs : List α) :
    unmetWeight n [] xs = (xs.map fun x => (n.successors x).length).sum + 2 * xs.length := by
  induction xs with
  | nil => rfl
  | cons x rest ih =>
    have unmet : mark? ([] : List (α × Mark)) x = none := rfl
    rw [unmetWeight, if_pos unmet, ih, List.map_cons, List.sum_cons, List.length_cons]
    omega

end Walk

/-- A moment of a walk with the blocks that are in order in place of their ids. -/
def Walk.State.tabled (blocks : List Block) (w : Walk.State String) : Tables.State :=
  ⟨w.roots, w.stack, w.marks, Block.settled blocks w⟩

/-- What a step of a walk leads to, with blocks in place of their ids. -/
def Walk.Outcome.tabled (blocks : List Block) : Walk.Outcome String → Tables.Outcome
  | .running w => .running (w.tabled blocks)
  | .complete order => .complete (order.filterMap (Block.find? blocks))
  | .cycle x => .cycle x

namespace Tables

variable {c : Catalog} {blocks : List Block} {w : Walk.State String} {x : String}

/-- An id that occurs has its dependencies in the table, so entering it misses nothing and does what
entering the node does. -/
theorem enter_tabled (node : x ∈ (Dependencies.network c blocks).nodes) :
    (ofBlocks c blocks).enter (w.tabled blocks) x =
      .running ((w.enter (Dependencies.network c blocks) x).tabled blocks) := by
  obtain ⟨b, found⟩ := Block.exists_find?_iff.mpr (Dependencies.mem_nodes_iff.mp node)
  have held : lookUp? (ofBlocks c blocks).sources x =
      some ((Dependencies.network c blocks).successors x) := by
    rw [Dependencies.successors_network, found]
    exact (lookUp?_fill _ _ x).trans (by rw [found]; rfl)
  rw [enter, held]
  rfl

/-- An id that occurs has its block in the table, so finishing it misses nothing and puts that block
behind the others. -/
theorem finish_tabled (node : x ∈ (Dependencies.network c blocks).nodes) :
    (ofBlocks c blocks).finish (w.tabled blocks) x = .running (Walk.State.tabled blocks
      { w with marks := (x, .finished) :: w.marks, order := w.order ++ [x] }) := by
  obtain ⟨b, found⟩ := Block.exists_find?_iff.mpr (Dependencies.mem_nodes_iff.mp node)
  have held : lookUp? (ofBlocks c blocks).blocks x = some b :=
    (lookUp?_fill _ _ x).trans (by rw [found]; rfl)
  rw [finish, held]
  simp [Walk.State.tabled, Block.settled, found]

/-- The ids that occur are those with a block in the table; a successor without one is passed over
on both sides. -/
theorem lookUp?_blocks_eq_none_iff :
    lookUp? (ofBlocks c blocks).blocks x = none ↔ x ∉ (Dependencies.network c blocks).nodes := by
  rw [Dependencies.mem_nodes_iff, ← Block.exists_find?_iff, ofBlocks, lookUp?_fill, Option.map_id,
    id_eq, Option.eq_none_iff_forall_ne_some, not_exists]

/-- **Step.** Seen through the tables, a walk makes the step that sorting by tables makes. -/
theorem step_tabled (moment : Block.Moment c blocks w) :
    (ofBlocks c blocks).step (w.tabled blocks) =
      (Walk.step (Dependencies.network c blocks) w).tabled blocks := by
  have inv := Walk.Invariant.of_reaches moment
  have roots := Walk.mem_nodes_of_mem_roots moment
  obtain ⟨rootIds, stack, marks, order⟩ := w
  cases stack with
  | nil =>
    cases rootIds with
    | nil => rfl
    | cons root rest =>
      -- The walk asks whether a root is a node, the tables do not: here it always is.
      have node := roots root List.mem_cons_self
      cases marked : Walk.mark? marks root with
      | some m =>
        simp only [step, Walk.step, Walk.State.tabled, marked, ne_eq, reduceCtorEq, not_false_eq_true,
          or_true, if_true]
        rfl
      | none =>
        simp only [step, Walk.step, Walk.State.tabled, marked, node, ne_eq, not_true_eq_false, or_self,
          if_false]
        exact enter_tabled (w := ⟨rest, [], marks, order⟩) node
  | cons top below =>
    obtain ⟨y, pending⟩ := top
    cases pending with
    | nil =>
      -- What is on the stack was met, and nothing but nodes is met.
      exact finish_tabled (w := ⟨rootIds, below, marks, order⟩) (inv.mem_of_marked inv.top_inProgress)
    | cons next pending =>
      by_cases node : next ∈ (Dependencies.network c blocks).nodes
      · simp only [step, Walk.step, Walk.State.tabled, lookUp?_blocks_eq_none_iff, node,
          not_true_eq_false, if_false]
        cases marked : Walk.mark? marks next with
        | none => exact enter_tabled (w := ⟨rootIds, ⟨y, pending⟩ :: below, marks, order⟩) node
        | some m => cases m <;> rfl
      · simp only [step, Walk.step, Walk.State.tabled, lookUp?_blocks_eq_none_iff, node,
          not_false_eq_true, if_true]
        rfl

/-! ## Runs -/

/-- A walk misses nothing: it has no outcome for a key that is not there, seen through the tables or
not. -/
theorem tabled_ne_missing (o : Walk.Outcome String) (x : String) : o.tabled blocks ≠ .missing x := by
  cases o <;> exact fun missing => by cases missing

/-- What is running seen through the tables is a walk that is running, so a step by tables can be
traced back to a step of the walk. -/
theorem exists_of_tabled_eq_running {o : Walk.Outcome String} {s : State}
    (running : o.tabled blocks = .running s) : ∃ w, o = .running w ∧ s = w.tabled blocks := by
  cases o with
  | running w => cases running; exact ⟨w, rfl, rfl⟩
  | complete order => cases running
  | cycle x => cases running

/-- Sorting by tables starts where the walk starts: with all ids as roots, nothing marked, and no
blocks in order. -/
theorem start_tabled (c : Catalog) (blocks : List Block) :
    (ofBlocks c blocks).start =
      (Walk.start (Dependencies.network c blocks).nodes).tabled blocks := by
  rw [start, ofBlocks, map_fst_fill, Dependencies.nodes_network]
  rfl

/-- The weight of a walk at its start is the bound on the steps, which is counted from the sizes of
the tables alone. -/
theorem weight_start_eq_stepBound (c : Catalog) (blocks : List Block) :
    Walk.weight (Dependencies.network c blocks) (Walk.start (Dependencies.network c blocks).nodes) =
      (ofBlocks c blocks).stepBound := by
  have successors : ∀ b ∈ Block.firsts blocks,
      (Dependencies.network c blocks).successors b.id = Dependencies.sources c b := by
    intro b hb
    rw [Dependencies.successors_network, Block.mem_firsts_iff.mp hb]
    rfl
  have unmet : Walk.unmetWeight (Dependencies.network c blocks) [] (Dependencies.network c blocks).nodes =
      ((Block.firsts blocks).map fun b => (Dependencies.sources c b).length).sum +
        2 * (Block.firsts blocks).length := by
    rw [Walk.unmetWeight_nil, Dependencies.nodes_network, List.map_map, List.length_map]
    refine congrArg (· + _) (congrArg List.sum (List.map_congr_left fun b hb => ?_))
    rw [Function.comp_apply, successors b hb]
  have nodes : (Dependencies.network c blocks).nodes.length = (Block.firsts blocks).length := by
    rw [Dependencies.nodes_network, List.length_map]
  simp only [Walk.weight, Walk.start, Walk.stackWeight, unmet, nodes, stepBound, ofBlocks,
    fill_eq_map_firsts, List.length_map, List.map_map, Function.comp_def]
  omega

/-- **Run.** Whatever sorting by tables comes to is a moment of the walk, and the steps so far have
been taken off its weight. -/
theorem exists_walk_of_run {k : Nat} {s : State} (ran : (ofBlocks c blocks).Run k s) :
    ∃ w, s = w.tabled blocks ∧ Block.Moment c blocks w ∧
      Walk.weight (Dependencies.network c blocks) w + k ≤ (ofBlocks c blocks).stepBound := by
  induction ran with
  | start => exact ⟨_, start_tabled c blocks, .refl, (weight_start_eq_stepBound c blocks).le⟩
  | next _ taken ih =>
    obtain ⟨w, rfl, moment, light⟩ := ih
    rw [step_tabled moment] at taken
    obtain ⟨w', moved, rfl⟩ := exists_of_tabled_eq_running taken
    have lighter := Walk.weight_lt_of_step moved
    exact ⟨w', rfl, moment.tail moved, by omega⟩

/-- Every moment of the walk comes up when sorting by tables, after some number of steps. By
induction on the moves that lead to it. -/
theorem exists_run_of_moment (moment : Block.Moment c blocks w) :
    ∃ k, (ofBlocks c blocks).Run k (w.tabled blocks) := by
  induction moment with
  | refl => exact ⟨0, start_tabled c blocks ▸ .start⟩
  | tail moment moved ih =>
    obtain ⟨k, ran⟩ := ih
    refine ⟨k + 1, ran.next ?_⟩
    rw [step_tabled moment, moved]
    rfl

/-- **No look into a table misses, and sorting ends**, whatever the catalog and the blocks are. The two
tables have the same keys. Every run stays within the bound on its steps and is never asked for
a key that a table does not have; and there is a run to the end, where the answer is that of
`Block.sort`: the blocks in order, or an id on a cycle. -/
theorem runs_end_as_sort (c : Catalog) (blocks : List Block) :
    (ofBlocks c blocks).sources = Dependencies.table c blocks ∧
    (ofBlocks c blocks).blocks.map Prod.fst = (ofBlocks c blocks).sources.map Prod.fst ∧
    (∀ k s, (ofBlocks c blocks).Run k s →
      k ≤ (ofBlocks c blocks).stepBound ∧ ∀ x, (ofBlocks c blocks).step s ≠ .missing x) ∧
    ∃ k s, (ofBlocks c blocks).Run k s ∧
      ((∃ ordered, (ofBlocks c blocks).step s = .complete ordered ∧
          Block.sort c blocks = .ok ordered) ∨
        ∃ x, (ofBlocks c blocks).step s = .cycle x ∧ Block.sort c blocks = .error x) := by
  refine ⟨fill_eq_map_firsts _ _, (map_fst_fill _ _).trans (map_fst_fill _ _).symm, ?_, ?_⟩
  · intro k s ran
    obtain ⟨w, rfl, moment, light⟩ := exists_walk_of_run ran
    refine ⟨by omega, fun x missing => ?_⟩
    rw [step_tabled moment] at missing
    exact tabled_ne_missing _ x missing
  · obtain ⟨w, moment, ended⟩ := Walk.run_ends (Dependencies.network c blocks)
      (Walk.start (Dependencies.network c blocks).nodes)
    obtain ⟨k, ran⟩ := exists_run_of_moment moment
    refine ⟨k, w.tabled blocks, ran, ?_⟩
    rw [step_tabled moment, Block.sort, Network.walk]
    rcases ended with ⟨order, complete, walked⟩ | ⟨x, cycle, walked⟩
    · rw [complete, walked]
      exact .inl ⟨_, rfl, rfl⟩
    · rw [cycle, walked]
      exact .inr ⟨x, rfl, rfl⟩

/-- Two blocks that read from each other are given up after eight steps at most. -/
theorem runs_end_as_sort_knot :
    ∃ k s, (ofBlocks Sample.catalog Sample.knot).Run k s ∧ k ≤ 8 ∧
      (ofBlocks Sample.catalog Sample.knot).step s = .cycle "here" := by
  obtain ⟨_, _, bounded, k, s, ran, ended⟩ := runs_end_as_sort Sample.catalog Sample.knot
  have bound : (ofBlocks Sample.catalog Sample.knot).stepBound = 8 := by cbv
  have refused : Block.sort Sample.catalog Sample.knot = .error "here" := by cbv
  refine ⟨k, s, ran, bound ▸ (bounded k s ran).1, ?_⟩
  rcases ended with ⟨ordered, _, sorted⟩ | ⟨x, cycle, sorted⟩
  · cases refused.symm.trans sorted
  · cases refused.symm.trans sorted
    exact cycle

end Tables

end ShaderGraph
