import ShaderGraph.Proofs.Order.Dependencies

/-!
# Lists that are in order

A walk takes the nodes of a network as roots, one after the other. If every node
stands behind its successors, these are finished when its turn comes: the walk
enters the node, passes over all its successors and finishes it. So it never goes
deeper than one node, and what it gives is the list it was given
(`Network.InOrder.walk_eq`).

Blocks are in such an order when what they depend on occurs before them
(`Block.inOrder_of_idxOf_lt`), and then sorting leaves out repeated ids and nothing
else changes (`Block.sort_eq_firsts_of_inOrder`).
-/

namespace ShaderGraph

/-! ## Visits in order -/

section Visits

variable {α : Type} [DecidableEq α] {n : Network α} {s : Seen α} {done : List α}

/-- No visit is under way, and the finished nodes are `done`. -/
structure Seen.Idle (s : Seen α) (done : List α) : Prop where
  order : s.order = done
  finished : ∀ x ∈ done, Walk.mark? s.marks x = some .finished
  unmet : ∀ x, x ∉ done → Walk.mark? s.marks x = none

theorem Seen.idle_nothing : (Seen.nothing : Seen α).Idle [] where
  order := rfl
  finished x hx := by cases hx
  unmet _ _ := rfl

/-- A visit that finds nothing to do finishes its node, and nothing is under way again;
the node now stands behind those done. -/
theorem Seen.Idle.visited (idle : s.Idle done) (x : α) :
    ((s.enter x).finish x).Idle (done ++ [x]) where
  order := by rw [Seen.finish, Seen.enter, idle.order]
  finished y hy := by
    simp only [Seen.finish, Seen.enter, Walk.mark?_cons]
    by_cases same : x = y
    · rw [if_pos same]
    · rw [if_neg same, if_neg same]
      rcases List.mem_append.mp hy with old | new
      · exact idle.finished y old
      · exact absurd (List.mem_singleton.mp new).symm same
  unmet y hy := by
    rw [List.mem_append, List.mem_singleton, not_or] at hy
    simp only [Seen.finish, Seen.enter, Walk.mark?_cons]
    rw [if_neg (Ne.symm hy.2), if_neg (Ne.symm hy.2)]
    exact idle.unmet y hy.1

/-- Where all nodes of a list are finished, visits to them do nothing; members that are
no nodes may be among them. -/
theorem Network.after_of_finished (xs : List α)
    (finished : ∀ y ∈ xs, y ∈ n.nodes → Walk.mark? s.marks y = some .finished) :
    n.after s xs = .ok s := by
  induction xs with
  | nil => exact after_nil
  | cons x rest ih =>
    have later := ih fun y hy => finished y (List.mem_cons_of_mem _ hy)
    by_cases node : x ∈ n.nodes
    · rw [after_cons_of_finished node (finished x List.mem_cons_self node), later]
    · rw [after_cons_of_not_mem node, later]

/-- **Step.** A node whose successors are finished is entered and finished at once,
without any visit in between that would add to the order. -/
theorem Network.after_cons_of_ready (idle : s.Idle done) {x : α} (xs : List α) (node : x ∈ n.nodes)
    (new : x ∉ done) (ready : ∀ y, n.Edge x y → y ∈ done) :
    n.after s (x :: xs) = n.after ((s.enter x).finish x) xs := by
  have passed : n.after (s.enter x) (n.successors x) = .ok (s.enter x) := by
    apply after_of_finished
    intro y successor target
    have old : y ∈ done := ready y ⟨node, target, successor⟩
    have other : x ≠ y := by
      rintro rfl
      exact new old
    rw [Seen.enter, Walk.mark?_cons, if_neg other]
    exact idle.finished y old
  rw [after_cons_of_new node (idle.unmet x new), passed]
  rfl

/-- **Run.** Nodes that come in order are finished in that order. By induction on those
to come: each finds its successors among those done. -/
theorem Network.after_of_behind (rest : List α) :
    ∀ {s : Seen α} {done : List α}, s.Idle done → (done ++ rest).Nodup →
      (∀ x ∈ rest, x ∈ n.nodes) → n.Behind (done ++ rest) →
      ∃ t, n.after s rest = .ok t ∧ t.order = done ++ rest := by
  induction rest with
  | nil =>
    intro s done idle _ _ _
    exact ⟨s, after_nil, by rw [idle.order, List.append_nil]⟩
  | cons x rest ih =>
    intro s done idle nodup nodes behind
    have new : x ∉ done := by
      intro old
      exact (List.nodup_append.mp nodup).2.2 x old x List.mem_cons_self rfl
    have ready : ∀ y, n.Edge x y → y ∈ done := by
      intro y edge
      obtain ⟨j, before, placed⟩ := behind done.length x (by simp) y edge
      rw [List.getElem?_append_left before] at placed
      exact List.mem_of_getElem? placed
    rw [after_cons_of_ready idle rest (nodes x List.mem_cons_self) new ready]
    rw [List.append_cons] at nodup behind ⊢
    exact ih (idle.visited x) nodup (fun y hy => nodes y (List.mem_cons_of_mem _ hy)) behind

/-- A walk keeps the order of nodes that are in order, and is not cut short; so sorting
what is sorted changes nothing. -/
theorem Network.InOrder.walk_eq (inOrder : n.InOrder n.nodes) : n.walk = .ok n.nodes := by
  obtain ⟨t, visited, order⟩ :=
    after_of_behind n.nodes Seen.idle_nothing inOrder.nodup (fun _ hx => hx) inOrder.behind
  rw [← visitAll_eq_walk, visitAll, visited]
  exact congrArg Except.ok order

end Visits

/-! ## Blocks in order -/

namespace Block

variable {c : Catalog} {blocks : List Block} {x y : String}

/-- Of two ids, the one that occurs first also comes first without the repeated ids,
whichever were seen before, as long as these two were not. -/
theorem idxOf_firstsAfter_lt (blocks : List Block) :
    ∀ seen : List String, x ∉ seen → y ∉ seen →
      (blocks.map Block.id).idxOf y < (blocks.map Block.id).idxOf x →
      ((firstsAfter seen blocks).map Block.id).idxOf y <
        ((firstsAfter seen blocks).map Block.id).idxOf x := by
  induction blocks with
  | nil =>
    intro seen _ _ before
    cases before
  | cons b rest ih =>
    intro seen newX newY before
    have other : b.id ≠ x := by
      rintro rfl
      rw [List.map_cons, List.idxOf_cons_self] at before
      cases before
    rw [List.map_cons, List.idxOf_cons_ne _ other] at before
    unfold firstsAfter
    split
    next repeated =>
      have apart : b.id ≠ y := by
        rintro rfl
        exact newY (by simpa using repeated)
      rw [List.idxOf_cons_ne _ apart] at before
      exact ih seen newX newY (by omega)
    next =>
      rw [List.map_cons, List.idxOf_cons_ne _ other]
      by_cases same : b.id = y
      · rw [List.idxOf_cons_eq _ same]
        omega
      · rw [List.idxOf_cons_ne _ same] at before ⊢
        have := ih (b.id :: seen) (by simp [Ne.symm other, newX]) (by simp [Ne.symm same, newY])
          (by omega)
        omega

/-- Blocks whose dependencies occur before them are in order. Where an id repeats, its
first occurrence is what counts on both sides. -/
theorem inOrder_of_idxOf_lt (before : ∀ x y, Depends c blocks x y →
      (blocks.map Block.id).idxOf y < (blocks.map Block.id).idxOf x) :
    (Dependencies.network c blocks).InOrder (Dependencies.network c blocks).nodes := by
  have nodup := Dependencies.nodup_nodes c blocks
  refine ⟨nodup, fun _ => Iff.rfl, fun i x at_i y edge => ?_⟩
  have earlier := idxOf_firstsAfter_lt blocks [] List.not_mem_nil List.not_mem_nil
    (before x y (Dependencies.edge_iff.mp edge))
  rw [← firsts, ← Dependencies.nodes_network c blocks] at earlier
  obtain ⟨inside, rfl⟩ := List.getElem?_eq_some_iff.mp at_i
  rw [nodup.idxOf_getElem i inside] at earlier
  refine ⟨_, earlier, ?_⟩
  rw [List.getElem?_eq_getElem (by omega), List.getElem_idxOf]

/-- First blocks are found again by their ids, so taking their ids and looking these up
gives them back. -/
theorem filterMap_find?_map_id (listed : List Block)
    (first : ∀ b ∈ listed, Block.find? blocks b.id = some b) :
    (listed.map Block.id).filterMap (Block.find? blocks) = listed := by
  induction listed with
  | nil => rfl
  | cons b rest ih =>
    rw [List.map_cons, List.filterMap_cons_some (first b List.mem_cons_self),
      ih fun b' hb' => first b' (List.mem_cons_of_mem _ hb')]

/-- Blocks that are in order are sorted as they stand, with repeated ids left out. The
walk keeps the order of the ids, and these find the first blocks. -/
theorem sort_eq_firsts_of_inOrder
    (inOrder : (Dependencies.network c blocks).InOrder (Dependencies.network c blocks).nodes) :
    Block.sort c blocks = .ok (firsts blocks) := by
  rw [Block.sort, inOrder.walk_eq, Dependencies.nodes_network]
  exact congrArg Except.ok
    (filterMap_find?_map_id (firsts blocks) fun b hb => mem_firsts_iff.mp hb)

end Block

end ShaderGraph
