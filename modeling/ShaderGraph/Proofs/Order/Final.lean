import ShaderGraph.Proofs.Order.Walk

/-!
# The node that is finished last

A walk takes the nodes as roots in their order and passes over those it has met. A
root that it takes stays at the bottom of the stack until everything else is
finished, so the last root taken is the node that is finished last.

When a root is taken, what has been met is what the roots before it lead to
(`Walk.Rooted`). So the roots taken are the nodes to which no node in front of them
leads, and the last of these comes last in the order (`Network.walk_getLast`).
-/

namespace ShaderGraph

open Relation

/-! ## Nodes to which nothing in front leads -/

section Unled

variable {α : Type} {n : Network α} {listed : List α} {x y : α} {i : Nat}

/-- A node in its place, and no node in front of it leads to it. -/
def Network.Unled (n : Network α) (listed : List α) (i : Nat) (x : α) : Prop :=
  listed[i]? = some x ∧ ∀ j y, j < i → listed[j]? = some y → ¬ TransGen n.Edge y x

/-- The last node of a list to which no node in front of it leads. -/
def Network.LastUnled (n : Network α) (listed : List α) (x : α) : Prop :=
  ∃ i, n.Unled listed i x ∧ ∀ k z, i < k → ¬ n.Unled listed k z

/-- Nothing changes in front when a node is added behind: whether a node is led to from
in front of it does not depend on what stands behind it. -/
theorem Network.unled_concat_iff (within : i < listed.length) :
    n.Unled (listed ++ [y]) i x ↔ n.Unled listed i x := by
  have front : ∀ j, j ≤ i → (listed ++ [y])[j]? = listed[j]? := by
    intro j le
    exact List.getElem?_append_left (by omega)
  unfold Unled
  rw [front i (Nat.le_refl i)]
  apply and_congr_right
  intro _
  constructor
  · intro unled j z before at_j
    exact unled j z before (by rw [front j (by omega)]; exact at_j)
  · intro unled j z before at_j
    exact unled j z before (by rw [← front j (by omega)]; exact at_j)

/-- A node that is led to from in front is passed over, and the last one that is not led
to stays what it was. -/
theorem Network.LastUnled.pass (last : n.LastUnled listed x)
    (led : ∃ e ∈ listed, TransGen n.Edge e y) : n.LastUnled (listed ++ [y]) x := by
  obtain ⟨i, unled, latest⟩ := last
  have within : i < listed.length := (List.getElem?_eq_some_iff.mp unled.1).1
  refine ⟨i, (unled_concat_iff within).mpr unled, ?_⟩
  intro k z behind later
  rcases Nat.lt_trichotomy k listed.length with inside | at_end | beyond
  · exact latest k z behind ((unled_concat_iff inside).mp later)
  · subst at_end
    obtain ⟨e, he, path⟩ := led
    obtain ⟨j, at_j⟩ := List.getElem?_of_mem he
    have before : j < listed.length := (List.getElem?_eq_some_iff.mp at_j).1
    have same : y = z := by simpa using later.1
    subst same
    exact later.2 j e before (by rw [List.getElem?_append_left before]; exact at_j) path
  · have placed := later.1
    rw [List.getElem?_eq_none (by simp; omega)] at placed
    cases placed

/-- A node to which nothing in front leads is the last of its kind as soon as it is
added, whichever it was before. -/
theorem Network.lastUnled_concat (free : ∀ e ∈ listed, ¬ TransGen n.Edge e y) :
    n.LastUnled (listed ++ [y]) y := by
  refine ⟨listed.length, ⟨by simp, ?_⟩, ?_⟩
  · intro j e before at_j
    rw [List.getElem?_append_left before] at at_j
    exact free e (List.mem_of_getElem? at_j)
  · intro k z beyond later
    have placed := later.1
    rw [List.getElem?_eq_none (by simp; omega)] at placed
    cases placed

/-- No node leads to the one that comes last in an order, for it would have to stand
behind that one. -/
theorem Network.InOrder.not_edge_getLast (inOrder : n.InOrder listed)
    (last : listed.getLast? = some x) (y : α) : ¬ n.Edge y x := by
  intro edge
  obtain ⟨i, at_i⟩ := List.getElem?_of_mem ((inOrder.mem_iff y).mpr edge.source)
  obtain ⟨j, before, at_j⟩ := inOrder.behind i y at_i x edge
  have within : i < listed.length := (List.getElem?_eq_some_iff.mp at_i).1
  rw [List.getLast?_eq_getElem?] at last
  have place := (List.getElem?_inj (by omega) inOrder.nodup).mp (at_j.trans last.symm)
  omega

end Unled

/-! ## The roots of a walk -/

namespace Walk

variable {α : Type} [DecidableEq α] {n : Network α} {s t : State α} {taken : List α}

/-- What a walk has met, by the roots it has looked at. -/
structure Rooted (n : Network α) (taken : List α) (s : State α) : Prop where
  nodes : n.nodes = taken ++ s.roots
  /-- The roots have been met, -/
  met : ∀ x ∈ taken, mark? s.marks x ≠ none
  /-- and nothing but what they lead to. -/
  reached : ∀ x, mark? s.marks x ≠ none → ∃ root ∈ taken, ReflTransGen n.Edge root x
  /-- What will be finished last of all that has been met is the last root that was taken. -/
  last : ∀ x, (s.order ++ s.stack.map Frame.node).getLast? = some x → n.LastUnled taken x

/-- At the start no root has been taken, nothing is marked, and there is no last node to
speak of. -/
theorem rooted_start (n : Network α) : Rooted n [] (start n.nodes) where
  nodes := rfl
  met x hx := by cases hx
  reached x hx := absurd rfl hx
  last x hx := by cases hx

/-- With an empty stack everything that a root leads to is finished, so a root that comes
later and is met was led to before. -/
theorem Invariant.met_of_transGen (inv : Invariant n s) (idle : s.stack = []) {x y : α}
    (met : mark? s.marks x ≠ none) (path : TransGen n.Edge x y) : mark? s.marks y ≠ none := by
  have finished := (inv.finished_iff x).mp (inv.finished_of_met idle met)
  obtain ⟨i, at_i⟩ := List.getElem?_of_mem finished
  obtain ⟨j, _, at_j⟩ := inv.behind.of_transGen path i at_i
  rw [(inv.finished_iff y).mpr (List.mem_of_getElem? at_j)]
  exact Option.some_ne_none _

/-- A root that has been met is led to from a root in front of it. It cannot have been a
root itself, since no node is listed twice. -/
theorem Rooted.exists_leading {root : α} {roots order : List α} {stack : List (Frame α)}
    {marks : List (α × Mark)} (rooted : Rooted n taken ⟨root :: roots, stack, marks, order⟩)
    (distinct : n.nodes.Nodup) (met : mark? marks root ≠ none) :
    ∃ e ∈ taken, TransGen n.Edge e root := by
  obtain ⟨e, he, path⟩ := rooted.reached root met
  refine ⟨e, he, ?_⟩
  rcases reflTransGen_iff_eq_or_transGen.mp path with same | path
  · rw [rooted.nodes] at distinct
    exact absurd same.symm ((List.nodup_append.mp distinct).2.2 e he root List.mem_cons_self)
  · exact path

/-- A root that has been met is passed over, and counts as taken: it is led to from in
front, so the last unled node is the same as before. -/
theorem Rooted.skip {root : α} {roots order : List α} {marks : List (α × Mark)}
    (rooted : Rooted n taken ⟨root :: roots, [], marks, order⟩) (distinct : n.nodes.Nodup)
    (met : mark? marks root ≠ none) : Rooted n (taken ++ [root]) ⟨roots, [], marks, order⟩ := by
  refine ⟨by rw [rooted.nodes]; simp, ?_, ?_, ?_⟩
  · intro x hx
    rcases List.mem_append.mp hx with old | new
    · exact rooted.met x old
    · rw [List.mem_singleton.mp new]
      exact met
  · intro x hx
    obtain ⟨e, he, path⟩ := rooted.reached x hx
    exact ⟨e, List.mem_append_left _ he, path⟩
  · intro x hx
    exact (rooted.last x hx).pass (rooted.exists_leading distinct met)

/-- A root that has not been met goes to the bottom of the stack. No root in front leads
to it, so it is now the last one to which none leads. -/
theorem Rooted.take {root : α} {roots order pending : List α} {marks : List (α × Mark)}
    (inv : Invariant n ⟨root :: roots, [], marks, order⟩)
    (rooted : Rooted n taken ⟨root :: roots, [], marks, order⟩) (new : mark? marks root = none) :
    Rooted n (taken ++ [root])
      ⟨roots, [⟨root, pending⟩], (root, .inProgress) :: marks, order⟩ := by
  refine ⟨by rw [rooted.nodes]; simp, ?_, ?_, ?_⟩
  · intro x hx
    rw [met_cons_iff]
    rcases List.mem_append.mp hx with old | here
    · exact .inr (rooted.met x old)
    · exact .inl (List.mem_singleton.mp here).symm
  · intro x hx
    rcases met_cons_iff.mp hx with rfl | old
    · exact ⟨root, by simp, .refl⟩
    · obtain ⟨e, he, path⟩ := rooted.reached x old
      exact ⟨e, List.mem_append_left _ he, path⟩
  · intro x hx
    have same : root = x := by simpa using hx
    subst same
    -- Whatever leads to the root from in front would have met it.
    apply Network.lastUnled_concat
    intro e he path
    exact inv.met_of_transGen rfl (rooted.met e he) path new

/-- The roots lead to the node on top, through the frames of the stack below it. What is
marked next is therefore led to as well. -/
theorem Rooted.reached_top {roots order pending : List α} {below : List (Frame α)}
    {marks : List (α × Mark)} {x : α}
    (inv : Invariant n ⟨roots, ⟨x, pending⟩ :: below, marks, order⟩)
    (rooted : Rooted n taken ⟨roots, ⟨x, pending⟩ :: below, marks, order⟩) :
    ∃ root ∈ taken, ReflTransGen n.Edge root x := by
  apply rooted.reached x
  rw [inv.top_inProgress]
  exact Option.some_ne_none _

/-- A mark more for a node that the roots lead to, with the same node at the end, changes
nothing of what is known of the roots. -/
theorem Rooted.mark {roots order order' : List α} {stack stack' : List (Frame α)}
    {marks : List (α × Mark)} {x : α} {m : Mark} (rooted : Rooted n taken ⟨roots, stack, marks, order⟩)
    (reached : ∃ root ∈ taken, ReflTransGen n.Edge root x)
    (last : (order' ++ stack'.map Frame.node).getLast? = (order ++ stack.map Frame.node).getLast?) :
    Rooted n taken ⟨roots, stack', (x, m) :: marks, order'⟩ := by
  refine ⟨rooted.nodes, fun y hy => met_cons_iff.mpr (.inr (rooted.met y hy)), ?_, ?_⟩
  · intro y hy
    rcases met_cons_iff.mp hy with rfl | old
    · exact reached
    · exact rooted.reached y old
  · intro y hy
    exact rooted.last y (last.symm.trans hy)

/-- **Step.** Every move keeps what is known of the roots: taking and skipping add one to
those taken, and the other moves only mark nodes that these lead to. -/
theorem Rooted.move (inv : Invariant n s) (distinct : n.nodes.Nodup) (rooted : Rooted n taken s)
    (move : Move n s t) : ∃ taken', Rooted n taken' t := by
  cases move with
  | @skipRoot root roots marks order skipped =>
    have node : root ∈ n.nodes := by rw [rooted.nodes]; simp
    have met : mark? marks root ≠ none := skipped.resolve_left fun outside => outside node
    exact ⟨_, rooted.skip distinct met⟩
  | takeRoot node new => exact ⟨_, rooted.take inv new⟩
  | finish =>
    -- The node moves from the stack to the order and keeps its place between them.
    exact ⟨_, rooted.mark (rooted.reached_top inv) (by simp)⟩
  | pass => exact ⟨taken, rooted.nodes, rooted.met, rooted.reached, rooted.last⟩
  | descend node new =>
    obtain ⟨source, successor⟩ := inv.mem_successors_of_pending
    obtain ⟨e, he, path⟩ := rooted.reached_top inv
    exact ⟨_, rooted.mark ⟨e, he, path.tail ⟨source, node, successor⟩⟩
      (by simp [List.getLast?_append, List.getLast?_cons])⟩

/-- **Run.** At every moment of a walk something is known of its roots, namely which were
taken and which of them is the last that none in front leads to. -/
theorem exists_rooted (distinct : n.nodes.Nodup) (reached : Reaches n (start n.nodes) s) :
    ∃ taken, Rooted n taken s := by
  induction reached with
  | refl => exact ⟨[], rooted_start n⟩
  | tail before step ih =>
    obtain ⟨taken, rooted⟩ := ih
    exact rooted.move (Invariant.of_reaches before) distinct (move_of_step step)

end Walk

section Walks

variable {α : Type} [DecidableEq α] {n : Network α} {order : List α} {x : α}

/-- **The node that is finished last is the last one to which no node in front leads.**
It sits at the bottom of the stack until everything behind it has been found finished. -/
theorem Network.walk_getLast (distinct : n.nodes.Nodup) (walked : n.walk = .ok order)
    (last : order.getLast? = some x) : n.LastUnled n.nodes x := by
  obtain ⟨s, reached, roots, stack, rfl⟩ := Walk.exists_complete_of_run walked
  obtain ⟨taken, rooted⟩ := Walk.exists_rooted distinct reached
  have all : n.nodes = taken := by rw [rooted.nodes, roots, List.append_nil]
  rw [all]
  apply rooted.last x
  rw [stack, List.map_nil, List.append_nil]
  exact last

end Walks

end ShaderGraph
