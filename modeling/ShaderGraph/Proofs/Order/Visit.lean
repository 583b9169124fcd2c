import ShaderGraph.Proofs.Attempt
import ShaderGraph.Proofs.Order.Walk

/-!
# Visits — the walk by recursion

A walk keeps its own stack. The same order can be told by recursion: to visit a
node is to mark it, to visit its successors, and to put it behind them. A visit
to a finished node does nothing, and a visit to a node in progress is a cycle.

The recursion ends because a visit to a new node leaves fewer nodes unmet, and
no visit leaves more of them (`Seen.Later`).

**The law** (`Network.visitAll_eq_walk`): visits give what the walk gives, order
or node on a cycle. The stack of a walk stands for the visits under way: `owed`
says by recursion what they have still to do, and no step of the walk changes
that (`owed_eq_of_move`).
-/

namespace ShaderGraph

/-- What is known while nodes are visited: the marks, with the newest first, and
the finished nodes in order. -/
structure Seen (α : Type) where
  marks : List (α × Walk.Mark)
  order : List α

namespace Seen

variable {α : Type}

/-- Nothing is known. -/
def nothing : Seen α := ⟨[], []⟩

/-- A visit to a node begins. -/
def enter (s : Seen α) (x : α) : Seen α := ⟨(x, .inProgress) :: s.marks, s.order⟩

/-- A visit to a node ends. -/
def finish (s : Seen α) (x : α) : Seen α := ⟨(x, .finished) :: s.marks, s.order ++ [x]⟩

variable [DecidableEq α]

/-- What the nodes not met yet weigh. -/
def unmet (n : Network α) (s : Seen α) : Nat := Walk.unmetWeight n s.marks n.nodes

/-- What may be known later: the nodes not met yet weigh no more. -/
def Later (n : Network α) (s : Seen α) : Type := { t : Seen α // t.unmet n ≤ s.unmet n }

/-- Nothing more is known later. -/
def Later.same {n : Network α} (s : Seen α) : s.Later n := ⟨s, Nat.le_refl _⟩

/-- What is known when a visit that began ends. -/
def Later.finish {n : Network α} {s : Seen α} {x : α} (t : (s.enter x).Later n) : s.Later n :=
  ⟨t.1.finish x, Nat.le_trans (Walk.unmetWeight_cons_le n x .finished t.1.marks n.nodes)
    (Nat.le_trans t.2 (Walk.unmetWeight_cons_le n x .inProgress s.marks n.nodes))⟩

/-- What is later than later is later. -/
def Later.trans {n : Network α} {s : Seen α} (t : s.Later n) (u : t.1.Later n) : s.Later n :=
  ⟨u.1, Nat.le_trans u.2 t.2⟩

end Seen

namespace Network

variable {α : Type} [DecidableEq α]

mutual

/-- A visit to a node. -/
def visit (n : Network α) (s : Seen α) (x : α) (_node : x ∈ n.nodes) : Except α (s.Later n) :=
  match _new : Walk.mark? s.marks x with
  | some .finished => .ok (.same s)
  | some .inProgress => .error x
  | none => do
    let t ← visitEach n (s.enter x) (n.successors x)
    .ok t.finish
termination_by s.unmet n
decreasing_by
  have := Walk.unmetWeight_cons_of_unmet n x .inProgress s.marks n.nodes _node _new
  simp only [Seen.unmet, Seen.enter]
  omega

/-- Visits to the members of a list that are nodes, one after the other. -/
def visitEach (n : Network α) (s : Seen α) (xs : List α) : Except α (s.Later n) :=
  match xs with
  | [] => .ok (.same s)
  | x :: rest =>
    if node : x ∈ n.nodes then do
      let t ← visit n s x node
      let u ← visitEach n t.1 rest
      .ok (t.trans u)
    else visitEach n s rest
termination_by s.unmet n + xs.length + 1
decreasing_by
  · omega
  · have := t.2
    simp only [List.length_cons]
    omega
  · simp only [List.length_cons]
    omega

end

/-- What is known after visits to the members of a list. -/
def after (n : Network α) (s : Seen α) (xs : List α) : Except α (Seen α) :=
  (n.visitEach s xs).map Subtype.val

/-- A visit to every node: the nodes in the order they are finished, or a node
on a cycle. -/
def visitAll (n : Network α) : Except α (List α) :=
  (n.after .nothing n.nodes).map Seen.order

/-! ## The equations of visits -/

variable {n : Network α} {s : Seen α} {x : α} {xs : List α}

/-- Nothing is learned from no visits. The base case of everything that is said about lists of
visits. -/
@[simp] theorem after_nil : n.after s [] = .ok s := by
  rw [after, visitEach]
  rfl

/-- What is no node is passed over, as a walk passes over a successor that lies outside the
network, and leaves no trace in what is known. -/
theorem after_cons_of_not_mem (outside : x ∉ n.nodes) : n.after s (x :: xs) = n.after s xs := by
  rw [after, visitEach, dif_neg outside]
  rfl

/-- After a visit to the first of a list come visits to the rest, with what the first visit has
left behind. The measure that the visit carries plays no part. -/
theorem after_cons_of_visit {node : x ∈ n.nodes} {t : s.Later n}
    (visited : n.visit s x node = .ok t) : n.after s (x :: xs) = n.after t.1 xs := by
  rw [after, visitEach, dif_pos node, visited, after]
  show Except.map _ (n.visitEach t.1 xs >>= _) = _
  cases n.visitEach t.1 xs <;> rfl

/-- A finished node is not visited again, so it stands in the order once and its successors are
not looked at a second time. -/
theorem after_cons_of_finished (node : x ∈ n.nodes)
    (marked : Walk.mark? s.marks x = some .finished) : n.after s (x :: xs) = n.after s xs := by
  have visited : n.visit s x node = .ok (.same s) := by
    rw [visit]
    split <;> simp_all
  exact after_cons_of_visit visited

/-- A node in progress is a cycle, and the visits end with its name whatever stands behind it
in the list. -/
theorem after_cons_of_inProgress (node : x ∈ n.nodes)
    (marked : Walk.mark? s.marks x = some .inProgress) : n.after s (x :: xs) = .error x := by
  have visited : n.visit s x node = .error x := by
    rw [visit]
    split <;> simp_all
  rw [after, visitEach, dif_pos node, visited]
  rfl

/-- A new node is put behind its successors: it is marked, they are visited one after the
other, and then it is finished and the rest of the list has its turn. -/
theorem after_cons_of_new (node : x ∈ n.nodes) (new : Walk.mark? s.marks x = none) :
    n.after s (x :: xs) =
      n.after (s.enter x) (n.successors x) >>= fun t => n.after (t.finish x) xs := by
  have visited : n.visit s x node =
      n.visitEach (s.enter x) (n.successors x) >>= fun t => .ok t.finish := by
    rw [visit]
    split <;> simp_all
  show _ = (n.visitEach (s.enter x) (n.successors x)).map Subtype.val >>= _
  cases inner : n.visitEach (s.enter x) (n.successors x) with
  | error y =>
    rw [after, visitEach, dif_pos node, visited, inner]
    rfl
  | ok t =>
    rw [inner] at visited
    exact after_cons_of_visit visited

/-- Visits leave no more nodes unmet than there were, for this is what every visit promises. -/
theorem unmet_le_of_after {t : Seen α} (ended : n.after s xs = .ok t) : t.unmet n ≤ s.unmet n := by
  obtain ⟨later, _, rfl⟩ := Attempt.exists_of_map_eq_ok ended
  exact later.2

end Network

namespace Walk

variable {α : Type} [DecidableEq α] {n : Network α} {s t : State α}

/-! ## The stack as visits under way -/

/-- What the visits under way have still to do, innermost first: each visits the
successors it has not looked at, and ends. Behind them come the roots. -/
def owed (n : Network α) (roots : List α) : List (Frame α) → Seen α → Except α (Seen α)
  | [], seen => n.after seen roots
  | f :: below, seen => do
    let later ← n.after seen f.pending
    owed n roots below (later.finish f.node)

/-- What a state of a walk still owes. -/
def State.owed (n : Network α) (s : State α) : Except α (Seen α) :=
  Walk.owed n s.roots s.stack ⟨s.marks, s.order⟩

/-- **Step.** No move of a walk changes what is owed. A move does one thing that the visits
under way had still to do, and takes it off what is left. -/
theorem owed_eq_of_move (inv : Invariant n s) (move : Move n s t) : s.owed n = t.owed n := by
  cases move with
  | @skipRoot root roots marks order skipped =>
    simp only [State.owed, owed]
    by_cases node : root ∈ n.nodes
    · have met := skipped.resolve_left fun outside => outside node
      exact Network.after_cons_of_finished node (inv.finished_of_met rfl met)
    · exact Network.after_cons_of_not_mem node
  | takeRoot node new =>
    simp only [State.owed, owed]
    exact Network.after_cons_of_new node new
  | finish =>
    simp only [State.owed, owed, Network.after_nil]
    rfl
  | @pass _ _ next _ _ marks _ passed =>
    simp only [State.owed, owed]
    by_cases node : next ∈ n.nodes
    · rw [Network.after_cons_of_finished node (passed.resolve_left fun outside => outside node)]
    · rw [Network.after_cons_of_not_mem node]
  | descend node new =>
    simp only [State.owed, owed]
    rw [Network.after_cons_of_new node new, bind_assoc]
    rfl

/-- **Run.** A walk gives what it owes at any of its moments, order or node on a cycle. The
induction is that of the walk, and at its end nothing is owed any more. -/
theorem owed_eq_run (inv : Invariant n s) : (s.owed n).map Seen.order = run n s := by
  fun_induction run n s with
  | case1 s t taken ih =>
    have move := move_of_step taken
    rw [owed_eq_of_move inv move]
    exact ih (inv.move move)
  | case2 s order ended =>
    obtain ⟨roots, stack, rfl⟩ := eq_of_step_complete ended
    rw [State.owed, roots, stack, owed, Network.after_nil]
    rfl
  | case3 s x ended =>
    obtain ⟨top, pending, below, stack, node, marked⟩ := eq_of_step_cycle ended
    rw [State.owed, stack, owed, Network.after_cons_of_inProgress node marked]
    rfl

end Walk

/-- **Visits by recursion give what the walk gives.** At the start a walk owes visits to all
nodes in turn, and what it owes is what it comes to. -/
theorem Network.visitAll_eq_walk {α : Type} [DecidableEq α] (n : Network α) :
    n.visitAll = n.walk :=
  Walk.owed_eq_run (Walk.invariant_start n)

end ShaderGraph
