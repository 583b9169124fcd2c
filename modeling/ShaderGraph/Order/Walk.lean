/-!
# Walks — depth first, on a stack

A walk visits the nodes of a network so that each node is finished after its
successors. It keeps a stack of the nodes in progress, each with the successors
it has still to look at; a mark for every node it has met; and the nodes it has
finished, in order. One `step` looks at one successor, enters or finishes one
node, or takes one root.

A successor that is in progress lies on a cycle, and ends the walk. A successor
that is no node of the network is passed over.

**Termination** (`weight_lt_of_step`): every step makes the `weight` of the
state smaller. What a node puts on the stack when it is entered is less than
what it weighed before it was met.
-/

namespace ShaderGraph

/-- Nodes and their successors. -/
structure Network (α : Type) where
  nodes : List α
  successors : α → List α

namespace Walk

variable {α : Type} [DecidableEq α]

/-- What the walk knows of a node it has met. -/
inductive Mark
  /-- It is on the stack. -/
  | inProgress
  /-- It and everything it leads to is finished. -/
  | finished
  deriving DecidableEq, Repr

/-- A node in progress and the successors it has still to look at. -/
structure Frame (α : Type) where
  node : α
  pending : List α

/-- A walk at one moment: the roots not taken yet, the stack with its top first,
the marks with the newest first, and the finished nodes in order. -/
structure State (α : Type) where
  roots : List α
  stack : List (Frame α)
  marks : List (α × Mark)
  order : List α

/-- The mark of a node, if the walk has met it. -/
def mark? (marks : List (α × Mark)) (x : α) : Option Mark :=
  (marks.find? (·.1 = x)).map (·.2)

/-- What a step leads to. -/
inductive Outcome (α : Type)
  | running (state : State α)
  | complete (order : List α)
  | cycle (node : α)

/-- A node met for the first time goes on the stack with all its successors. -/
def State.enter (n : Network α) (s : State α) (x : α) : State α :=
  { s with
    stack := ⟨x, n.successors x⟩ :: s.stack
    marks := (x, .inProgress) :: s.marks }

/-- One step of a walk. -/
def step (n : Network α) (s : State α) : Outcome α :=
  match s.stack with
  | [] =>
    match s.roots with
    | [] => .complete s.order
    | root :: roots =>
      if root ∉ n.nodes ∨ mark? s.marks root ≠ none then .running { s with roots := roots }
      else .running (State.enter n { s with roots := roots } root)
  | top :: below =>
    match top.pending with
    | [] =>
      .running { s with
        stack := below
        marks := (top.node, .finished) :: s.marks
        order := s.order ++ [top.node] }
    | next :: pending =>
      let passed : State α := { s with stack := ⟨top.node, pending⟩ :: below }
      if next ∉ n.nodes then .running passed
      else
        match mark? s.marks next with
        | some .finished => .running passed
        | some .inProgress => .cycle next
        | none => .running (passed.enter n next)

/-! ## Termination -/

/-- What the nodes not met yet weigh: their successors, and two for entering and
finishing them. -/
def unmetWeight (n : Network α) (marks : List (α × Mark)) : List α → Nat
  | [] => 0
  | x :: xs =>
    (if mark? marks x = none then (n.successors x).length + 2 else 0) + unmetWeight n marks xs

/-- What a stack weighs: the successors still to look at, and one for each node
to finish. -/
def stackWeight : List (Frame α) → Nat
  | [] => 0
  | f :: fs => f.pending.length + 1 + stackWeight fs

/-- What a state weighs. -/
def weight (n : Network α) (s : State α) : Nat :=
  unmetWeight n s.marks n.nodes + stackWeight s.stack + s.roots.length

/-- The newest mark of a node is the one that counts, so a mark put in front hides
an older one of the same node and no other. -/
theorem mark?_cons (x y : α) (m : Mark) (marks : List (α × Mark)) :
    mark? ((x, m) :: marks) y = if x = y then some m else mark? marks y := by
  unfold mark?
  by_cases h : x = y <;> simp [h]

/-- A mark more, and the nodes not met weigh no more: a node can be met by it and
none is forgotten. Every step but entering a node rests on this. -/
theorem unmetWeight_cons_le (n : Network α) (x : α) (m : Mark) (marks : List (α × Mark))
    (xs : List α) : unmetWeight n ((x, m) :: marks) xs ≤ unmetWeight n marks xs := by
  induction xs with
  | nil => simp [unmetWeight]
  | cons y ys ih =>
    simp only [unmetWeight, mark?_cons]
    by_cases hxy : x = y
    · rw [if_pos hxy, if_neg (by simp)]
      omega
    · rw [if_neg hxy]
      omega

/-- A node met for the first time, and the others weigh less by what it weighed: its
successors, which go on the stack, and two for entering and finishing it. -/
theorem unmetWeight_cons_of_unmet (n : Network α) (x : α) (m : Mark) (marks : List (α × Mark))
    (xs : List α) (hmem : x ∈ xs) (hnew : mark? marks x = none) :
    unmetWeight n ((x, m) :: marks) xs + (n.successors x).length + 2 ≤ unmetWeight n marks xs := by
  induction xs with
  | nil => cases hmem
  | cons y ys ih =>
    have hle := unmetWeight_cons_le n x m marks ys
    by_cases hxy : x = y
    · subst hxy
      simp only [unmetWeight, mark?_cons, if_true, hnew, reduceCtorEq, if_false]
      omega
    · have hin : x ∈ ys := by
        cases hmem with
        | head => exact absurd rfl hxy
        | tail _ h => exact h
      have := ih hin
      simp only [unmetWeight, mark?_cons, if_neg hxy]
      omega

/-- Entering a node makes the state lighter, although its successors come to lie on
the stack, since the node weighed more than they do while it was not met. -/
theorem weight_enter_lt (n : Network α) (s : State α) (x : α) (hmem : x ∈ n.nodes)
    (hnew : mark? s.marks x = none) : weight n (s.enter n x) < weight n s := by
  have := unmetWeight_cons_of_unmet n x .inProgress s.marks n.nodes hmem hnew
  simp only [weight, State.enter, stackWeight]
  omega

/-- Every step that goes on makes the state lighter, which is why a walk ends. A
step that takes a root, looks at a successor or finishes a node takes one weight
away; entering a node takes more. -/
theorem weight_lt_of_step {n : Network α} {s t : State α} (h : step n s = .running t) :
    weight n t < weight n s := by
  unfold step at h
  split at h
  next hstack =>
    split at h
    · cases h
    next root roots hroots =>
      split at h
      · cases h
        simp [weight, hroots]
      next hnew =>
        cases h
        have hlt := weight_enter_lt n { s with roots := roots } root
          (by simp_all) (by simp_all)
        refine Nat.lt_trans hlt ?_
        simp [weight, hroots]
  next top below hstack =>
    split at h
    next hpending =>
      cases h
      have := unmetWeight_cons_le n top.node .finished s.marks n.nodes
      simp only [weight, hstack, stackWeight, hpending, List.length_nil]
      omega
    next next pending hpending =>
      have hpassed : weight n { s with stack := ⟨top.node, pending⟩ :: below } < weight n s := by
        simp only [weight, hstack, stackWeight, hpending, List.length_cons]
        omega
      simp only at h
      split at h
      · cases h
        exact hpassed
      next hmem =>
        split at h
        · cases h
          exact hpassed
        · cases h
        next hnew =>
          cases h
          exact Nat.lt_trans (weight_enter_lt n _ next (by simpa using hmem) hnew) hpassed

/-! ## Running a walk -/

/-- The walk from a state to its end: the finished nodes, or a node on a
cycle. -/
def run (n : Network α) (s : State α) : Except α (List α) :=
  match _h : step n s with
  | .running t => run n t
  | .complete order => .ok order
  | .cycle node => .error node
termination_by weight n s
decreasing_by exact weight_lt_of_step _h

/-- A walk that has met nothing. -/
def start (roots : List α) : State α := ⟨roots, [], [], []⟩

end Walk

/-- The nodes of a network in an order in which each stands after its
successors, every node a root in its turn; or a node on a cycle. -/
def Network.walk {α : Type} [DecidableEq α] (n : Network α) : Except α (List α) :=
  Walk.run n (Walk.start n.nodes)

end ShaderGraph
