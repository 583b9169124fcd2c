import Mathlib.Data.List.Forall2

/-!
# Attempts: computations that may refuse

Reading, sorting and printing all end in a result or in the first refusal met on
the way. Here is what a chain of such steps and a traversal of a list give: their
results come from results of every step, and their refusals from one step behind
others that passed. No law asks anything of the steps.
-/

namespace ShaderGraph.Attempt

variable {α β ε : Type} {f : α → Except ε β} {r : ε}

/-! ## Two steps -/

/-- A chain of two steps gives what the second gives from the first one's result, so a
long chain is taken apart by rewriting with this one equivalence. -/
theorem bind_eq_ok_iff {e : Except ε α} {b : β} :
    (e >>= f) = .ok b ↔ ∃ a, e = .ok a ∧ f a = .ok b := by
  cases e with
  | error refusal => simp [bind, Except.bind]
  | ok a => simp [bind, Except.bind]

/-- A chain of two steps is refused by the first, or by the second once the first has
passed; the refusal is handed on as it is. -/
theorem bind_eq_error_iff {e : Except ε α} :
    (e >>= f) = .error r ↔ e = .error r ∨ ∃ a, e = .ok a ∧ f a = .error r := by
  cases e with
  | error refusal => simp [bind, Except.bind]
  | ok a => simp [bind, Except.bind]

/-- What was made of a result came from one; used where the function that makes it takes
a pair apart and `simp` would not name the parts. -/
theorem exists_of_map_eq_ok {e : Except ε α} {g : α → β} {b : β} (mapped : e.map g = .ok b) :
    ∃ a, e = .ok a ∧ g a = b := by
  cases e with
  | error refusal => cases mapped
  | ok a => exact ⟨a, rfl, Except.ok.inj mapped⟩

/-! ## Traversals -/

/-- A traversal succeeds with what each step gives, in order: the results stand at the
places of what they were made from. -/
theorem mapM_eq_ok_iff : ∀ {xs : List α} {ys : List β},
    xs.mapM f = .ok ys ↔ List.Forall₂ (fun x y => f x = .ok y) xs ys
  | [], ys => by
    rw [List.mapM_nil, List.forall₂_nil_left_iff]
    exact ⟨fun h => by cases h; rfl, fun h => by cases h; rfl⟩
  | x :: xs, ys => by
    simp only [List.mapM_cons, bind_eq_ok_iff, mapM_eq_ok_iff, List.forall₂_cons_left_iff]
    constructor
    · rintro ⟨y, first, rest, others, same⟩
      cases same
      exact ⟨y, rest, first, others, rfl⟩
    · rintro ⟨y, rest, first, others, rfl⟩
      exact ⟨y, first, rest, others, rfl⟩

/-- A traversal succeeds when each step does, whatever the results are. -/
theorem exists_mapM_ok_iff {xs : List α} :
    (∃ ys, xs.mapM f = .ok ys) ↔ ∀ x ∈ xs, ∃ y, f x = .ok y := by
  simp only [mapM_eq_ok_iff]
  constructor
  · rintro ⟨ys, each⟩ x hx
    induction each with
    | nil => cases hx
    | cons first _ ih =>
      rcases List.mem_cons.mp hx with rfl | hx
      · exact ⟨_, first⟩
      · exact ih hx
  · intro each
    induction xs with
    | nil => exact ⟨[], .nil⟩
    | cons x xs ih =>
      obtain ⟨y, first⟩ := each x (by simp)
      obtain ⟨ys, rest⟩ := ih fun z hz => each z (List.mem_cons_of_mem _ hz)
      exact ⟨y :: ys, .cons first rest⟩

/-- A traversal is refused at its first step, or behind it when that step passes; the case
of the induction for `mapM_eq_error_iff`. -/
theorem mapM_cons_eq_error_iff {x : α} {xs : List α} :
    (x :: xs).mapM f = .error r ↔ f x = .error r ∨ (∃ y, f x = .ok y) ∧ xs.mapM f = .error r := by
  simp only [List.mapM_cons, bind_eq_error_iff]
  constructor
  · rintro (first | ⟨y, passed, later | ⟨_, _, nothing⟩⟩)
    · exact .inl first
    · exact .inr ⟨⟨y, passed⟩, later⟩
    · cases nothing
  · rintro (first | ⟨⟨y, passed⟩, later⟩)
    · exact .inl first
    · exact .inr ⟨y, passed, .inl later⟩

/-- A traversal of two lists in a row is refused in the first, or in the second when the
whole first one passes. -/
theorem mapM_append_eq_error_iff {xs ys : List α} :
    (xs ++ ys).mapM f = .error r ↔
      xs.mapM f = .error r ∨ (∃ zs, xs.mapM f = .ok zs) ∧ ys.mapM f = .error r := by
  simp only [List.mapM_append, bind_eq_error_iff]
  constructor
  · rintro (front | ⟨zs, passed, later | ⟨_, _, nothing⟩⟩)
    · exact .inl front
    · exact .inr ⟨⟨zs, passed⟩, later⟩
    · cases nothing
  · rintro (front | ⟨⟨zs, passed⟩, later⟩)
    · exact .inl front
    · exact .inr ⟨zs, passed, .inl later⟩

/-- A traversal is refused by the first of its steps that is: all in front of it pass, and
what stands behind it is never looked at. -/
theorem mapM_eq_error_iff {xs : List α} :
    xs.mapM f = .error r ↔
      ∃ before x after, xs = before ++ x :: after ∧ (∀ y ∈ before, ∃ z, f y = .ok z) ∧
        f x = .error r := by
  constructor
  · intro refused
    induction xs with
    | nil => cases refused
    | cons head tail ih =>
      rcases mapM_cons_eq_error_iff.mp refused with first | ⟨passed, later⟩
      · exact ⟨[], head, tail, rfl, by simp, first⟩
      · obtain ⟨before, x, after, rfl, passes, refused⟩ := ih later
        exact ⟨head :: before, x, after, rfl, List.forall_mem_cons.mpr ⟨passed, passes⟩, refused⟩
  · rintro ⟨before, x, after, rfl, passes, refused⟩
    exact mapM_append_eq_error_iff.mpr
      (.inr ⟨exists_mapM_ok_iff.mpr passes, mapM_cons_eq_error_iff.mpr (.inl refused)⟩)

/-- A traversal is refused by one of its steps, with that step's own refusal. -/
theorem exists_of_mapM_eq_error {xs : List α} (refused : xs.mapM f = .error r) :
    ∃ x ∈ xs, f x = .error r := by
  obtain ⟨before, x, after, rfl, _, refused⟩ := mapM_eq_error_iff.mp refused
  exact ⟨x, by simp, refused⟩

end ShaderGraph.Attempt
