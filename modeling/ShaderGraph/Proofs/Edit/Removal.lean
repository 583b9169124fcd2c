import Mathlib.Data.List.Forall2
import ShaderGraph.Proofs.Edit.Validity

/-!
# What removing a block changes

Removing an id takes the blocks of that id out of a list, and the connections from it out of the
others. Nothing else is touched (`Block.remove_exact`): the blocks that are left keep their order, a
block that held no such connection is the one it was, and in the others only these connections are
missing, whatever the port they stood under.

What is taken out is said by `Without`, which names every member of a list as kept or missing.
Removing again changes nothing, and the order of two removals does not matter, since each of them
looks at parts that the other one leaves as they are (`Block.remove_remove`).
-/

namespace ShaderGraph

/-- The second list is the first one without exactly the members of a class; the others keep their
order. -/
inductive Without {α : Type} (P : α → Prop) : List α → List α → Prop
  | nil : Without P [] []
  | drop {a : α} {as rest : List α} (missing : P a) (others : Without P as rest) :
    Without P (a :: as) rest
  | keep {a : α} {as rest : List α} (kept : ¬ P a) (others : Without P as rest) :
    Without P (a :: as) (a :: rest)

/-- Filtering leaves out what fails the test and keeps the rest in order; `Without` says so
without the filter. -/
theorem without_filter {α : Type} {P : α → Prop} {p : α → Bool} (test : ∀ a, p a = true ↔ ¬ P a)
    (as : List α) : Without P as (as.filter p) := by
  induction as with
  | nil => exact .nil
  | cons a as ih =>
    by_cases kept : p a = true
    · rw [List.filter_cons_of_pos kept]
      exact .keep ((test a).mp kept) ih
    · rw [List.filter_cons_of_neg kept]
      exact .drop (not_not.mp (mt (test a).mpr kept)) ih

namespace Block

variable {c : Catalog} {blocks : List Block} {b : Block} {source : String}

/-! ## Connections from a block -/

/-- An input holds a connection from a block. -/
def HoldsFrom (source : String) (input : GivenText × PortValue) : Prop :=
  ∃ output, input.2 = .connection source output

/-- The test that scrubbing makes holds of the connections from the block in question, under any
port and from any of its outputs. -/
theorem comesFrom_eq_true_iff {input : GivenText × PortValue} :
    comesFrom source input.2 = true ↔ HoldsFrom source input := by
  unfold HoldsFrom comesFrom
  split
  next origin output held => simp [held]
  next none => simpa using fun output => none source output

/-- The dependents of a block are the blocks whose connections come from it. This counts
connections under all ports, also those that their kinds do not declare. -/
theorem mem_dependents_iff : b ∈ dependents source blocks ↔
    b ∈ blocks ∧ ∃ port output, (port, source, output) ∈ b.connections := by
  rw [dependents, List.mem_filter, List.any_eq_true]
  refine and_congr_right fun _ => ?_
  simp only [comesFrom_eq_true_iff, HoldsFrom, connections, List.mem_filterMap]
  constructor
  · rintro ⟨⟨port, value⟩, held, output, rfl⟩
    exact ⟨port, output, (port, _), held, rfl⟩
  · rintro ⟨port, output, ⟨port', value⟩, held, found⟩
    refine ⟨_, held, output, ?_⟩
    split at found
    next same => cases found; exact same
    next => cases found

/-! ## Scrubbing -/

/-- A block that differs from another at most in that the connections from a block are missing. -/
structure Scrubbed (source : String) (old new : Block) : Prop where
  id : new.id = old.id
  kindId : new.kindId = old.kindId
  position : new.position = old.position
  inputs : Without (HoldsFrom source) old.inputs new.inputs

/-- A scrubbed block lacks its connections from the block in question; its id, kind, position and
other values are the same. -/
theorem scrubbed_scrub (source : String) (b : Block) : Scrubbed source b (b.scrub source) where
  id := rfl
  kindId := rfl
  position := rfl
  inputs := by
    apply without_filter
    intro input
    rw [← comesFrom_eq_true_iff, Bool.not_eq_true', Bool.not_eq_true]

/-- Scrubbing leaves exactly the blocks as they are that hold no connection to take away, for a
list from which something is taken is a shorter one. -/
theorem scrub_eq_self_iff : b.scrub source = b ↔ ∀ input ∈ b.inputs, ¬ HoldsFrom source input := by
  have inputs : b.scrub source = b ↔
      b.inputs.filter (fun input => !comesFrom source input.2) = b.inputs := by
    constructor
    · exact congrArg Block.inputs
    · intro same
      rw [scrub, same]
  rw [inputs, List.filter_eq_self]
  simp only [Bool.not_eq_true', ← Bool.not_eq_true, comesFrom_eq_true_iff]

/-- Scrubbing changes exactly the dependents: what is listed as depending on a block is what
removing it will touch. -/
theorem scrub_eq_self_iff_not_mem_dependents (hb : b ∈ blocks) :
    b.scrub source = b ↔ b ∉ dependents source blocks := by
  rw [scrub_eq_self_iff, dependents, List.mem_filter, List.any_eq_true]
  simp only [comesFrom_eq_true_iff, hb, true_and, not_exists, not_and]

/-- Scrubbing twice is scrubbing once, since the first time leaves nothing to take away. -/
theorem scrub_scrub_self (source : String) (b : Block) :
    (b.scrub source).scrub source = b.scrub source := by
  simp only [scrub, List.filter_filter, Bool.and_self]

/-- Scrubbing for two blocks can be done in either order, for a value stays if it comes from
neither of them. -/
theorem scrub_comm (first second : String) (b : Block) :
    (b.scrub first).scrub second = (b.scrub second).scrub first := by
  simp only [scrub, List.filter_filter]
  congr 2
  funext input
  exact Bool.and_comm _ _

/-! ## Removing -/

/-- Two removals are one: ids and connections are looked at once. Scrubbing changes no id, so the
second removal finds the blocks it would have found at first. -/
theorem remove_remove (first second : String) (blocks : List Block) :
    remove second (remove first blocks) =
      (blocks.filter fun b => b.id != second && b.id != first).map
        fun b => (b.scrub first).scrub second := by
  rw [remove, remove, List.filter_map, List.filter_filter, List.map_map]
  rfl

/-- No block that is left depends on the removed one, whether the id occurred in the list or
not. -/
theorem dependents_remove (id : String) (blocks : List Block) :
    dependents id (remove id blocks) = [] := by
  rw [dependents, List.filter_eq_nil_iff]
  intro b hb
  obtain ⟨old, _, rfl⟩ := exists_of_mem_remove hb
  simp [scrub]

/-- Nothing that is left depends on a removed id, in the table from which blocks are sorted
either; and this for every catalog, as the connections are gone and not only undeclared. -/
theorem not_mem_table_remove {id : String} {entry : String × List String}
    (hentry : entry ∈ Dependencies.table c (remove id blocks)) : id ∉ entry.2 := by
  obtain ⟨b, hb, rfl⟩ := List.mem_map.mp hentry
  rw [Dependencies.mem_sources_iff]
  rintro ⟨_, _, output, _, _, held⟩
  obtain ⟨input, hinput, value⟩ := mem_inputs_of_value? held
  have member : b ∈ remove id blocks := List.mem_of_find?_eq_some (mem_firsts_iff.mp hb)
  have dependent : b ∈ dependents id (remove id blocks) := by
    rw [dependents, List.mem_filter, List.any_eq_true]
    exact ⟨member, input, hinput, comesFrom_eq_true_iff.mpr ⟨output, value⟩⟩
  rw [dependents_remove] at dependent
  cases dependent

/-- **Removing an id takes out its blocks and the connections from it, and nothing else.** Of the
blocks that are left those that do not depend on the id are the same, and the others lack exactly
their connections from it. So afterwards no block depends on the id, with whatever kinds; to remove
it again changes nothing; and two ids can be removed in either order. -/
theorem remove_exact (id : String) (blocks : List Block) :
    (∃ kept, Without (fun b => b.id = id) blocks kept ∧
      List.Forall₂ (fun old new => Scrubbed id old new ∧ (new = old ↔ old ∉ dependents id blocks))
        kept (remove id blocks)) ∧
    (∀ b, b ∈ dependents id blocks ↔
      b ∈ blocks ∧ ∃ port output, (port, id, output) ∈ b.connections) ∧
    dependents id (remove id blocks) = [] ∧
    (∀ c, ∀ entry ∈ Dependencies.table c (remove id blocks), id ∉ entry.2) ∧
    remove id (remove id blocks) = remove id blocks ∧
    ∀ other, remove other (remove id blocks) = remove id (remove other blocks) := by
  refine ⟨⟨blocks.filter (·.id != id), without_filter (by simp) _, ?_⟩, fun b => mem_dependents_iff,
    dependents_remove id blocks, fun c entry => not_mem_table_remove, ?_, fun other => ?_⟩
  · rw [remove, List.forall₂_map_right_iff, List.forall₂_same]
    intro b hb
    exact ⟨scrubbed_scrub id b,
      scrub_eq_self_iff_not_mem_dependents (List.mem_of_mem_filter hb)⟩
  · rw [remove_remove]
    simp only [Bool.and_self, scrub_scrub_self]
    rfl
  · rw [remove_remove, remove_remove]
    simp only [scrub_comm other id, Bool.and_comm]

/-- In the tangled blocks one of those with the repeated id reads from the removed block.
Afterwards nothing depends on it, also where a kind is unknown or a source has been missing all
along. -/
theorem remove_exact_tangled :
    (dependents "near" Sample.tangled).map Block.id = ["far"] ∧
      dependents "near" (remove "near" Sample.tangled) = [] ∧
      ∀ entry ∈ Dependencies.table Sample.catalog (remove "near" Sample.tangled),
        "near" ∉ entry.2 := by
  obtain ⟨_, _, independent, unlisted, _⟩ := remove_exact "near" Sample.tangled
  exact ⟨by decide, independent, unlisted Sample.catalog⟩

end Block

end ShaderGraph
