import Mathlib.Data.List.Induction
import Mathlib.Data.List.Nodup
import ShaderGraph.Keyed
import ShaderGraph.Proofs.Order.Firsts

/-!
# Entries and their keys

What the operations on entries do to a lookup and to the keys, whatever the entries are about. A
change is seen under its own key and under no other (`find?_change`), and its key is added to the
keys unless it is there already (`keys_change`). The loops that fill a list of entries are read off
from these two: of the entries that are gathered the last one of a key is found (`find?_gather`), and
a tally holds for each key how often the key came (`getD_find?_tally`).
-/

namespace ShaderGraph.Keyed

variable {κ α : Type} [DecidableEq κ]

/-! ## One change -/

/-- The first entry of a key is the one that is found, so a lookup in a longer list is decided by
its first entry or left to the others. -/
theorem find?_cons (entry : κ × α) (rest : List (κ × α)) (key : κ) :
    find? key (entry :: rest) = if entry.1 = key then some entry.2 else find? key rest := by
  unfold find?
  by_cases same : entry.1 = key <;> simp [same]

/-- What is found is among the entries. The other way round a key could have been given twice, and
only its first entry is found. -/
theorem mem_of_find? {key : κ} {value : α} {entries : List (κ × α)}
    (found : find? key entries = some value) : (key, value) ∈ entries := by
  obtain ⟨entry, held, rfl⟩ := Option.map_eq_some_iff.mp found
  rw [← key_eq_of_find? held]
  exact List.mem_of_find?_eq_some held

/-- Where no key repeats, what is among the entries is found. Tables that were filled by changes are
of this kind, by `keys_change`. -/
theorem find?_eq_some_iff {key : κ} {value : α} {entries : List (κ × α)}
    (distinct : (entries.map Prod.fst).Nodup) :
    find? key entries = some value ↔ (key, value) ∈ entries := by
  refine ⟨mem_of_find?, fun held => ?_⟩
  have found := (find?_key_eq_some_iff distinct).mpr ⟨held, rfl⟩
  exact Option.map_eq_some_iff.mpr ⟨_, found, rfl⟩

/-- A change is seen under its own key, where it sees the value that was found there, and under no
other key. -/
theorem find?_change (f : Option α → α) (key other : κ) : ∀ entries : List (κ × α),
    find? other (change key f entries) =
      if key = other then some (f (find? key entries)) else find? other entries
  | [] => by
    rw [change, find?_cons]
    rfl
  | entry :: rest => by
    have later := find?_change f key other rest
    unfold change
    by_cases here : entry.1 = key
    · by_cases same : key = other <;> simp [find?_cons, here, same]
    · by_cases same : key = other
      · subst same
        simpa [find?_cons, here] using later
      · simp [find?_cons, here, same, later]

/-- The key of a change is added behind the others, unless it is there already. So a change never
moves an entry, and keys that are distinct stay distinct. -/
theorem keys_change (f : Option α → α) (key : κ) : ∀ entries : List (κ × α),
    (change key f entries).map Prod.fst = addFirst id (entries.map Prod.fst) key
  | [] => rfl
  | entry :: rest => by
    have later := keys_change f key rest
    unfold change
    by_cases here : entry.1 = key
    · simp [addFirst, here]
    · rw [if_neg (by simpa using here), List.map_cons, List.map_cons, later, addFirst, addFirst,
        List.any_cons, id_eq, id_eq, beq_false_of_ne here, Bool.false_or]
      split <;> rfl

/-- **Step.** One entry more is set among those that were gathered before it. -/
theorem gather_concat (entries : List (κ × α)) (entry : κ × α) :
    gather (entries ++ [entry]) = set entry.1 entry.2 (gather entries) := by
  rw [gather, List.foldl_append]
  rfl

/-- Of the entries of a key the last one is found, since each takes the place of the one before it.
By induction from the end, where the last entry hides what was gathered under its key. -/
theorem find?_gather (key : κ) (entries : List (κ × α)) :
    find? key (gather entries) = find? key entries.reverse := by
  induction entries using List.reverseRecOn with
  | nil => rfl
  | append_singleton entries entry ih =>
    rw [gather_concat, set, find?_change, List.reverse_concat, find?_cons, ih]

section Tally

variable {keys : List κ}

/-- **Step.** One key more counts one more under this key, and under no other. The laws of a tally
are read off from this by induction from the end. -/
theorem tally_concat (keys : List κ) (key : κ) :
    tally (keys ++ [key]) = change key (fun count => count.getD 0 + 1) (tally keys) := by
  rw [tally, List.foldl_append]
  rfl

/-- The keys of a tally are those that came, each once, in the order in which they came first. -/
theorem firstOfEach_tally (keys : List κ) : FirstOfEach id keys ((tally keys).map Prod.fst) := by
  induction keys using List.reverseRecOn with
  | nil => exact firstOfEach_firstsBy id []
  | append_singleton keys key ih =>
    rw [tally_concat, keys_change]
    exact ih.concat key

/-- A key is found in a tally with the number of times it came; one that never came is not found,
and zero is the number for it. -/
theorem getD_find?_tally (key : κ) (keys : List κ) :
    (find? key (tally keys)).getD 0 = keys.count key := by
  induction keys using List.reverseRecOn with
  | nil => rfl
  | append_singleton keys last ih =>
    rw [tally_concat, find?_change, List.count_append, List.count_singleton]
    by_cases same : last = key
    · subst same
      rw [if_pos rfl, Option.getD_some, ih]
      simp
    · rw [if_neg same, ih]
      simp [same]

/-- An entry of a tally holds how often its key came. It is the one found under its key, since no
key of a tally repeats. -/
theorem count_of_mem_tally {entry : κ × Nat} (counted : entry ∈ tally keys) :
    entry.2 = keys.count entry.1 := by
  have distinct : ((tally keys).map Prod.fst).Nodup := by
    have nodup := (firstOfEach_tally keys).nodup_keys
    rwa [List.map_id] at nodup
  have found : find? entry.1 (tally keys) = some entry.2 := (find?_eq_some_iff distinct).mpr counted
  rw [← getD_find?_tally, found, Option.getD_some]

end Tally

end ShaderGraph.Keyed
