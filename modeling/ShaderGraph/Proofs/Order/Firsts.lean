import Mathlib.Data.List.Nodup

/-!
# The first of each key

Many lists are made in one way: items come one after the other, and an item is added behind the
others unless one with its key is there already (`addFirst`). What comes out of a list of items,
`firstsBy`, is said without the fold by `FirstOfEach`: of every key that occurs it holds the first
item with that key, and the items stand in the order in which their keys first occur.

**The law** (`firstOfEach_firstsBy`): `firstsBy` is the first of each key. One item more is the step
(`FirstOfEach.concat`), and the list of items the run.
-/

namespace ShaderGraph

variable {α κ : Type} [DecidableEq κ]

/-- An item added behind the others, unless one with its key is there already. -/
def addFirst (key : α → κ) (found : List α) (x : α) : List α :=
  if found.any (key · == key x) then found else found ++ [x]

/-- Items added one after the other. -/
def firstsBy (key : α → κ) (items : List α) : List α := items.foldl (addFirst key) []

/-- Of each key in a list of items, `firsts` holds the first item with that key, in the order in
which the keys first occur. -/
structure FirstOfEach (key : α → κ) (items firsts : List α) : Prop where
  mem_iff : ∀ x, x ∈ firsts ↔ items.find? (key · == key x) = some x
  ordered : firsts.Pairwise fun x y => (items.map key).idxOf (key x) < (items.map key).idxOf (key y)

variable {key : α → κ} {items firsts : List α} {x : α} {k : κ}

/-- To look for a key among items is to ask whether it is among their keys. This turns the test
in the loops into membership. -/
theorem any_key_iff : firsts.any (key · == k) = true ↔ k ∈ firsts.map key := by
  simp only [List.any_eq_true, beq_iff_eq, List.mem_map]

/-- An item is found for the keys that occur and for no others; which item it is, is left open
here. -/
theorem exists_find?_key_iff : (∃ x, items.find? (key · == k) = some x) ↔ k ∈ items.map key := by
  rw [← Option.isSome_iff_exists, List.find?_isSome, List.mem_map]
  simp only [beq_iff_eq]

/-- Nothing is found for a key that does not occur among the items, and only for such a one. -/
theorem find?_key_eq_none_iff : items.find? (key · == k) = none ↔ k ∉ items.map key := by
  rw [← exists_find?_key_iff, Option.eq_none_iff_forall_ne_some, not_exists]

/-- What is found for a key has that key. Nothing is asked of the items, which may share
keys. -/
theorem key_eq_of_find? (found : items.find? (key · == k) = some x) : key x = k := by
  simpa only [beq_iff_eq] using List.find?_some found

/-- Where no key repeats, an item is found under its own key, so that finding it and its being
there are one and the same. -/
theorem find?_key_eq_some_iff (distinct : (items.map key).Nodup) :
    items.find? (key · == k) = some x ↔ x ∈ items ∧ key x = k := by
  constructor
  · exact fun found => ⟨List.mem_of_find?_eq_some found, key_eq_of_find? found⟩
  · rintro ⟨hx, rfl⟩
    obtain ⟨y, found⟩ := exists_find?_key_iff.mpr (List.mem_map_of_mem (f := key) hx)
    rw [found, List.inj_on_of_nodup_map distinct (List.mem_of_find?_eq_some found) hx
      (key_eq_of_find? found)]

namespace FirstOfEach

/-- The keys of the first items are those that occur: no key is lost when later items of the
same key are left out, and none is added. -/
theorem mem_keys_iff (first : FirstOfEach key items firsts) : k ∈ firsts.map key ↔ k ∈ items.map key := by
  constructor
  · rw [List.mem_map]
    rintro ⟨x, hx, rfl⟩
    exact exists_find?_key_iff.mp ⟨x, (first.mem_iff x).mp hx⟩
  · intro occurs
    obtain ⟨x, found⟩ := exists_find?_key_iff.mpr occurs
    obtain rfl := key_eq_of_find? found
    exact List.mem_map_of_mem ((first.mem_iff x).mpr found)

/-- Items that are their own keys: those that occur are kept, each once. The form in which lists
of names and ids are used. -/
theorem mem_iff_mem {items firsts : List κ} (first : FirstOfEach id items firsts) :
    k ∈ firsts ↔ k ∈ items := by
  have keys := first.mem_keys_iff (k := k)
  rwa [List.map_id, List.map_id] at keys

/-- No key is there twice, for the items stand in the order in which their keys first come, and
that order is strict. -/
theorem nodup_keys (first : FirstOfEach key items firsts) : (firsts.map key).Nodup := by
  rw [List.Nodup, List.pairwise_map]
  refine first.ordered.imp fun before same => ?_
  rw [same] at before
  exact Nat.lt_irrefl _ before

/-- **Step.** One item more, and the first of each key is kept: the item is added behind the
others if its key is new, and left out if it is not. -/
theorem concat (first : FirstOfEach key items firsts) (x : α) :
    FirstOfEach key (items ++ [x]) (addFirst key firsts x) := by
  -- Keys that have occurred keep their place.
  have kept : firsts.Pairwise fun y z =>
      ((items ++ [x]).map key).idxOf (key y) < ((items ++ [x]).map key).idxOf (key z) := by
    refine first.ordered.imp_of_mem fun {y z} hy hz before => ?_
    have occurs : ∀ {w}, w ∈ firsts → key w ∈ items.map key := fun hw =>
      first.mem_keys_iff.mp (List.mem_map_of_mem hw)
    rwa [List.map_append, List.idxOf_append_of_mem (occurs hy), List.idxOf_append_of_mem (occurs hz)]
  unfold addFirst
  split
  next old =>
    have occurs := first.mem_keys_iff.mp (any_key_iff.mp old)
    refine ⟨fun y => ?_, kept⟩
    rw [first.mem_iff, List.find?_append]
    cases found : items.find? (key · == key y) with
    | some z => rw [Option.some_or]
    | none =>
      have other : key x ≠ key y := fun same => find?_key_eq_none_iff.mp found (same ▸ occurs)
      simp [other]
  next new =>
    have fresh : key x ∉ items.map key := fun occurs =>
      new (any_key_iff.mpr (first.mem_keys_iff.mpr occurs))
    constructor
    · intro y
      rw [List.mem_append, first.mem_iff, List.mem_singleton, List.find?_append]
      cases found : items.find? (key · == key y) with
      | some z =>
        have other : y ≠ x := by
          rintro rfl
          exact fresh (exists_find?_key_iff.mp ⟨z, found⟩)
        simp [other]
      | none =>
        rw [Option.none_or, List.find?_singleton]
        by_cases same : y = x
        · simp [same]
        · have other : ¬ x = y := fun h => same h.symm
          simp [same, other]
    · rw [List.pairwise_append]
      refine ⟨kept, List.pairwise_singleton _ x, fun y hy z hz => ?_⟩
      have occurs : key y ∈ items.map key := first.mem_keys_iff.mp (List.mem_map_of_mem hy)
      rw [List.mem_singleton.mp hz, List.map_append, List.idxOf_append_of_mem occurs,
        List.idxOf_append_of_notMem fresh]
      exact Nat.lt_of_lt_of_le (List.idxOf_lt_length_iff.mpr occurs) (Nat.le_add_right _ _)

/-- **Run.** Items more, one after the other, and the first of each key is kept, whatever had
been kept before them. By induction on the items to come. -/
theorem foldl (first : FirstOfEach key items firsts) (more : List α) :
    FirstOfEach key (items ++ more) (more.foldl (addFirst key) firsts) := by
  induction more generalizing items firsts with
  | nil => rwa [List.append_nil]
  | cons x rest ih =>
    have later := ih (first.concat x)
    rwa [List.append_assoc] at later

/-- Behind items with keys of their own stand the first items of the other keys, in the order in
which these keys come. Used where a fixed part is declared in front. -/
theorem of_append {front others : List α} (first : FirstOfEach key (front ++ items) (front ++ others)) :
    (∀ x, x ∈ others ↔ key x ∉ front.map key ∧ items.find? (key · == key x) = some x) ∧
      others.Pairwise fun x y => (items.map key).idxOf (key x) < (items.map key).idxOf (key y) := by
  have apart : ∀ x ∈ others, key x ∉ front.map key := by
    intro x hx inFront
    have nodup := first.nodup_keys
    rw [List.map_append, List.nodup_append] at nodup
    exact nodup.2.2 _ inFront _ (List.mem_map_of_mem hx) rfl
  have behind : ∀ x, key x ∉ front.map key →
      (front ++ items).find? (key · == key x) = items.find? (key · == key x) := by
    intro x new
    rw [List.find?_append, find?_key_eq_none_iff.mpr new, Option.none_or]
  refine ⟨fun x => ⟨fun hx => ?_, fun ⟨new, found⟩ => ?_⟩, ?_⟩
  · have found := (first.mem_iff x).mp (List.mem_append_right _ hx)
    rw [behind x (apart x hx)] at found
    exact ⟨apart x hx, found⟩
  · rw [← behind x new, ← first.mem_iff, List.mem_append] at found
    exact found.resolve_left fun hx => new (List.mem_map_of_mem hx)
  · refine (List.pairwise_append.mp first.ordered).2.1.imp_of_mem fun {x y} hx hy before => ?_
    rw [List.map_append, List.idxOf_append_of_notMem (apart x hx),
      List.idxOf_append_of_notMem (apart y hy)] at before
    exact Nat.lt_of_add_lt_add_left before

end FirstOfEach

/-- The loop that starts with nothing keeps the first item of each key; the case of
`FirstOfEach.foldl` with which most loops begin. -/
theorem firstOfEach_firstsBy (key : α → κ) (items : List α) :
    FirstOfEach key items (firstsBy key items) := by
  have empty : FirstOfEach key ([] : List α) [] := ⟨by simp, .nil⟩
  exact empty.foldl items

/-- Items that are their own keys are looked for among those that are there, and the loop that
adds the missing ones keeps the first of each. -/
theorem firstOfEach_foldl_contains (items : List κ) :
    FirstOfEach id items
      (items.foldl (fun found x => if found.contains x then found else found ++ [x]) []) := by
  have step : (fun (found : List κ) x => if found.contains x then found else found ++ [x]) =
      addFirst id := by
    funext found x
    have same : found.contains x = found.any (id · == id x) := by
      rw [List.contains_eq_any_beq]
      simp only [id_eq, BEq.comm]
    rw [addFirst, same]
  rw [step]
  exact firstOfEach_firstsBy id items

/-- What is there stays in front, in its place and with its value, however many items are
offered after it. -/
theorem prefix_foldl_addFirst (key : α → κ) (items found : List α) :
    found <+: items.foldl (addFirst key) found := by
  induction items generalizing found with
  | nil => exact List.prefix_rfl
  | cons x rest ih =>
    have step : found <+: addFirst key found x := by
      unfold addFirst
      split
      · exact List.prefix_rfl
      · exact List.prefix_append found [x]
    exact step.trans (ih _)

end ShaderGraph
