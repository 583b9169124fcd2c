import Mathlib
import ShaderGraph.Proofs.Keyed
import ShaderGraph.Proofs.Order.Dependencies
import ShaderGraph.Proofs.Text.Substitute

/-!
# Catalogs and their queries

A list of kinds is a catalog when no id repeats and every template says where the name of its
function goes. The catalog is then asked in five ways: for all kinds, for the kind with an id, for the
kinds of a category, for the categories, and for the number of kinds in each. Every query goes
through the list on its own, and the last one counts as it goes. `Catalog.Offers` says what they
answer in terms of the list alone, and so that they agree with one another: the categories are those
of the kinds, they part the kinds among them, and the numbers are those of the parts.

`Catalog.ofKinds_offers` is the law: the lists that are admitted, and the answers of the catalogs
that come of them.
-/

namespace ShaderGraph

namespace Sample

/-- A kind of another category. -/
def spot : Kind := { sum with id := "spot", category := .shape }

/-- Three kinds of two categories. -/
def shelf : List Kind := [spot, sum, { sum with id := "mean" }]

end Sample

/-- Categories have different names, so that kinds can be grouped by name or by category to the
same effect. -/
theorem Category.name_injective : Function.Injective Category.name := by
  intro g h same
  cases g <;> cases h <;> simp_all [name]

/-- A change that counts one more adds one to the sum, be it to an entry or as a new one. -/
theorem Keyed.sum_change {κ : Type} [DecidableEq κ] (key : κ) (counts : List (κ × Nat)) :
    ((change key (fun count => count.getD 0 + 1) counts).map Prod.snd).sum =
      (counts.map Prod.snd).sum + 1 := by
  induction counts with
  | nil => rfl
  | cons entry rest ih =>
    unfold change
    split
    · rw [List.map_cons, List.sum_cons, List.map_cons, List.sum_cons, Option.getD_some]
      omega
    · rw [List.map_cons, List.sum_cons, ih, List.map_cons, List.sum_cons]
      omega

/-- The counts of a tally add up to the number of keys that came, for each of them has added one. -/
theorem Keyed.sum_tally {κ : Type} [DecidableEq κ] (keys : List κ) :
    ((tally keys).map Prod.snd).sum = keys.length := by
  induction keys using List.reverseRecOn with
  | nil => rfl
  | append_singleton keys key ih =>
    rw [tally_concat, Keyed.sum_change, ih, List.length_append, List.length_singleton]

namespace Catalog

/-! ## Admission -/

/-- A list has no defect exactly when its ids are distinct and new, and its templates name their
functions. By induction on the kinds, for any ids that were seen before them. -/
theorem defect?_eq_none_iff (kinds : List Kind) :
    ∀ seen : List String, defect? seen kinds = none ↔
      (kinds.map Kind.id).Nodup ∧ (∀ k ∈ kinds, k.id ∉ seen) ∧ ∀ k ∈ kinds, namesFunction k = true := by
  induction kinds with
  | nil => simp [defect?]
  | cons k rest ih =>
    intro seen
    rw [List.map_cons, List.nodup_cons, List.forall_mem_cons, List.forall_mem_cons]
    unfold defect?
    split
    next repeated =>
      have old : k.id ∈ seen := by simpa using repeated
      simp [old]
    next fresh =>
      have new : k.id ∉ seen := by simpa using fresh
      split
      next nameless => simp_all
      next named =>
        have names : namesFunction k = true := by simpa using named
        have apart : (∀ k' ∈ rest, k'.id ∉ k.id :: seen) ↔
            k.id ∉ rest.map Kind.id ∧ ∀ k' ∈ rest, k'.id ∉ seen := by
          simp only [List.mem_cons, not_or, List.mem_map, not_exists, not_and, forall_and]
        rw [ih, apart]
        simp only [new, names, not_false_eq_true, true_and, and_assoc]
        exact and_left_comm

/-- What is admitted is the list as it is, in its order and with nothing left out; a defect is the
only ground to refuse it. -/
theorem ofKinds_eq_ok_iff {kinds : List Kind} {c : Catalog} :
    ofKinds kinds = .ok c ↔ defect? [] kinds = none ∧ c = ⟨kinds⟩ := by
  unfold ofKinds
  split
  next defect found => simp [found]
  next found => simp [found, eq_comm]

/-- A list of kinds is admitted exactly when its ids are distinct and every template names its
function. -/
theorem exists_ofKinds_iff {kinds : List Kind} :
    (∃ c, ofKinds kinds = .ok c) ↔
      (kinds.map Kind.id).Nodup ∧ ∀ k ∈ kinds, namesFunction k = true := by
  simp only [ofKinds_eq_ok_iff, exists_and_left, exists_eq, and_true, defect?_eq_none_iff,
    List.not_mem_nil, not_false_eq_true, implies_true, true_and]

/-! ## Categories -/

section Categories

variable {c : Catalog} {k : Kind} {g : Category} {name : String}

/-- The categories are the first of each among those of the kinds, whose order they keep. -/
theorem firstOfEach_categories (c : Catalog) :
    FirstOfEach id (c.kinds.map Kind.category) c.categories :=
  firstOfEach_foldl_contains _

/-- A category is listed when some kind belongs to it; categories without kinds are left out. -/
theorem mem_categories_iff : g ∈ c.categories ↔ ∃ k ∈ c.kinds, k.category = g := by
  rw [(firstOfEach_categories c).mem_iff_mem, List.mem_map]

theorem nodup_categories (c : Catalog) : c.categories.Nodup := by
  have keys := (firstOfEach_categories c).nodup_keys
  rwa [List.map_id] at keys

/-- The kinds of a category are asked for by its name, and a name that no category has brings
none. -/
theorem mem_inCategory_iff : k ∈ c.inCategory name ↔ k ∈ c.kinds ∧ k.category.name = name := by
  rw [inCategory, List.mem_filter, beq_iff_eq]

/-- A kind is among those of its category, and of no other, so that going through the categories
meets every kind once. -/
theorem existsUnique_inCategory (hk : k ∈ c.kinds) :
    ∃! g, g ∈ c.categories ∧ k ∈ c.inCategory g.name := by
  refine ⟨k.category, ⟨mem_categories_iff.mpr ⟨k, hk, rfl⟩, mem_inCategory_iff.mpr ⟨hk, rfl⟩⟩, ?_⟩
  rintro g ⟨_, hg⟩
  exact (Category.name_injective (mem_inCategory_iff.mp hg).2).symm

/-- The kinds of a category are as many as the times that its name comes among the kinds. -/
theorem length_inCategory (c : Catalog) (name : String) :
    (c.inCategory name).length = (c.kinds.map (·.category.name)).count name := by
  rw [inCategory, ← List.countP_eq_length_filter, List.count, List.countP_map]
  rfl

end Categories

/-! ## Numbers -/

section Counts

variable {c : Catalog} {name : String}

/-- The numbers are those of the tally, in another order: they are sorted by name once the counting
is done. -/
theorem categoryCounts_perm (c : Catalog) :
    c.categoryCounts.Perm (Keyed.tally (c.kinds.map (·.category.name))) :=
  List.mergeSort_perm _ _

/-- What is counted are the categories: the count meets a name and the list of categories meets its
category at the same kinds. -/
theorem mem_names_categoryCounts_iff :
    name ∈ c.categoryCounts.map Prod.fst ↔ ∃ g ∈ c.categories, g.name = name := by
  rw [((categoryCounts_perm c).map Prod.fst).mem_iff, (Keyed.firstOfEach_tally _).mem_iff_mem,
    List.mem_map]
  simp only [mem_categories_iff]
  constructor
  · rintro ⟨k, hk, rfl⟩
    exact ⟨k.category, ⟨k, hk, rfl⟩, rfl⟩
  · rintro ⟨_, ⟨k, hk, rfl⟩, rfl⟩
    exact ⟨k, hk, rfl⟩

/-- No name is counted twice, for the tally has one entry for each and sorting adds none. -/
theorem nodup_names_categoryCounts (c : Catalog) : (c.categoryCounts.map Prod.fst).Nodup := by
  have keys := (Keyed.firstOfEach_tally (c.kinds.map (·.category.name))).nodup_keys
  rw [List.map_id] at keys
  exact ((categoryCounts_perm c).map Prod.fst).nodup_iff.mpr keys

/-- The names of the categories stand in ascending order. They are sorted, and none comes twice. -/
theorem ascending_categoryCounts (c : Catalog) :
    (c.categoryCounts.map Prod.fst).Pairwise (· < ·) := by
  have sorted : c.categoryCounts.Pairwise fun a b => decide (a.1 ≤ b.1) = true := by
    refine List.pairwise_mergeSort (fun a b d hab hbd => ?_) (fun a b => ?_) _
    · rw [decide_eq_true_eq] at hab hbd ⊢
      exact String.le_trans hab hbd
    · rw [Bool.or_eq_true, decide_eq_true_eq, decide_eq_true_eq]
      exact String.le_total a.1 b.1
  have ascending : (c.categoryCounts.map Prod.fst).Pairwise (· ≤ ·) :=
    List.pairwise_map.mpr (sorted.imp of_decide_eq_true)
  exact (ascending.and (nodup_names_categoryCounts c)).imp fun both => lt_of_le_of_ne both.1 both.2

/-- A number is how often the name of its category came, and so many kinds the category has. The
counting and the listing agree without knowing of each other. -/
theorem count_eq_length {entry : String × Nat} (counted : entry ∈ c.categoryCounts) :
    entry.2 = (c.inCategory entry.1).length := by
  rw [length_inCategory]
  exact Keyed.count_of_mem_tally ((categoryCounts_perm c).mem_iff.mp counted)

/-- The numbers add up to that of the kinds, for each kind has been counted once. -/
theorem sum_categoryCounts (c : Catalog) :
    (c.categoryCounts.map Prod.snd).sum = c.kinds.length := by
  rw [((categoryCounts_perm c).map Prod.snd).sum_eq, Keyed.sum_tally, List.length_map]

end Counts

/-! ## Queries -/

/-- What the queries of a catalog answer when it offers the kinds of a list. -/
structure Offers (c : Catalog) (kinds : List Kind) : Prop where
  /-- All kinds are listed as they were given. -/
  all : c.listKinds "" = kinds
  /-- Under an id stands the only kind with that id, -/
  found_iff : ∀ id k, c.find? id = some k ↔ k ∈ kinds ∧ k.id = id
  /-- or nothing, where no kind has it. -/
  missing_iff : ∀ id, c.find? id = none ↔ ∀ k ∈ kinds, k.id ≠ id
  /-- The categories are those of the kinds, each once, -/
  categories_nodup : c.categories.Nodup
  category_iff : ∀ g, g ∈ c.categories ↔ ∃ k ∈ kinds, k.category = g
  /-- in the order in which they first appear. -/
  categories_ordered : c.categories.Pairwise fun g h =>
    (kinds.map Kind.category).idxOf g < (kinds.map Kind.category).idxOf h
  /-- Every kind is in one category and no other, -/
  one_category : ∀ k ∈ kinds, ∃! g, g ∈ c.categories ∧ k ∈ c.inCategory g.name
  /-- and the kinds of a category stand in the order of the list. -/
  inCategory_iff : ∀ name k, k ∈ c.inCategory name ↔ k ∈ kinds ∧ k.category.name = name
  inCategory_sublist : ∀ name, (c.inCategory name).Sublist kinds
  /-- The numbers are given for the categories, by name in ascending order. -/
  counted_iff : ∀ name, name ∈ c.categoryCounts.map Prod.fst ↔ ∃ g ∈ c.categories, g.name = name
  counted_ascending : (c.categoryCounts.map Prod.fst).Pairwise (· < ·)
  /-- Each is that of the kinds in the category, and they add up to that of all kinds. -/
  count : ∀ entry ∈ c.categoryCounts, entry.2 = (c.inCategory entry.1).length
  total : (c.categoryCounts.map Prod.snd).sum = kinds.length

/-- With distinct ids, the queries of a catalog agree with its list. Without them a kind could
stand in the list that no lookup finds. -/
theorem offers_of_nodup {kinds : List Kind} (distinct : (kinds.map Kind.id).Nodup) :
    Offers ⟨kinds⟩ kinds where
  all := rfl
  found_iff _ _ := find?_key_eq_some_iff distinct
  missing_iff id := by
    rw [find?, find?_key_eq_none_iff, List.mem_map]
    simp only [not_exists, not_and, ne_eq]
  categories_nodup := nodup_categories _
  category_iff _ := mem_categories_iff
  categories_ordered := by
    have ordered := (firstOfEach_categories ⟨kinds⟩).ordered
    rwa [List.map_id] at ordered
  one_category _ hk := existsUnique_inCategory hk
  inCategory_iff _ _ := mem_inCategory_iff
  inCategory_sublist _ := List.filter_sublist
  counted_iff _ := mem_names_categoryCounts_iff
  counted_ascending := ascending_categoryCounts _
  count _ counted := count_eq_length counted
  total := sum_categoryCounts _

/-- **A list of kinds is a catalog exactly when its ids are distinct and every template holds the
mark of the function's name**; and then the queries of the catalog agree with the list and with one
another. -/
theorem ofKinds_offers (kinds : List Kind) :
    ((∃ c, ofKinds kinds = .ok c) ↔
      (kinds.map Kind.id).Nodup ∧
        ∀ k ∈ kinds, "\x7b\x7bname\x7d\x7d".toList <:+: k.template.toList) ∧
    ∀ c, ofKinds kinds = .ok c → c.Offers kinds := by
  constructor
  · rw [exists_ofKinds_iff]
    simp only [namesFunction, Text.occurs_iff_infix]
    rfl
  · intro c admitted
    have distinct := (exists_ofKinds_iff.mp ⟨c, admitted⟩).1
    rw [(ofKinds_eq_ok_iff.mp admitted).2]
    exact offers_of_nodup distinct

/-- The categories come as they first appear, the numbers by name, so the two differ in order where
the names do not appear in alphabetical order. -/
theorem ofKinds_offers_shelf :
    ofKinds Sample.shelf = .ok ⟨Sample.shelf⟩ ∧
      Offers ⟨Sample.shelf⟩ Sample.shelf ∧
      categories ⟨Sample.shelf⟩ = [.shape, .blend] ∧
      categoryCounts ⟨Sample.shelf⟩ = [("blend", 2), ("shape", 1)] := by
  have admitted : ofKinds Sample.shelf = .ok ⟨Sample.shelf⟩ := by decide
  exact ⟨admitted, (ofKinds_offers Sample.shelf).2 _ admitted, by decide, by cbv⟩

end Catalog

end ShaderGraph
