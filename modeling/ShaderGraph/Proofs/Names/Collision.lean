import ShaderGraph.Names.Collision
import ShaderGraph.Proofs.Order.Dependencies

/-!
# When no names collide

The ledger takes the identifiers of the blocks one after the other. What it
knows after some of them is said by `Ledger.Tells`: the owner of an identifier
is the first block that declared it, and nothing has been found so long as every
block declared identifiers of its own. One declaration keeps this
(`Ledger.Tells.declare`), and so does the whole run (`Ledger.Tells.foldl`).

No collision is found, then, exactly when different blocks declare different
identifiers (`collisions_eq_nil_iff`).
-/

namespace ShaderGraph.Names

/-- The identifiers a block declares, each with the id of the block. -/
def declarationsOf (c : Catalog) (b : Block) : List (String × String) :=
  match c.find? b.kindId with
  | some kind => (declared kind b.id).map (b.id, ·)
  | none => []

/-- The identifiers the blocks of a graph declare, in order. -/
def declarations (c : Catalog) (blocks : List Block) : List (String × String) :=
  (Block.firsts blocks).flatMap (declarationsOf c)

namespace Ledger

/-- What a ledger knows after some declarations. -/
structure Tells (l : Ledger) (entries : List (String × String)) : Prop where
  /-- An identifier is owned by the first block that declared it. -/
  owner : ∀ identifier, l.owner? identifier = (entries.find? (·.2 == identifier)).map (·.1)
  /-- What was reported was found. -/
  reported : l.reported.length = l.found.length
  /-- What was found are collisions. -/
  found : ∀ d ∈ l.found, ∃ owner block identifier, d = .collision owner block identifier
  /-- Nothing is found so long as every block owns what it declares. -/
  silent : l.found = [] ↔ ∀ entry ∈ entries, l.owner? entry.2 = some entry.1

variable {l : Ledger} {entries : List (String × String)} {block identifier : String}

theorem tells_empty : Ledger.empty.Tells [] where
  owner _ := rfl
  reported := rfl
  found := by simp [empty]
  silent := by simp [empty]

/-- An identifier that was declared has an owner, be it the block that declared it
or one before. -/
theorem Tells.exists_owner (t : l.Tells entries) {entry : String × String} (he : entry ∈ entries) :
    ∃ owner, l.owner? entry.2 = some owner := by
  rw [t.owner, ← Option.isSome_iff_exists, Option.isSome_map, List.find?_isSome]
  exact ⟨entry, he, by simp⟩

/-- The owner of an identifier, with one declaration more: whoever owned it before,
and otherwise the block that declares it now. -/
theorem find?_concat (entries : List (String × String)) (block identifier other : String) :
    ((entries ++ [(block, identifier)]).find? (·.2 == other)).map (·.1) =
      (((entries.find? (·.2 == other)).map (·.1)).or
        (if identifier = other then some block else none)) := by
  rw [List.find?_append]
  cases entries.find? (·.2 == other) with
  | some entry => simp
  | none => by_cases h : identifier = other <;> simp [h]

/-- An identifier nobody has declared goes to the block, and there is nothing to
report. -/
theorem Tells.acquire (t : l.Tells entries) (new : l.owner? identifier = none) :
    Tells { l with owners := l.owners ++ [(identifier, block)] } (entries ++ [(block, identifier)]) := by
  have owners : ∀ other, Ledger.owner? { l with owners := l.owners ++ [(identifier, block)] } other =
      (l.owner? other).or (if identifier = other then some block else none) := by
    intro other
    simp only [owner?, List.find?_append]
    cases l.owners.find? (·.1 == other) with
    | some entry => simp
    | none => by_cases h : identifier = other <;> simp [h]
  refine ⟨fun other => ?_, t.reported, t.found, ?_⟩
  · rw [owners, find?_concat, t.owner]
  · simp only [owners, List.forall_mem_append, List.forall_mem_singleton, new]
    rw [t.silent]
    constructor
    · intro each
      refine ⟨fun entry he => ?_, by simp⟩
      rw [each entry he, Option.some_or]
    · rintro ⟨each, _⟩ entry he
      obtain ⟨owner, owned⟩ := t.exists_owner he
      have kept := each entry he
      rw [owned, Option.some_or] at kept
      rw [owned, kept]

/-- With an owner in place, one declaration more changes no owner, of this
identifier or of any other. -/
theorem Tells.owner_concat (t : l.Tells entries) {owner : String}
    (owned : l.owner? identifier = some owner) (other : String) :
    l.owner? other =
      ((entries ++ [(block, identifier)]).find? (·.2 == other)).map (·.1) := by
  rw [find?_concat, ← t.owner]
  by_cases same : identifier = other
  · rw [← same, owned, Option.some_or]
  · rw [if_neg same, Option.or_none]

/-- **Step.** One declaration more, and the ledger knows of it. Either the
identifier is new, or its owner is asked about, and reported with the block if it is
another one and this is news. -/
theorem Tells.declare (t : l.Tells entries) (block identifier : String) :
    (Ledger.declare block l identifier).Tells (entries ++ [(block, identifier)]) := by
  unfold Ledger.declare
  split
  next new => exact t.acquire new
  next owner owned =>
    split
    next known =>
      -- Either the block owns the identifier, or the pair was found before.
      refine ⟨t.owner_concat owned, t.reported, t.found, ?_⟩
      simp only [List.forall_mem_append, List.forall_mem_singleton, owned, Option.some_inj]
      rw [t.silent]
      refine ⟨fun each => ⟨each, ?_⟩, And.left⟩
      rcases known with same | again
      · exact same
      · have none_reported : l.reported = [] := by
          rw [← List.length_eq_zero_iff, t.reported, t.silent.mpr each, List.length_nil]
        rw [none_reported] at again
        cases again
    next unknown =>
      have foreign : owner ≠ block := fun same => unknown (.inl same)
      have collisions := List.forall_mem_append.mpr ⟨t.found,
        List.forall_mem_singleton.mpr ⟨owner, block, identifier, rfl⟩⟩
      refine ⟨t.owner_concat owned, by simp [t.reported], collisions, ?_⟩
      constructor
      · intro found
        simp at found
      · intro each
        have own : l.owner? identifier = some block := each (block, identifier) (by simp)
        rw [owned, Option.some_inj] at own
        exact absurd own foreign

/-- **Run.** After all declarations the ledger knows of them all. By induction on
the declarations to come, for any ledger that knows of those before. -/
theorem Tells.foldl (later : List (String × String)) :
    ∀ {l : Ledger} {entries : List (String × String)}, l.Tells entries →
      (later.foldl (fun l entry => Ledger.declare entry.1 l entry.2) l).Tells (entries ++ later) := by
  induction later with
  | nil =>
    intro l entries t
    simpa using t
  | cons entry rest ih =>
    intro l entries t
    rw [List.foldl_cons, List.append_cons]
    exact ih (t.declare entry.1 entry.2)

end Ledger

variable {c : Catalog} {blocks : List Block}

/-- Entering the blocks is declaring all their identifiers, so the ledger can be
followed by declarations instead of blocks. -/
theorem foldl_enter (c : Catalog) (blocks : List Block) (l : Ledger) :
    blocks.foldl (Ledger.enter c) l =
      (blocks.flatMap (declarationsOf c)).foldl
        (fun l entry => Ledger.declare entry.1 l entry.2) l := by
  induction blocks generalizing l with
  | nil => rfl
  | cons b rest ih =>
    rw [List.foldl_cons, List.flatMap_cons, List.foldl_append, ih]
    congr 1
    unfold Ledger.enter declarationsOf
    cases c.find? b.kindId with
    | none => rfl
    | some kind => rw [List.foldl_map]

/-- The ledger at the end knows of all declarations, made by the first blocks in
their order. -/
theorem tells_declarations (c : Catalog) (blocks : List Block) :
    ((Block.firsts blocks).foldl (Ledger.enter c) .empty).Tells (declarations c blocks) := by
  rw [foldl_enter]
  exact Ledger.tells_empty.foldl (declarations c blocks)

/-- What the ledger reports are collisions and nothing else. -/
theorem exists_of_mem_collisions {d : Diagnostic} (hd : d ∈ collisions c blocks) :
    ∃ owner block identifier, d = .collision owner block identifier :=
  (tells_declarations c blocks).found d hd

/-- A block declares the identifiers of its kind. Only the first block of an id
declares any, and one of unknown kind none. -/
theorem mem_declarations_iff {id identifier : String} :
    (id, identifier) ∈ declarations c blocks ↔
      ∃ b kind, Block.find? blocks id = some b ∧ c.find? b.kindId = some kind ∧
        identifier ∈ declared kind id := by
  simp only [declarations, declarationsOf, List.mem_flatMap, Block.mem_firsts_iff]
  constructor
  · rintro ⟨b, first, held⟩
    split at held
    next kind known =>
      obtain ⟨_, declares, same⟩ := List.mem_map.mp held
      cases same
      exact ⟨b, kind, first, known, declares⟩
    next => cases held
  · rintro ⟨b, kind, first, known, declares⟩
    cases Block.id_eq_of_find? first
    refine ⟨b, first, ?_⟩
    rw [known]
    exact List.mem_map_of_mem declares

/-- **No names collide exactly when blocks of different ids declare different
identifiers.** Not every pair that shares one is reported, but some pair is. -/
theorem collisions_eq_nil_iff :
    collisions c blocks = [] ↔
      ∀ x y identifier, (x, identifier) ∈ declarations c blocks →
        (y, identifier) ∈ declarations c blocks → x = y := by
  have told := tells_declarations c blocks
  rw [collisions, told.silent]
  constructor
  · intro each x y identifier hx hy
    have first : _ = some x := each (x, identifier) hx
    have second : _ = some y := each (y, identifier) hy
    rw [first, Option.some_inj] at second
    exact second
  · rintro apart ⟨x, identifier⟩ hx
    obtain ⟨owner, owned⟩ := told.exists_owner hx
    have found := owned
    rw [told.owner, Option.map_eq_some_iff] at found
    obtain ⟨entry, hentry, rfl⟩ := found
    have same : entry.2 = identifier := by simpa using List.find?_some hentry
    have owns : (entry.1, identifier) ∈ declarations c blocks := by
      rw [← same]
      exact List.mem_of_find?_eq_some hentry
    rw [owned, apart entry.1 x identifier owns hx]

end ShaderGraph.Names
