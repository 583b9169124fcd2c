import Mathlib
import ShaderGraph.Proofs.Edit.Validity
import ShaderGraph.Proofs.Program.Repetition

/-!
# Which collisions are reported

The blocks declare their identifiers one after the other, and the ledger keeps
who owns an identifier and which pairs have been reported. `Ledger.Reports` says
what its reports are worth after some declarations: each names the owner of an
identifier and another block that declared it, no pair comes twice, and a block
that declared what another one owns stands in a report. One declaration keeps
this (`Ledger.Reports.declare`), and so does the whole run
(`Ledger.Reports.foldl`).

The owner of an identifier is the first block that declares it
(`exists_earliest_of_find?`), so in terms of the blocks a report names the earliest
block that declares an identifier and a later one (`collisions_report`).
-/

namespace ShaderGraph

/-- The two blocks of a collision, the owner first. -/
def Diagnostic.collisionPair? : Diagnostic → Option (String × String)
  | .collision owner block _ => some (owner, block)
  | _ => none

/-- Two blocks are the pair of a diagnostic when it reports them as colliding, over whatever
identifier. -/
theorem Diagnostic.collisionPair?_eq_some_iff {d : Diagnostic} {owner block : String} :
    d.collisionPair? = some (owner, block) ↔
      ∃ identifier, d = .collision owner block identifier := by
  cases d <;> simp [collisionPair?]

namespace Sample

/-- Three blocks whose ids look alike: the first two share both their names, and the name of
the first one's result is that of the third one's function. -/
def alike : List Block := [block "a-b" "sum" [], block "a_b" "sum" [], block "a-b-result" "sum" []]

end Sample

namespace Names

/-! ## The ledger -/

namespace Ledger

/-- What the reports of a ledger are worth after some declarations. -/
structure Reports (l : Ledger) (entries : List (String × String)) : Prop where
  /-- An identifier is owned by the first block that declared it. -/
  told : l.Tells entries
  /-- The pairs that count as reported are those of the reports. -/
  pairs : l.found.filterMap Diagnostic.collisionPair? = l.reported
  /-- No pair is reported twice. -/
  nodup : l.reported.Nodup
  /-- A report names the owner of an identifier and another block that declared it. -/
  genuine : ∀ owner block identifier, .collision owner block identifier ∈ l.found →
    owner ≠ block ∧ l.owner? identifier = some owner ∧ (block, identifier) ∈ entries
  /-- A block that declared what another one owns is reported with the owner. -/
  complete : ∀ block identifier owner, (block, identifier) ∈ entries →
    l.owner? identifier = some owner → owner = block ∨ (owner, block) ∈ l.reported

variable {l : Ledger} {entries : List (String × String)} {block identifier : String}

theorem reports_empty : Ledger.empty.Reports [] where
  told := tells_empty
  pairs := rfl
  nodup := List.nodup_nil
  genuine := by simp [empty]
  complete := by simp

/-- What is owned stays with its owner, whichever identifier is declared next and by whom. -/
theorem owner?_declare_of_owned {x owner : String} (block identifier : String)
    (owned : l.owner? x = some owner) : (declare block l identifier).owner? x = some owner := by
  unfold declare
  split
  · obtain ⟨entry, found, same⟩ := Option.map_eq_some_iff.mp owned
    rw [owner?, List.find?_append, found, Option.some_or, Option.map_some, same]
  · split
    · exact owned
    · exact owned

/-- An identifier that was declared has the owner it had before, for a further declaration
gives owners only to identifiers without one. -/
theorem Reports.owner_of_declared (r : l.Reports entries) (block identifier : String)
    {entry : String × String} {owner : String} (declared : entry ∈ entries)
    (owned : (declare block l identifier).owner? entry.2 = some owner) :
    l.owner? entry.2 = some owner := by
  obtain ⟨first, before⟩ := r.told.exists_owner declared
  rw [owner?_declare_of_owned block identifier before] at owned
  rw [before, owned]

/-- What was reported stays genuine, whatever is declared next. -/
theorem Reports.genuine_declare (r : l.Reports entries) (block identifier : String)
    {owner other x : String} (reported : .collision owner other x ∈ l.found) :
    owner ≠ other ∧ (Ledger.declare block l identifier).owner? x = some owner ∧
      (other, x) ∈ entries ++ [(block, identifier)] := by
  obtain ⟨apart, owned, declared⟩ := r.genuine owner other x reported
  exact ⟨apart, owner?_declare_of_owned block identifier owned, List.mem_append_left _ declared⟩

/-- An identifier that nobody owns goes to the block. Nobody has declared it, so there is no
one to be reported with. -/
theorem Reports.declare_unowned (r : l.Reports entries) (block : String)
    (unowned : l.owner? identifier = none) :
    (Ledger.declare block l identifier).Reports (entries ++ [(block, identifier)]) := by
  have told := r.told.declare block identifier
  have genuine := @Reports.genuine_declare l entries r block identifier
  have before := @Reports.owner_of_declared l entries r block identifier
  have after : Ledger.declare block l identifier =
      { l with owners := l.owners ++ [(identifier, block)] } := by
    rw [Ledger.declare, unowned]
  rw [after] at told genuine before ⊢
  refine ⟨told, r.pairs, r.nodup, fun _ _ _ => genuine, ?_⟩
  intro other x owner declared owner_x
  rcases List.mem_append.mp declared with old | new
  · exact r.complete other x owner old (before old owner_x)
  · cases List.mem_singleton.mp new
    have own := told.owner identifier
    rw [owner_x, find?_concat, ← r.told.owner, unowned, if_pos rfl] at own
    exact .inl (Option.some_inj.mp own)

/-- Nothing changes for a block that owns the identifier or was reported with its owner: this
is how a pair is kept from being reported twice. -/
theorem Reports.declare_known (r : l.Reports entries) {owner : String}
    (owned : l.owner? identifier = some owner)
    (known : owner = block ∨ (owner, block) ∈ l.reported) :
    (Ledger.declare block l identifier).Reports (entries ++ [(block, identifier)]) := by
  have told := r.told.declare block identifier
  have genuine := @Reports.genuine_declare l entries r block identifier
  have after : Ledger.declare block l identifier = l := by
    simp only [Ledger.declare, owned, if_pos known]
  rw [after] at told genuine ⊢
  refine ⟨told, r.pairs, r.nodup, fun _ _ _ => genuine, ?_⟩
  intro other x holder declared holder_x
  rcases List.mem_append.mp declared with old | new
  · exact r.complete other x holder old holder_x
  · cases List.mem_singleton.mp new
    cases owned.symm.trans holder_x
    exact known

/-- A block that declares what another one owns is reported with the owner, unless the two
have been reported before. -/
theorem Reports.declare_clash (r : l.Reports entries) {owner : String}
    (owned : l.owner? identifier = some owner)
    (unknown : ¬ (owner = block ∨ (owner, block) ∈ l.reported)) :
    (Ledger.declare block l identifier).Reports (entries ++ [(block, identifier)]) := by
  have told := r.told.declare block identifier
  have genuine := @Reports.genuine_declare l entries r block identifier
  have after : Ledger.declare block l identifier =
      { l with
        reported := l.reported ++ [(owner, block)]
        found := l.found ++ [.collision owner block identifier] } := by
    simp only [Ledger.declare, owned, if_neg unknown]
  rw [not_or] at unknown
  rw [after] at told genuine ⊢
  refine ⟨told, ?_, ?_, ?_, ?_⟩
  · rw [List.filterMap_append, r.pairs]
    rfl
  · exact List.nodup_append.mpr ⟨r.nodup, List.nodup_singleton _, by
      intro pair reported last hlast same
      rw [List.mem_singleton.mp hlast] at same
      exact unknown.2 (same ▸ reported)⟩
  · intro holder other x reported
    rcases List.mem_append.mp reported with old | new
    · exact genuine old
    · cases List.mem_singleton.mp new
      exact ⟨unknown.1, owned, List.mem_append_right _ (List.mem_singleton_self _)⟩
  · intro other x holder declared holder_x
    rcases List.mem_append.mp declared with old | new
    · exact (r.complete other x holder old holder_x).imp_right (List.mem_append_left _)
    · cases List.mem_singleton.mp new
      cases owned.symm.trans holder_x
      exact .inr (List.mem_append_right _ (List.mem_singleton_self _))

/-- **Step.** One declaration more, and the reports are worth as much. The three cases are
those of the ledger: no owner, a known pair, a new pair. -/
theorem Reports.declare (r : l.Reports entries) (block identifier : String) :
    (Ledger.declare block l identifier).Reports (entries ++ [(block, identifier)]) := by
  cases owned : l.owner? identifier with
  | none => exact r.declare_unowned block owned
  | some owner =>
    by_cases known : owner = block ∨ (owner, block) ∈ l.reported
    · exact r.declare_known owned known
    · exact r.declare_clash owned known

/-- **Run.** After all declarations the reports are worth as much. By induction on the
declarations to come, for any ledger whose reports are worth that much before. -/
theorem Reports.foldl (later : List (String × String)) :
    ∀ {l : Ledger} {entries : List (String × String)}, l.Reports entries →
      (later.foldl (fun l entry => Ledger.declare entry.1 l entry.2) l).Reports
        (entries ++ later) := by
  induction later with
  | nil =>
    intro l entries r
    simpa using r
  | cons entry rest ih =>
    intro l entries r
    rw [List.foldl_cons, List.append_cons]
    exact ih (r.declare entry.1 entry.2)

end Ledger

/-! ## Places of blocks -/

/-- Of the blocks in a list, the one at a place is the earliest that declares an
identifier. -/
structure Earliest (c : Catalog) (listed : List Block) (identifier : String) (i : Nat)
    (b : Block) : Prop where
  place : listed[i]? = some b
  declares : identifier ∈ identifiersOf c b
  front : ∀ k < i, ∀ other, listed[k]? = some other → identifier ∉ identifiersOf c other

variable {c : Catalog} {blocks : List Block} {b : Block} {x identifier : String}

/-- What the reports of the whole run are worth, with all declarations of the first blocks
made. -/
theorem reports_declarations (c : Catalog) (blocks : List Block) :
    ((Block.firsts blocks).foldl (Ledger.enter c) .empty).Reports (declarations c blocks) := by
  rw [foldl_enter]
  exact Ledger.reports_empty.foldl (declarations c blocks)

theorem mem_declarationsOf_iff :
    (x, identifier) ∈ declarationsOf c b ↔ b.id = x ∧ identifier ∈ identifiersOf c b := by
  unfold declarationsOf identifiersOf
  cases c.find? b.kindId with
  | none => simp
  | some kind => simp [and_comm]

/-- Declared is what one of the first blocks declares; the others count for nothing. -/
theorem mem_declarations_iff_firsts :
    (x, identifier) ∈ declarations c blocks ↔
      ∃ b ∈ Block.firsts blocks, b.id = x ∧ identifier ∈ identifiersOf c b := by
  simp only [declarations, List.mem_flatMap, mem_declarationsOf_iff]

/-- The first declaration of an identifier is that of the earliest block that declares it. By
induction on the blocks: either the first declares it, or the search goes on in the
others. -/
theorem exists_earliest_of_find? {entry : String × String} : ∀ {listed : List Block},
    (listed.flatMap (declarationsOf c)).find? (·.2 == identifier) = some entry →
      ∃ i owner, Earliest c listed identifier i owner ∧ owner.id = entry.1
  | [], found => by cases found
  | b :: rest, found => by
    rw [List.flatMap_cons, List.find?_append] at found
    cases own : (declarationsOf c b).find? (·.2 == identifier) with
    | some first =>
      rw [own, Option.some_or] at found
      cases found
      have same : entry.2 = identifier := by simpa using List.find?_some own
      have declared := List.mem_of_find?_eq_some own
      rw [← Prod.eta entry, same, mem_declarationsOf_iff] at declared
      exact ⟨0, b, ⟨rfl, declared.2, by simp⟩, declared.1⟩
    | none =>
      rw [own, Option.none_or] at found
      obtain ⟨i, owner, earliest, id_eq⟩ := exists_earliest_of_find? found
      refine ⟨i + 1, owner, ⟨earliest.place, earliest.declares, ?_⟩, id_eq⟩
      intro k before other at_k
      cases k with
      | zero =>
        cases at_k
        intro declared
        have entered := mem_declarationsOf_iff.mpr ⟨rfl, declared⟩
        exact List.find?_eq_none.mp own _ entered (by simp)
      | succ k => exact earliest.front k (by omega) other at_k

/-- First blocks with the same id stand at the same place, so a block with another id stands
elsewhere. -/
theorem place_eq_of_id_eq {i j : Nat} {b b' : Block} (at_i : (Block.firsts blocks)[i]? = some b)
    (at_j : (Block.firsts blocks)[j]? = some b') (same : b.id = b'.id) : i = j := by
  have distinct := Block.nodup_firstsAfter blocks []
  have id_i : ((Block.firsts blocks).map Block.id)[i]? = some b.id := by
    rw [List.getElem?_map, at_i, Option.map_some]
  have id_j : ((Block.firsts blocks).map Block.id)[j]? = some b.id := by
    rw [List.getElem?_map, at_j, Option.map_some, same]
  exact (List.getElem?_inj (List.getElem?_eq_some_iff.mp id_i).1 distinct).mp (id_i.trans id_j.symm)

/-- The owner of an identifier is the earliest of the first blocks that declares it, by what
the ledger tells at the end. -/
theorem exists_earliest_of_owner? {owner : String}
    (owned : ((Block.firsts blocks).foldl (Ledger.enter c) .empty).owner? identifier = some owner) :
    ∃ i b, Earliest c (Block.firsts blocks) identifier i b ∧ b.id = owner := by
  rw [(tells_declarations c blocks).owner] at owned
  obtain ⟨entry, found, rfl⟩ := Option.map_eq_some_iff.mp owned
  exact exists_earliest_of_find? found

/-! ## Reports -/

/-- **What is reported.** Blocks whose id occurs before count for nothing. Among the others:

- nothing is reported exactly when blocks of different ids declare different identifiers;
- a report names the earliest block that declares some identifier, a later block that
  declares it too, and the identifier;
- no pair of blocks is reported twice;
- a block that declares an identifier of an earlier one is the second block of a report. -/
theorem collisions_report (c : Catalog) (blocks : List Block) :
    (collisions c blocks = [] ↔
      ∀ b ∈ Block.firstOccurrences blocks, ∀ b' ∈ Block.firstOccurrences blocks, b.id ≠ b'.id →
        (identifiersOf c b).Disjoint (identifiersOf c b')) ∧
    (∀ d ∈ collisions c blocks, ∃ (i j : Nat) (owner block : Block) (identifier : String),
      d = .collision owner.id block.id identifier ∧ i < j ∧
      Earliest c (Block.firstOccurrences blocks) identifier i owner ∧
      (Block.firstOccurrences blocks)[j]? = some block ∧ identifier ∈ identifiersOf c block) ∧
    ((collisions c blocks).filterMap Diagnostic.collisionPair?).Nodup ∧
    ∀ (i j : Nat) (earlier block : Block) (identifier : String), i < j →
      (Block.firstOccurrences blocks)[i]? = some earlier →
      (Block.firstOccurrences blocks)[j]? = some block →
      identifier ∈ identifiersOf c earlier → identifier ∈ identifiersOf c block →
      ∃ owner shared, .collision owner block.id shared ∈ collisions c blocks := by
  have reports := reports_declarations c blocks
  rw [Block.firstOccurrences_eq_firsts]
  refine ⟨?_, ?_, ?_, ?_⟩
  · rw [collisions_eq_nil_iff]
    simp only [mem_declarations_iff_firsts]
    constructor
    · intro apart b hb b' hb' different identifier declared declared'
      exact different (apart b.id b'.id identifier ⟨b, hb, rfl, declared⟩ ⟨b', hb', rfl, declared'⟩)
    · rintro apart _ _ identifier ⟨b, hb, rfl, declared⟩ ⟨b', hb', rfl, declared'⟩
      by_contra different
      exact apart b hb b' hb' different declared declared'
  · intro d reported
    obtain ⟨owner, block, identifier, rfl⟩ := exists_of_mem_collisions reported
    obtain ⟨apart, owned, declared⟩ := reports.genuine owner block identifier reported
    obtain ⟨i, first, earliest, rfl⟩ := exists_earliest_of_owner? owned
    obtain ⟨second, listed, rfl, declares'⟩ := mem_declarations_iff_firsts.mp declared
    obtain ⟨j, at_j⟩ := List.getElem?_of_mem listed
    have behind : i < j := by
      have different : i ≠ j := by
        rintro rfl
        cases earliest.place.symm.trans at_j
        exact apart rfl
      have not_before : ¬ j < i := fun before => earliest.front j before second at_j declares'
      omega
    exact ⟨i, j, first, second, identifier, rfl, behind, earliest, at_j, declares'⟩
  · rw [collisions, reports.pairs]
    exact reports.nodup
  · intro i j earlier block identifier before at_i at_j declares declares'
    have declared : (block.id, identifier) ∈ declarations c blocks :=
      mem_declarations_iff_firsts.mpr ⟨block, List.mem_of_getElem? at_j, rfl, declares'⟩
    obtain ⟨owner, owned⟩ := reports.told.exists_owner declared
    rcases reports.complete block.id identifier owner declared owned with same | reported
    · -- The owner stands no later than the earlier block, so it is not the block itself.
      obtain ⟨k, first, earliest, id_eq⟩ := exists_earliest_of_owner? owned
      have place : k = j := place_eq_of_id_eq earliest.place at_j (id_eq.trans same)
      have no_later : ¬ i < k := fun ahead => earliest.front i ahead earlier at_i declares
      omega
    · rw [← reports.pairs, List.mem_filterMap] at reported
      obtain ⟨d, found, pair⟩ := reported
      obtain ⟨shared, rfl⟩ := Diagnostic.collisionPair?_eq_some_iff.mp pair
      exact ⟨owner, shared, found⟩

/-- Two names that two blocks share are one report, and a third block is reported with the
owner only. -/
theorem collisions_report_alike :
    collisions Sample.catalog Sample.alike =
      [.collision "a-b" "a_b" "sum_a_b", .collision "a-b" "a-b-result" "sum_a_b_result"] ∧
    ((collisions Sample.catalog Sample.alike).filterMap Diagnostic.collisionPair?).Nodup ∧
    (∃ owner shared,
      .collision owner "a-b-result" shared ∈ collisions Sample.catalog Sample.alike) := by
  have reported : collisions Sample.catalog Sample.alike =
      [.collision "a-b" "a_b" "sum_a_b", .collision "a-b" "a-b-result" "sum_a_b_result"] := by
    decide +kernel
  have first : "sum_a_b_result" ∈ identifiersOf Sample.catalog (Sample.block "a-b" "sum" []) := by
    decide +kernel
  have third : "sum_a_b_result" ∈
      identifiersOf Sample.catalog (Sample.block "a-b-result" "sum" []) := by
    decide +kernel
  obtain ⟨-, -, once, named⟩ := collisions_report Sample.catalog Sample.alike
  exact ⟨reported, once, named 0 2 _ _ "sum_a_b_result" (by omega) rfl rfl first third⟩

end Names

end ShaderGraph
