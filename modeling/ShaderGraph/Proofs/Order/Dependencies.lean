import Mathlib.Data.List.Permutation
import ShaderGraph.Order.Dependencies
import ShaderGraph.Proofs.Order.Firsts
import ShaderGraph.Proofs.Order.Visit

/-!
# Sorting blocks

The network of a list of blocks says of ids what the blocks say of themselves: a
node is an id that occurs, and an edge is a connection that the first block of
an id holds for a declared input of its kind (`Dependencies.edge_iff`). What
holds of walks holds therefore of sorted blocks:

- a sorted list holds the first block of each id, behind the blocks it reads
  from (`Block.sort_ok_behind_sources`);
- blocks cannot be sorted exactly when their dependencies have a cycle, and the
  id that is named lies on one (`Block.sort_error_iff_cycle`);
- sorting by recursion is the same (`Block.sort_eq_sortByVisits`), and the recursion
  goes over the first blocks of their ids and the inputs that kinds declare
  (`Block.visits_iff_after`).

Nothing is asked of the blocks: ids may repeat, kinds may be unknown, and
connections may lead nowhere or stand under ports no kind declares.
-/

namespace ShaderGraph

open Relation

/-! ## The first block of an id -/

namespace Block

variable {blocks : List Block} {b : Block} {x : String}

/-- The block found for an id has that id. -/
theorem id_eq_of_find? (found : Block.find? blocks x = some b) : b.id = x :=
  key_eq_of_find? found

/-- A block is found for the ids that occur and for no others, so that "the id is in the list" and
"its block can be had" are used for one another. -/
theorem exists_find?_iff : (∃ b, Block.find? blocks x = some b) ↔ x ∈ blocks.map Block.id :=
  exists_find?_key_iff

/-- Where no id repeats, every block is the one found for its id; with repeated ids this holds of
the first blocks only. -/
theorem find?_id_of_mem (distinct : (blocks.map Block.id).Nodup) (hb : b ∈ blocks) :
    Block.find? blocks b.id = some b :=
  (find?_key_eq_some_iff distinct).mpr ⟨hb, rfl⟩

/-- Blocks at the end change nothing for the ids in front of them, for the first block of an id is
looked for from the front. -/
theorem find?_append_of_mem {others : List Block} (occurs : x ∈ blocks.map Block.id) :
    Block.find? (blocks ++ others) x = Block.find? blocks x := by
  obtain ⟨first, found⟩ := exists_find?_iff.mpr occurs
  rw [found, Block.find?, List.find?_append, ← Block.find?, found, Option.some_or]

/-- Leaving repeated ids out changes nothing for the first blocks. By induction on the blocks, for
any ids that were seen before, since the loop adds to them as it goes. -/
theorem find?_firstsAfter (blocks : List Block) :
    ∀ (seen : List String), x ∉ seen →
      Block.find? (firstsAfter seen blocks) x = Block.find? blocks x := by
  induction blocks with
  | nil => exact fun _ _ => rfl
  | cons b rest ih =>
    intro seen new
    unfold firstsAfter
    split
    next repeated =>
      have other : b.id ≠ x := by
        rintro rfl
        exact new (by simpa using repeated)
      rw [ih seen new]
      simp [Block.find?, other]
    next =>
      by_cases same : b.id = x
      · simp [Block.find?, same]
      · have newer : x ∉ b.id :: seen := by simp [Ne.symm same, new]
        simpa [Block.find?, same] using ih (b.id :: seen) newer

/-- The first blocks alone tell which block is found for an id, so that whatever is filled from
them answers as the whole list does. -/
theorem find?_firsts (blocks : List Block) (x : String) :
    Block.find? (firsts blocks) x = Block.find? blocks x :=
  find?_firstsAfter blocks [] (by simp)

/-- What is left after ids were seen are the first blocks of the other ids. A block that is left
out has an id that was seen, or another block of that id in front of it. -/
theorem mem_firstsAfter_iff (blocks : List Block) :
    ∀ (seen : List String), b ∈ firstsAfter seen blocks ↔
      b.id ∉ seen ∧ Block.find? blocks b.id = some b := by
  induction blocks with
  | nil => simp [firstsAfter, Block.find?]
  | cons first rest ih =>
    intro seen
    unfold firstsAfter
    split
    next repeated =>
      have old : first.id ∈ seen := by simpa using repeated
      rw [ih seen]
      refine and_congr_right fun new => ?_
      have other : first.id ≠ b.id := fun same => new (same ▸ old)
      simp [Block.find?, other]
    next fresh =>
      have new : first.id ∉ seen := by simpa using fresh
      rw [List.mem_cons, ih (first.id :: seen), List.mem_cons]
      by_cases same : first.id = b.id
      · have found : Block.find? (first :: rest) b.id = some first := by simp [Block.find?, same]
        rw [found, Option.some_inj, ← same]
        constructor
        · rintro (rfl | ⟨apart, _⟩)
          · exact ⟨new, rfl⟩
          · exact absurd (.inl rfl) apart
        · exact fun ⟨_, h⟩ => .inl h.symm
      · have passed : Block.find? (first :: rest) b.id = Block.find? rest b.id := by
          simp [Block.find?, same]
        rw [passed]
        constructor
        · rintro (rfl | ⟨apart, found⟩)
          · exact absurd rfl same
          · exact ⟨fun old => apart (.inr old), found⟩
        · rintro ⟨apart, found⟩
          refine .inr ⟨?_, found⟩
          rintro (h | old)
          · exact same h.symm
          · exact apart old

/-- The first blocks are those found for their own ids. This is how first occurrences are spoken of
in all statements about sorted blocks. -/
theorem mem_firsts_iff : b ∈ firsts blocks ↔ Block.find? blocks b.id = some b := by
  simp [firsts, mem_firstsAfter_iff]

/-- Where no id repeats and none was seen before, every block is a first one and the list is left
as it is. -/
theorem firstsAfter_eq_self (blocks : List Block) :
    ∀ seen : List String, (blocks.map Block.id).Nodup → (∀ x ∈ blocks.map Block.id, x ∉ seen) →
      firstsAfter seen blocks = blocks := by
  induction blocks with
  | nil => exact fun _ _ _ => rfl
  | cons b rest ih =>
    intro seen distinct new
    rw [List.map_cons, List.nodup_cons] at distinct
    have fresh : b.id ∉ seen := new b.id (by simp)
    rw [firstsAfter, if_neg (by simpa using fresh), ih (b.id :: seen) distinct.2]
    intro x hx old
    rcases List.mem_cons.mp old with rfl | old
    · exact distinct.1 hx
    · exact new x (List.mem_cons_of_mem _ hx) old

/-- The first blocks have different ids, whichever were seen before: an id that has been let
through is among those seen from there on. -/
theorem nodup_firstsAfter (blocks : List Block) :
    ∀ seen : List String, ((firstsAfter seen blocks).map Block.id).Nodup := by
  induction blocks with
  | nil => exact fun _ => List.nodup_nil
  | cons b rest ih =>
    intro seen
    unfold firstsAfter
    split
    · exact ih seen
    · rw [List.map_cons, List.nodup_cons]
      refine ⟨fun again => ?_, ih (b.id :: seen)⟩
      obtain ⟨other, hother, same⟩ := List.mem_map.mp again
      exact ((mem_firstsAfter_iff rest _).mp hother).1 (by simp [same])

/-- Leaving out repeated ids twice is leaving them out once, since after the first time there is
none that repeats. -/
theorem firsts_firsts (blocks : List Block) : firsts (firsts blocks) = firsts blocks :=
  firstsAfter_eq_self _ [] (nodup_firstsAfter blocks []) (by simp)

end Block

/-! ## Dependencies -/

/-- A block reads from an id: for a declared input of its kind, it holds a
connection to an output of that id's block. -/
def Block.Reads (c : Catalog) (b : Block) (source : String) : Prop :=
  ∃ kind port output, c.find? b.kindId = some kind ∧ port ∈ kind.inputs ∧
    b.value? port.id = some (.connection source output)

/-- An id depends on another: its first block reads from the other, which occurs. -/
def Block.Depends (c : Catalog) (blocks : List Block) (x y : String) : Prop :=
  (∃ b, Block.find? blocks x = some b ∧ b.Reads c y) ∧ y ∈ blocks.map Block.id

namespace Dependencies

variable {c : Catalog} {blocks : List Block} {b : Block} {x y : String}

/-- Adding texts one after the other, each once, keeps all of them. Only repetitions are lost, and
a dependency is the same the second time. -/
theorem mem_foldl_insertNew {texts : List String} : y ∈ texts.foldl insertNew [] ↔ y ∈ texts :=
  (firstOfEach_foldl_contains texts).mem_iff_mem

/-- A port has a source when the block holds a connection for it, and the source is the block that
the connection names; its output plays no part in the order. -/
theorem source?_eq_some_iff {port : Port} :
    source? b port = some y ↔ ∃ output, b.value? port.id = some (.connection y output) := by
  unfold source?
  split
  next source output held => simp [held]
  next none =>
    constructor
    · exact fun h => by cases h
    · rintro ⟨output, held⟩
      exact absurd held (none y output)

/-- The sources of a block are what it reads from: connections under declared inputs of a known
kind. What stands under other ports is no dependency. -/
theorem mem_sources_iff : y ∈ sources c b ↔ b.Reads c y := by
  unfold sources Block.Reads
  cases c.find? b.kindId with
  | none => simp
  | some kind =>
    simp only [mem_foldl_insertNew, List.mem_filterMap, source?_eq_some_iff, Option.some.injEq]
    constructor
    · rintro ⟨port, declared, output, held⟩
      exact ⟨kind, port, output, rfl, declared, held⟩
    · rintro ⟨_, port, output, rfl, declared, held⟩
      exact ⟨port, declared, output, held⟩

/-- The nodes of the network are the ids, in the order they first occur. The roots of the walk are
taken in this order, so it decides between orders that would all do. -/
theorem nodes_network (c : Catalog) (blocks : List Block) :
    (network c blocks).nodes = (Block.firsts blocks).map Block.id := by
  simp [network, table, Function.comp_def]

/-- No id is a node twice, since repeated ids are left out before the network is made. -/
theorem nodup_nodes (c : Catalog) (blocks : List Block) : (network c blocks).nodes.Nodup := by
  rw [nodes_network]
  exact Block.nodup_firstsAfter blocks []

/-- The nodes of the network are the ids that occur in the list; a connection to any other id is
followed nowhere. -/
theorem mem_nodes_iff : x ∈ (network c blocks).nodes ↔ x ∈ blocks.map Block.id := by
  rw [nodes_network, ← Block.exists_find?_iff, ← Block.exists_find?_iff]
  simp only [Block.find?_firsts]

/-- The successors of an id are the sources of its first block, and an id that does not occur has
none. The table of dependencies is looked up here and nowhere below. -/
theorem successors_network (c : Catalog) (blocks : List Block) (x : String) :
    (network c blocks).successors x = ((Block.find? blocks x).map (sources c)).getD [] := by
  rw [← Block.find?_firsts]
  simp [network, ofTable, table, Block.find?, List.find?_map, Function.comp_def]

/-- The edges of the network are the dependencies. With this, what is known of walks in any network
is known of blocks and what they read from. -/
theorem edge_iff : (network c blocks).Edge x y ↔ Block.Depends c blocks x y := by
  constructor
  · rintro ⟨source, target, successor⟩
    obtain ⟨b, found⟩ := Block.exists_find?_iff.mpr (mem_nodes_iff.mp source)
    rw [successors_network, found] at successor
    exact ⟨⟨b, found, mem_sources_iff.mp successor⟩, mem_nodes_iff.mp target⟩
  · rintro ⟨⟨b, found, reads⟩, occurs⟩
    refine ⟨mem_nodes_iff.mpr (Block.exists_find?_iff.mp ⟨b, found⟩), mem_nodes_iff.mpr occurs, ?_⟩
    rw [successors_network, found]
    exact mem_sources_iff.mpr reads

/-- The same as an equation of relations, to carry paths and cycles from the network to the
blocks. -/
theorem edge_eq_depends (c : Catalog) (blocks : List Block) :
    (network c blocks).Edge = Block.Depends c blocks := by
  funext x y
  exact propext edge_iff

end Dependencies

/-! ## Small graphs -/

namespace Sample

/-- A port without a default. -/
def port (id : String) : Port := ⟨id, id, .float, none⟩

/-- A kind with two inputs. -/
def sum : Kind where
  id := "sum"
  name := "Sum"
  category := .blend
  description := ""
  icon := ""
  template := Kind.namePlaceholder
  inputs := [port "left", port "right"]
  output := port "total"
  moreOutputs := []

/-- A catalog of one kind. -/
def catalog : Catalog := ⟨[sum]⟩

/-- A block that holds the given connections, each by port, source and output. -/
def block (id kind : String) (connections : List (String × String × String)) : Block :=
  ⟨id, kind, connections.map fun (port, source, output) => (port, .connection source output), .zero⟩

/-- A block with nothing to read from. -/
def near : Block := block "near" "sum" []

/-- A block that reads from `near`; its other connections count for nothing. -/
def far : Block :=
  block "far" "sum" [("left", "near", "total"), ("right", "gone", "total"), ("aside", "far", "total")]

/-- A block of no known kind. -/
def odd : Block := block "odd" "unknown" [("left", "odd", "total")]

/-- Blocks out of order, one id twice. -/
def tangled : List Block := [far, odd, near, block "far" "sum" [("left", "far", "total")]]

/-- The same blocks in order, each id once. -/
def untangled : List Block := [near, far, odd]

/-- Two blocks that read from each other. -/
def knot : List Block := [
  block "here" "sum" [("left", "there", "total")],
  block "there" "sum" [("right", "here", "total")]]

end Sample

/-! ## Sorted blocks -/

namespace Block

variable {c : Catalog} {blocks ordered : List Block} {b : Block}

/-- The blocks found for ids that occur have these ids, in the same order, so nothing is lost on
the way from ids to blocks. -/
theorem map_id_filterMap_find? (blocks : List Block) :
    ∀ (ids : List String), (∀ x ∈ ids, x ∈ blocks.map Block.id) →
      (ids.filterMap (Block.find? blocks)).map Block.id = ids := by
  intro ids
  induction ids with
  | nil => exact fun _ => rfl
  | cons x rest ih =>
    intro occur
    obtain ⟨b, found⟩ := exists_find?_iff.mpr (occur x (by simp))
    rw [List.filterMap_cons_some found, List.map_cons, id_eq_of_find? found,
      ih fun y hy => occur y (List.mem_cons_of_mem _ hy)]

/-- Sorted blocks are the blocks found for the ids of a walk that ends well. Everything about
sorted blocks starts from this walk. -/
theorem walk_of_sort (sorted : Block.sort c blocks = .ok ordered) :
    ∃ order, (Dependencies.network c blocks).walk = .ok order ∧
      ordered = order.filterMap (Block.find? blocks) := by
  unfold Block.sort at sorted
  cases walked : (Dependencies.network c blocks).walk with
  | error x => rw [walked] at sorted; cases sorted
  | ok order => rw [walked] at sorted; cases sorted; exact ⟨order, rfl, rfl⟩

/-- Blocks that cannot be sorted have a walk that is cut short, at the id that is named. -/
theorem walk_of_sort_error {x : String} (refused : Block.sort c blocks = .error x) :
    (Dependencies.network c blocks).walk = .error x := by
  unfold Block.sort at refused
  cases walked : (Dependencies.network c blocks).walk with
  | error y => rw [walked] at refused; cases refused; rfl
  | ok order => rw [walked] at refused; cases refused

/-- The ids of sorted blocks are the nodes of their network, in order: each once, and each behind
those that it depends on. -/
theorem inOrder_of_sort (sorted : Block.sort c blocks = .ok ordered) :
    (Dependencies.network c blocks).InOrder (ordered.map Block.id) := by
  obtain ⟨order, walked, rfl⟩ := walk_of_sort sorted
  have inOrder := Network.walk_ok walked
  rw [map_id_filterMap_find? blocks order fun x hx =>
    Dependencies.mem_nodes_iff.mp ((inOrder.mem_iff x).mp hx)]
  exact inOrder

/-- The sorted blocks are the first blocks of their ids. No block is made up, and none is lost but
those whose id has come before. -/
theorem mem_iff_of_sort (sorted : Block.sort c blocks = .ok ordered) :
    b ∈ ordered ↔ Block.find? blocks b.id = some b := by
  obtain ⟨order, walked, rfl⟩ := walk_of_sort sorted
  rw [List.mem_filterMap]
  constructor
  · rintro ⟨x, _, found⟩
    rw [id_eq_of_find? found]
    exact found
  · intro found
    have occurs := exists_find?_iff.mp ⟨b, found⟩
    exact ⟨b.id, ((Network.walk_ok walked).mem_iff b.id).mpr (Dependencies.mem_nodes_iff.mpr occurs),
      found⟩

/-- A sorted block is one of the blocks that were given; used where only this much is needed of
it. -/
theorem mem_of_mem_sort (sorted : Block.sort c blocks = .ok ordered) (hb : b ∈ ordered) :
    b ∈ blocks :=
  List.mem_of_find?_eq_some ((mem_iff_of_sort sorted).mp hb)

/-- Some block is left of blocks that are sorted, namely the first of them, so a program of blocks
has a last call to show. -/
theorem sort_ne_nil (sorted : Block.sort c blocks = .ok ordered) (nonempty : blocks ≠ []) :
    ordered ≠ [] := by
  obtain ⟨b, hb⟩ := List.exists_mem_of_ne_nil blocks nonempty
  obtain ⟨first, found⟩ := exists_find?_iff.mpr (List.mem_map_of_mem hb)
  rw [← id_eq_of_find? found] at found
  exact List.ne_nil_of_mem ((mem_iff_of_sort sorted).mpr found)

/-- **A sorted list holds the first block of each id, once, and nothing else; and
every block stands behind the blocks it reads from.** -/
theorem sort_ok_behind_sources (sorted : Block.sort c blocks = .ok ordered) :
    (∀ b, b ∈ ordered ↔ Block.find? blocks b.id = some b) ∧
    (ordered.map Block.id).Nodup ∧
    ∀ (i : Nat) (b : Block), ordered[i]? = some b →
      ∀ source, b.Reads c source → source ∈ blocks.map Block.id →
        ∃ j origin, j < i ∧ ordered[j]? = some origin ∧
          Block.find? blocks source = some origin := by
  have inOrder := inOrder_of_sort sorted
  refine ⟨fun b => mem_iff_of_sort sorted, inOrder.nodup, fun i b at_i source reads occurs => ?_⟩
  have found := (mem_iff_of_sort sorted).mp (List.mem_of_getElem? at_i)
  have edge := Dependencies.edge_iff.mpr ⟨⟨b, found, reads⟩, occurs⟩
  obtain ⟨j, before, placed⟩ := inOrder.behind i b.id (by rw [List.getElem?_map, at_i]; rfl) source edge
  rw [List.getElem?_map] at placed
  obtain ⟨origin, at_j, rfl⟩ := Option.map_eq_some_iff.mp placed
  exact ⟨j, origin, before, at_j, (mem_iff_of_sort sorted).mp (List.mem_of_getElem? at_j)⟩

/-- Of two blocks with one id the first counts, a block of unknown kind depends
on nothing, and a connection from nowhere or under an undeclared port is no
dependency. The block that is read from comes to stand in front. -/
theorem sort_ok_behind_sources_tangled :
    Block.sort Sample.catalog Sample.tangled = .ok Sample.untangled ∧
      ∃ j origin, j < 1 ∧ Sample.untangled[j]? = some origin ∧
        Block.find? Sample.tangled "near" = some origin := by
  have sorted : Block.sort Sample.catalog Sample.tangled = .ok Sample.untangled := by cbv
  have reads : Block.Reads Sample.catalog Sample.far "near" :=
    ⟨Sample.sum, Sample.port "left", "total", by cbv, by simp [Sample.sum], by cbv⟩
  exact ⟨sorted, (sort_ok_behind_sources sorted).2.2 1 Sample.far rfl "near" reads (by decide)⟩

/-- Blocks that are sorted have no cycle among their dependencies, for an order in which each
stands behind what it depends on leaves no room for one. -/
theorem acyclic_of_sort (sorted : Block.sort c blocks = .ok ordered) (x : String) :
    ¬ TransGen (Block.Depends c blocks) x x := by
  rw [← Dependencies.edge_eq_depends]
  exact (inOrder_of_sort sorted).acyclic x

/-- The id that is named when blocks cannot be sorted lies on a cycle of dependencies, and not only
on a path that leads to one. -/
theorem cycle_of_sort {x : String} (refused : Block.sort c blocks = .error x) :
    TransGen (Block.Depends c blocks) x x := by
  rw [← Dependencies.edge_eq_depends]
  exact Network.walk_error (walk_of_sort_error refused)

/-- Blocks can be sorted exactly when no id depends on itself, through however many others. -/
theorem exists_sort_iff_acyclic :
    (∃ ordered, Block.sort c blocks = .ok ordered) ↔ ∀ x, ¬ TransGen (Depends c blocks) x x := by
  constructor
  · rintro ⟨ordered, sorted⟩
    exact acyclic_of_sort sorted
  · intro acyclic
    cases sorted : Block.sort c blocks with
    | ok ordered => exact ⟨ordered, rfl⟩
    | error x => exact absurd (cycle_of_sort sorted) (acyclic x)

/-- **Blocks cannot be sorted exactly when their dependencies have a cycle, and the id that is
named lies on one.** Without a cycle they are sorted; there is no third outcome. -/
theorem sort_error_iff_cycle (c : Catalog) (blocks : List Block) :
    ((∃ x, Block.sort c blocks = .error x) ↔ ∃ x, TransGen (Block.Depends c blocks) x x) ∧
    (∀ x, Block.sort c blocks = .error x → TransGen (Block.Depends c blocks) x x) ∧
    ((∃ ordered, Block.sort c blocks = .ok ordered) ↔
      ¬ ∃ x, TransGen (Block.Depends c blocks) x x) := by
  refine ⟨⟨?_, ?_⟩, fun x => cycle_of_sort, ⟨?_, ?_⟩⟩
  · rintro ⟨x, refused⟩
    exact ⟨x, cycle_of_sort refused⟩
  · rintro ⟨x, cycle⟩
    cases sorted : Block.sort c blocks with
    | ok ordered => exact absurd cycle (acyclic_of_sort sorted x)
    | error y => exact ⟨y, rfl⟩
  · rintro ⟨ordered, sorted⟩ ⟨x, cycle⟩
    exact acyclic_of_sort sorted x cycle
  · intro acyclic
    cases sorted : Block.sort c blocks with
    | ok ordered => exact ⟨ordered, rfl⟩
    | error x => exact absurd ⟨x, cycle_of_sort sorted⟩ acyclic

/-- Two blocks that read from each other, and the first of them is named. -/
theorem sort_error_iff_cycle_knot :
    Block.sort Sample.catalog Sample.knot = .error "here" ∧
      TransGen (Block.Depends Sample.catalog Sample.knot) "here" "here" := by
  have refused : Block.sort Sample.catalog Sample.knot = .error "here" := by cbv
  exact ⟨refused, (sort_error_iff_cycle Sample.catalog Sample.knot).2.1 "here" refused⟩

/-- Blocks sorted by visits: the recursion in place of the walk. -/
def sortByVisits (c : Catalog) (blocks : List Block) : Except String (List Block) :=
  (Dependencies.network c blocks).visitAll.map fun order => order.filterMap (Block.find? blocks)

/-- **Visits to ids**, told of the blocks alone: what is known before, the ids in turn, and what
is known after, or the id that closes a cycle. An id stands for the first block that has it, and a
block leads to the sources of its declared inputs, in the order of the ports. -/
inductive Visits (c : Catalog) (blocks : List Block) :
    Seen String → List String → Except String (Seen String) → Prop
  /-- No id is left. -/
  | done {s : Seen String} : Visits c blocks s [] (.ok s)
  /-- No block has the id, and it is passed over. -/
  | absent {s : Seen String} {x : String} {rest : List String} {r : Except String (Seen String)}
    (missing : Block.find? blocks x = none) (later : Visits c blocks s rest r) :
    Visits c blocks s (x :: rest) r
  /-- The block has been visited before. -/
  | finished {s : Seen String} {x : String} {b : Block} {rest : List String}
    {r : Except String (Seen String)} (found : Block.find? blocks x = some b)
    (marked : Walk.mark? s.marks x = some .finished) (later : Visits c blocks s rest r) :
    Visits c blocks s (x :: rest) r
  /-- The block is being visited, so it lies on a cycle. -/
  | cyclic {s : Seen String} {x : String} {b : Block} {rest : List String}
    (found : Block.find? blocks x = some b)
    (marked : Walk.mark? s.marks x = some .inProgress) : Visits c blocks s (x :: rest) (.error x)
  /-- The block is new, and comes behind the sources it reads from. -/
  | entered {s t : Seen String} {x : String} {b : Block} {rest : List String}
    {r : Except String (Seen String)} (found : Block.find? blocks x = some b)
    (new : Walk.mark? s.marks x = none)
    (inner : Visits c blocks (s.enter x) (Dependencies.sources c b) (.ok t))
    (later : Visits c blocks (t.finish x) rest r) : Visits c blocks s (x :: rest) r
  /-- The block is new, and a cycle is closed among the sources it reads from. -/
  | stopped {s : Seen String} {x y : String} {b : Block} {rest : List String}
    (found : Block.find? blocks x = some b) (new : Walk.mark? s.marks x = none)
    (inner : Visits c blocks (s.enter x) (Dependencies.sources c b) (.error y)) :
    Visits c blocks s (x :: rest) (.error y)

section Visits

open Dependencies

variable {c : Catalog} {blocks : List Block} {b : Block} {x : String} {xs : List String}
  {s : Seen String} {r : Except String (Seen String)}

/-- An id for which a block is found is a node, so that a visit to it takes place. -/
theorem mem_nodes_of_find? (found : Block.find? blocks x = some b) : x ∈ (network c blocks).nodes :=
  mem_nodes_iff.mpr (exists_find?_iff.mp ⟨b, found⟩)

/-- An id for which no block is found is no node, so that a visit to it is passed over. -/
theorem not_mem_nodes_of_find? (missing : Block.find? blocks x = none) :
    x ∉ (network c blocks).nodes := by
  rw [mem_nodes_iff, ← exists_find?_iff, missing]
  simp

/-- A new block is put behind the sources of its declared inputs. The equation of the recursion at
a new node, with the network taken out of it. -/
theorem after_network_of_new (found : Block.find? blocks x = some b)
    (new : Walk.mark? s.marks x = none) :
    (network c blocks).after s (x :: xs) =
      (network c blocks).after (s.enter x) (sources c b) >>=
        fun t => (network c blocks).after (t.finish x) xs := by
  have successors : (network c blocks).successors x = sources c b := by
    rw [successors_network, found]
    rfl
  rw [Network.after_cons_of_new (mem_nodes_of_find? found) new, successors]

/-- What visits come to is what the recursion over the network gives, so visits can come to one
thing only. By induction on the visits, one case for each constructor. -/
theorem Visits.after_eq (visits : Visits c blocks s xs r) : (network c blocks).after s xs = r := by
  induction visits with
  | done => exact Network.after_nil
  | absent missing _ ih => rw [Network.after_cons_of_not_mem (not_mem_nodes_of_find? missing), ih]
  | finished found marked _ ih =>
    rw [Network.after_cons_of_finished (mem_nodes_of_find? found) marked, ih]
  | cyclic found marked => exact Network.after_cons_of_inProgress (mem_nodes_of_find? found) marked
  | entered found new _ _ inner later =>
    rw [after_network_of_new found new, inner]
    exact later
  | stopped found new _ inner =>
    rw [after_network_of_new found new, inner]
    rfl

/-- The recursion over the network visits blocks. The induction is on a bound for the nodes not met
yet and the ids still to come, as in the recursion itself: a new block is one node less, and it
weighs more than the sources it adds. -/
theorem visits_after (bound : Nat) : ∀ {s : Seen String} {xs : List String},
    s.unmet (network c blocks) + xs.length ≤ bound →
      Visits c blocks s xs ((network c blocks).after s xs) := by
  induction bound with
  | zero =>
    intro s xs enough
    obtain rfl : xs = [] := List.length_eq_zero_iff.mp (by omega)
    rw [Network.after_nil]
    exact .done
  | succ bound ih =>
    intro s xs enough
    cases xs with
    | nil =>
      rw [Network.after_nil]
      exact .done
    | cons x rest =>
      rw [List.length_cons] at enough
      cases found : Block.find? blocks x with
      | none =>
        rw [Network.after_cons_of_not_mem (not_mem_nodes_of_find? found)]
        exact .absent found (ih (by omega))
      | some b =>
        have node : x ∈ (network c blocks).nodes := mem_nodes_of_find? found
        cases marked : Walk.mark? s.marks x with
        | some mark =>
          cases mark with
          | finished =>
            rw [Network.after_cons_of_finished node marked]
            exact .finished found marked (ih (by omega))
          | inProgress =>
            rw [Network.after_cons_of_inProgress node marked]
            exact .cyclic found marked
        | none =>
          have fewer := Walk.unmetWeight_cons_of_unmet (network c blocks) x .inProgress s.marks
            (network c blocks).nodes node marked
          rw [successors_network, found] at fewer
          have inner : (s.enter x).unmet (network c blocks) + (sources c b).length + 2 ≤
            s.unmet (network c blocks) := fewer
          have visits : Visits c blocks (s.enter x) (sources c b) _ := ih (by omega)
          rw [after_network_of_new found marked]
          cases ended : (network c blocks).after (s.enter x) (sources c b) with
          | error y =>
            rw [ended] at visits
            exact .stopped found marked visits
          | ok t =>
            rw [ended] at visits
            have unmet := Network.unmet_le_of_after ended
            have finished : (t.finish x).unmet (network c blocks) ≤ t.unmet (network c blocks) :=
              Walk.unmetWeight_cons_le _ x .finished t.marks _
            exact .entered found marked visits (ih (by omega))

/-- **The recursion that sorts is the visits to the blocks.** It goes over first occurrences and
declared inputs, and the network that carries it adds nothing to them. -/
theorem visits_iff_after : Visits c blocks s xs r ↔ (network c blocks).after s xs = r := by
  refine ⟨Visits.after_eq, ?_⟩
  rintro rfl
  exact visits_after _ le_rfl

/-- Blocks are sorted by visits to every id in the order the ids first occur; the blocks found for
the ids that were finished are the sorted ones. -/
theorem sortByVisits_eq_of_visits (visits : Visits c blocks .nothing ((firsts blocks).map Block.id) r) :
    sortByVisits c blocks = r.map fun t => t.order.filterMap (Block.find? blocks) := by
  rw [sortByVisits, Network.visitAll, nodes_network, visits.after_eq]
  cases r <;> rfl

end Visits

/-- **Sorting gives what sorting by recursion gives**: the same blocks in the
same order, or the same id on a cycle. -/
theorem sort_eq_sortByVisits (c : Catalog) (blocks : List Block) :
    Block.sort c blocks = Block.sortByVisits c blocks := by
  rw [sortByVisits, Network.visitAll_eq_walk]
  rfl

end Block

end ShaderGraph
