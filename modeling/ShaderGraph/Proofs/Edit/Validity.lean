import ShaderGraph.Edit.Basic
import ShaderGraph.Proofs.Check
import ShaderGraph.Proofs.Graph.Block

/-!
# Editing keeps a graph valid

A list of blocks without problems stays without problems however it is edited:
by new blocks, by clones and by removals, in any order and any number
(`Block.problems_eq_nil_along_edits`).

The four sides of the check are said once as what holds of the blocks
(`Block.Sound`), without the functions that look for problems. A block added at
the end reads from blocks that are there, and nobody reads from it yet; a removed
block takes the connections from it along. So one edit keeps soundness
(`Block.Edit.sound`), and with it every list that edits lead to is sound.
-/

namespace ShaderGraph

open Relation

/-- The identifiers a block declares; a block of unknown kind has none. -/
def Names.identifiersOf (c : Catalog) (b : Block) : List String :=
  ((c.find? b.kindId).map (Names.declared · b.id)).getD []

/-- The identifiers of a block are those that its kind makes of its id; values and connections add
none. -/
theorem Names.identifiersOf_eq_declared {c : Catalog} {b : Block} {kind : Kind}
    (known : c.find? b.kindId = some kind) : identifiersOf c b = declared kind b.id := by
  rw [identifiersOf, known, Option.map_some, Option.getD_some]

/-! ## A small graph and its edits -/

namespace Sample

/-- A block that reads from `near`. -/
def linked : Block := block "linked" "sum" [("left", "near", "total")]

/-- A block that is read from, and one that reads from it. -/
def chained : List Block := [near, linked]

/-- With a block that holds nothing. -/
def extended : List Block := chained ++ [Block.create "spare" "sum" .zero]

/-- With a second block that reads from `near`. -/
def doubled : List Block := extended ++ [linked.clone "twin" Block.cloneOffset]

end Sample

namespace Block

variable {c : Catalog} {blocks : List Block} {b : Block} {x y : String}

/-! ## Values of a port -/

/-- The values of a block are a table: no port stands in it twice. -/
def SingleValued (b : Block) : Prop := (b.inputs.map Prod.fst).Nodup

/-- The value of a port is the one that is found under its name, unless this is a null that nobody
checked. Such a null counts as no value, and the default is used. -/
theorem value?_eq_some_iff {port : String} {value : PortValue} :
    b.value? port = some value ↔
      Keyed.find? (.text port) b.inputs = some value ∧ value ≠ .unchecked .null := by
  unfold value?
  split
  next null =>
    rw [null, Option.some_inj]
    simpa using Eq.symm
  next other =>
    refine ⟨fun found => ⟨found, ?_⟩, And.left⟩
    rintro rfl
    exact other found

/-- Where no port stands twice, the value of a port is the one among the inputs, and no other
value hides behind it. -/
theorem SingleValued.value?_eq_some_iff (single : b.SingleValued) {port : String}
    {value : PortValue} :
    b.value? port = some value ↔ (.text port, value) ∈ b.inputs ∧ value ≠ .unchecked .null := by
  rw [Block.value?_eq_some_iff, Keyed.find?_eq_some_iff single]

/-- Scrubbing takes the connections from one block away and leaves every other value. If a port
stood twice, a hidden second value would come to light. -/
theorem SingleValued.value?_scrub (single : b.SingleValued) {source port : String}
    {value : PortValue} :
    (b.scrub source).value? port = some value ↔
      b.value? port = some value ∧ comesFrom source value = false := by
  have kept : (b.scrub source).SingleValued :=
    List.Nodup.sublist (List.filter_sublist.map Prod.fst) single
  rw [kept.value?_eq_some_iff, single.value?_eq_some_iff]
  simp only [scrub, List.mem_filter, Bool.not_eq_true', and_right_comm]

/-! ## Sound graphs -/

/-- The kind of a block is known, and every connection it holds for a declared
input comes from an output that is there. -/
def Resolved (c : Catalog) (blocks : List Block) (b : Block) : Prop :=
  ∃ kind, c.find? b.kindId = some kind ∧ ∀ port ∈ kind.inputs, ∀ source output,
    b.value? port.id = some (.connection source output) →
      (outputOf? c blocks source output).isSome

/-- What the check of a graph asks for. -/
structure Sound (c : Catalog) (blocks : List Block) : Prop where
  acyclic : ∀ x, ¬ TransGen (Depends c blocks) x x
  distinct : (blocks.map Block.id).Nodup
  resolved : ∀ b ∈ blocks, b.Resolved c blocks
  apart : ∀ b ∈ blocks, ∀ other ∈ blocks, b.id ≠ other.id →
    (Names.identifiersOf c b).Disjoint (Names.identifiersOf c other)

/-- Nothing is wrong with a block exactly when its kind is known and its declared connections lead
to outputs. -/
theorem blockProblems_eq_nil_iff_resolved :
    blockProblems c blocks b = [] ↔ b.Resolved c blocks := by
  simp only [blockProblems_eq_nil_iff, portProblem?_eq_none_iff, Resolved]

/-- The blocks that declare an identifier, where no id repeats: all blocks count then, and not
only the first ones. -/
theorem mem_declarations_iff_of_distinct (distinct : (blocks.map Block.id).Nodup)
    {identifier : String} :
    (x, identifier) ∈ Names.declarations c blocks ↔
      ∃ b ∈ blocks, b.id = x ∧ identifier ∈ Names.identifiersOf c b := by
  rw [Names.mem_declarations_iff]
  constructor
  · rintro ⟨b, kind, found, known, declares⟩
    have id_eq := id_eq_of_find? found
    refine ⟨b, List.mem_of_find?_eq_some found, id_eq, ?_⟩
    rw [Names.identifiersOf_eq_declared known, id_eq]
    exact declares
  · rintro ⟨b, hb, rfl, declares⟩
    cases known : c.find? b.kindId with
    | none => simp [Names.identifiersOf, known] at declares
    | some kind =>
      refine ⟨b, kind, find?_id_of_mem distinct hb, known, ?_⟩
      rw [← Names.identifiersOf_eq_declared known]
      exact declares

/-- No names collide exactly when different blocks declare different identifiers. One block may
declare an identifier twice. -/
theorem collisions_eq_nil_iff_apart (distinct : (blocks.map Block.id).Nodup) :
    Names.collisions c blocks = [] ↔
      ∀ b ∈ blocks, ∀ other ∈ blocks, b.id ≠ other.id →
        (Names.identifiersOf c b).Disjoint (Names.identifiersOf c other) := by
  simp only [Names.collisions_eq_nil_iff, mem_declarations_iff_of_distinct distinct]
  constructor
  · intro same b hb other hother different identifier declares declares'
    exact different (same _ _ identifier ⟨b, hb, rfl, declares⟩ ⟨other, hother, rfl, declares'⟩)
  · rintro apart _ _ identifier ⟨b, hb, rfl, declares⟩ ⟨other, hother, rfl, declares'⟩
    by_contra different
    exact apart b hb other hother different declares declares'

/-- A graph has no problem exactly when it is sound. Edits are shown to keep it sound part by
part, which lists of diagnostics would not allow. -/
theorem problems_eq_nil_iff_sound : problems c blocks = [] ↔ Sound c blocks := by
  rw [problems_eq_nil_iff]
  simp only [exists_sort_iff_acyclic, blockProblems_eq_nil_iff_resolved]
  constructor
  · rintro ⟨acyclic, distinct, resolved, apart⟩
    exact ⟨acyclic, distinct, resolved, (collisions_eq_nil_iff_apart distinct).mp apart⟩
  · rintro ⟨acyclic, distinct, resolved, apart⟩
    exact ⟨acyclic, distinct, resolved, (collisions_eq_nil_iff_apart distinct).mpr apart⟩

/-! ## A block more -/

/-- A block that is new to a list: no block has its id, and no block declares an
identifier that it declares. -/
structure Fresh (c : Catalog) (blocks : List Block) (b : Block) : Prop where
  id : b.id ∉ blocks.map Block.id
  identifiers : ∀ other ∈ blocks,
    (Names.identifiersOf c b).Disjoint (Names.identifiersOf c other)

/-- An output is found only for a block that is there. -/
theorem mem_of_outputOf? {source output : String} (sent : (outputOf? c blocks source output).isSome) :
    source ∈ blocks.map Block.id := by
  rw [← exists_find?_iff]
  cases found : Block.find? blocks source with
  | none => simp [outputOf?, found] at sent
  | some origin => exact ⟨origin, rfl⟩

/-- A resolved block reads from blocks that are there, so it does not depend on one that is added
later. -/
theorem Resolved.mem_of_reads (resolved : b.Resolved c blocks) (reads : b.Reads c y) :
    y ∈ blocks.map Block.id := by
  obtain ⟨kind, known, ports⟩ := resolved
  obtain ⟨_, port, output, known', hport, held⟩ := reads
  cases known.symm.trans known'
  exact mem_of_outputOf? (ports port hport y output held)

/-- A block stays resolved when another is added at the end, for the first block of an id is the
one that counts. -/
theorem Resolved.append {last : Block} (resolved : b.Resolved c blocks) :
    b.Resolved c (blocks ++ [last]) := by
  obtain ⟨kind, known, ports⟩ := resolved
  refine ⟨kind, known, fun port hport source output held => ?_⟩
  have sent := ports port hport source output held
  rw [outputOf?, find?_append_of_mem (mem_of_outputOf? sent)]
  exact sent

/-- Nobody depends on a block that has just been added, and the others depend on what they
depended on. The new block only reads, and from old blocks. -/
theorem Sound.depends_append (sound : Sound c blocks) (resolved : b.Resolved c blocks)
    (depends : Depends c (blocks ++ [b]) x y) :
    y ∈ blocks.map Block.id ∧ (x ∈ blocks.map Block.id → Depends c blocks x y) := by
  obtain ⟨⟨reader, found, reads⟩, _⟩ := depends
  have target : y ∈ blocks.map Block.id := by
    rcases List.mem_append.mp (List.mem_of_find?_eq_some found) with old | new
    · exact (sound.resolved reader old).mem_of_reads reads
    · cases List.mem_singleton.mp new
      exact resolved.mem_of_reads reads
  refine ⟨target, fun occurs => ⟨⟨reader, ?_, reads⟩, target⟩⟩
  rw [← found, find?_append_of_mem occurs]

/-- A block added at the end closes no cycle, since nothing depends on it. -/
theorem Sound.acyclic_append (sound : Sound c blocks) (resolved : b.Resolved c blocks) (x : String) :
    ¬ TransGen (Depends c (blocks ++ [b])) x x := by
  -- A path that starts at an old block never leaves the old blocks.
  have old : ∀ {x y}, TransGen (Depends c (blocks ++ [b])) x y → x ∈ blocks.map Block.id →
      TransGen (Depends c blocks) x y := by
    intro x y path
    induction path using TransGen.head_induction_on with
    | single last => exact fun occurs => .single ((sound.depends_append resolved last).2 occurs)
    | head first _ ih =>
      intro occurs
      obtain ⟨target, kept⟩ := sound.depends_append resolved first
      exact .head (kept occurs) (ih target)
  intro cycle
  obtain ⟨_, _, last⟩ := TransGen.tail'_iff.mp cycle
  exact sound.acyclic x (old cycle (sound.depends_append resolved last).1)

/-- A new block whose connections are resolved can be added. Its id and its identifiers have to be
new, or it would repeat the one or collide in the others. -/
theorem Sound.append (sound : Sound c blocks) (fresh : Fresh c blocks b)
    (resolved : b.Resolved c blocks) : Sound c (blocks ++ [b]) where
  acyclic := sound.acyclic_append resolved
  distinct := by
    rw [List.map_append, List.map_singleton, ← List.concat_eq_append, List.nodup_concat]
    exact ⟨fresh.id, sound.distinct⟩
  resolved := by
    rw [List.forall_mem_append, List.forall_mem_singleton]
    exact ⟨fun old hold => (sound.resolved old hold).append, resolved.append⟩
  apart := by
    intro first hfirst second hsecond different
    rcases List.mem_append.mp hfirst with old | new
    · rcases List.mem_append.mp hsecond with old' | new'
      · exact sound.apart first old second old' different
      · cases List.mem_singleton.mp new'
        exact List.disjoint_symm (fresh.identifiers first old)
    · cases List.mem_singleton.mp new
      rcases List.mem_append.mp hsecond with old' | new'
      · exact fresh.identifiers second old'
      · cases List.mem_singleton.mp new'
        exact absurd rfl different

/-- A block without values has nothing to resolve but its kind, so only the kind has to be known
when it is made. -/
theorem resolved_create {id kindId : String} {kind : Kind} (known : c.find? kindId = some kind)
    (position : Position) : (create id kindId position).Resolved c blocks :=
  ⟨kind, known, fun _ _ _ _ held => nomatch held⟩

/-- A clone reads from where the block reads from, and so is resolved if the block is. -/
theorem Resolved.clone (resolved : b.Resolved c blocks) (id : String) (offset : Position) :
    (b.clone id offset).Resolved c blocks := resolved

/-! ## A block less -/

/-- A removed id is found no more, and other blocks are found without their connections from it.
Which of several blocks of an id is found stays the same. -/
theorem find?_remove (id : String) (blocks : List Block) (x : String) :
    Block.find? (remove id blocks) x =
      if x = id then none else (Block.find? blocks x).map (scrub id) := by
  rw [remove, Block.find?, List.find?_map, List.find?_filter]
  split
  next same =>
    subst same
    rw [Option.map_eq_none_iff, List.find?_eq_none]
    simp [scrub]
  next other =>
    rw [Block.find?]
    congr 2
    funext b
    by_cases same : b.id = x
    · simp [scrub, same, other]
    · simp [scrub, same]

/-- A block that is found after a removal was found before, with the connections that it has
lost. -/
theorem exists_of_find?_remove {id : String} (found : Block.find? (remove id blocks) x = some b) :
    ∃ old, Block.find? blocks x = some old ∧ old.scrub id = b := by
  rw [find?_remove] at found
  split at found
  · cases found
  · exact Option.map_eq_some_iff.mp found

/-- Removing a block leaves the outputs of the others, for neither ids nor kinds of what is left
have changed. -/
theorem outputOf?_remove {id source output : String} (other : source ≠ id) :
    outputOf? c (remove id blocks) source output = outputOf? c blocks source output := by
  rw [outputOf?, outputOf?, find?_remove, if_neg other]
  cases Block.find? blocks source <;> rfl

/-- A scrubbed block reads from nothing that it did not read from before. -/
theorem SingleValued.reads_of_scrub (single : b.SingleValued) {id : String}
    (reads : (b.scrub id).Reads c y) : b.Reads c y := by
  obtain ⟨kind, port, output, known, hport, held⟩ := reads
  exact ⟨kind, port, output, known, hport, (single.value?_scrub.mp held).1⟩

/-- Removing a block adds no dependency, so a graph without cycles stays without them. -/
theorem depends_of_remove (single : ∀ b ∈ blocks, b.SingleValued) {id : String}
    (depends : Depends c (remove id blocks) x y) : Depends c blocks x y := by
  obtain ⟨⟨reader, found, reads⟩, occurs⟩ := depends
  obtain ⟨_, target⟩ := exists_find?_iff.mpr occurs
  obtain ⟨old, first, rfl⟩ := exists_of_find?_remove found
  obtain ⟨origin, source, _⟩ := exists_of_find?_remove target
  have hold := List.mem_of_find?_eq_some first
  exact ⟨⟨old, first, (single old hold).reads_of_scrub reads⟩, exists_find?_iff.mp ⟨origin, source⟩⟩

/-- A block that is kept holds no connection from the removed one, and its others lead where they
led. This is why connections are scrubbed and not left to dangle. -/
theorem Resolved.scrub (resolved : b.Resolved c blocks) (single : b.SingleValued) (id : String) :
    (b.scrub id).Resolved c (remove id blocks) := by
  obtain ⟨kind, known, ports⟩ := resolved
  refine ⟨kind, known, fun port hport source output held => ?_⟩
  obtain ⟨held, elsewhere⟩ := single.value?_scrub.mp held
  rw [outputOf?_remove (by simpa [comesFrom] using elsewhere)]
  exact ports port hport source output held

/-- A block that is left after a removal was there before, with the connections that it has
lost. -/
theorem exists_of_mem_remove {id : String} (hb : b ∈ remove id blocks) :
    ∃ old ∈ blocks, old.scrub id = b := by
  obtain ⟨old, hold, rfl⟩ := List.mem_map.mp hb
  exact ⟨old, List.mem_of_mem_filter hold, rfl⟩

/-- Any block can be removed from a sound graph, also one that others read from, and also an id
that is not there. -/
theorem Sound.remove (sound : Sound c blocks) (single : ∀ b ∈ blocks, b.SingleValued)
    (id : String) : Sound c (remove id blocks) where
  acyclic x cycle := sound.acyclic x (TransGen.mono (fun _ _ => depends_of_remove single) x x cycle)
  distinct := by
    have ids : (Block.remove id blocks).map Block.id = (blocks.filter (·.id != id)).map Block.id := by
      simp [Block.remove, Block.scrub, Function.comp_def]
    rw [ids]
    exact sound.distinct.sublist (List.filter_sublist.map Block.id)
  resolved := by
    intro b hb
    obtain ⟨old, hold, rfl⟩ := exists_of_mem_remove hb
    exact (sound.resolved old hold).scrub (single old hold) id
  apart := by
    intro first hfirst second hsecond different
    obtain ⟨old, hold, rfl⟩ := exists_of_mem_remove hfirst
    obtain ⟨old', hold', rfl⟩ := exists_of_mem_remove hsecond
    exact sound.apart old hold old' hold' different

/-! ## Edits -/

/-- One edit of a list of blocks: a new block of a known kind or a clone of a block
comes last, or an id is removed. -/
inductive Edit (c : Catalog) (blocks : List Block) : List Block → Prop
  | create (id kindId : String) (position : Position) {kind : Kind}
      (known : c.find? kindId = some kind)
      (fresh : Fresh c blocks (create id kindId position)) :
    Edit c blocks (blocks ++ [create id kindId position])
  | clone (id : String) (offset : Position) {b : Block} (member : b ∈ blocks)
      (fresh : Fresh c blocks (b.clone id offset)) :
    Edit c blocks (blocks ++ [b.clone id offset])
  | remove (id : String) : Edit c blocks (remove id blocks)

/-- An edit keeps the values of every block a table: new blocks hold none, clones hold those of a
block, and removals only take away. -/
theorem Edit.singleValued {edited : List Block} (edit : Edit c blocks edited)
    (single : ∀ b ∈ blocks, b.SingleValued) : ∀ b ∈ edited, b.SingleValued := by
  cases edit with
  | create id kindId position =>
    rw [List.forall_mem_append, List.forall_mem_singleton]
    exact ⟨single, List.nodup_nil⟩
  | clone id offset member =>
    rw [List.forall_mem_append, List.forall_mem_singleton]
    exact ⟨single, (single _ member : SingleValued _)⟩
  | remove id =>
    intro b hb
    obtain ⟨old, hold, rfl⟩ := exists_of_mem_remove hb
    exact (single old hold).sublist (List.filter_sublist.map Prod.fst)

/-- **Step.** An edit keeps a graph sound. New blocks and clones are added at the end, where
nothing reads from them yet; removals take their connections with them. -/
theorem Edit.sound {edited : List Block} (edit : Edit c blocks edited)
    (single : ∀ b ∈ blocks, b.SingleValued) (sound : Sound c blocks) : Sound c edited := by
  cases edit with
  | create id kindId position known fresh => exact sound.append fresh (resolved_create known position)
  | clone id offset member fresh => exact sound.append fresh ((sound.resolved _ member).clone id offset)
  | remove id => exact sound.remove single id

/-- **A graph without problems has none after any edits**: new blocks of known
kinds, clones and removals, in any order and any number. A new block has to be
new in its id and in the identifiers it declares; an id to remove need not be
there. The values of the blocks at the start are tables, one value at most for a
port. -/
theorem problems_eq_nil_along_edits {later : List (List Block)}
    (edits : List.IsChain (Edit c) (blocks :: later)) (single : ∀ b ∈ blocks, b.SingleValued)
    (valid : problems c blocks = []) : ∀ state ∈ blocks :: later, problems c state = [] := by
  induction later generalizing blocks with
  | nil => simpa using valid
  | cons next later ih =>
    rw [List.isChain_cons_cons] at edits
    obtain ⟨edit, edits⟩ := edits
    have sound := edit.sound single (problems_eq_nil_iff_sound.mp valid)
    refine List.forall_mem_cons.mpr ⟨valid, ?_⟩
    exact ih edits (edit.singleValued single) (problems_eq_nil_iff_sound.mpr sound)

/-- The block that two others read from is removed at last, and their connections with it, so the
graph is still without problems. -/
theorem problems_eq_nil_along_edits_doubled :
    List.IsChain (Edit Sample.catalog)
        [Sample.chained, Sample.extended, Sample.doubled, remove "near" Sample.doubled] ∧
      (∀ b ∈ Sample.chained, b.SingleValued) ∧ problems Sample.catalog Sample.chained = [] ∧
      problems Sample.catalog (remove "near" Sample.doubled) = [] := by
  have extend : Edit Sample.catalog Sample.chained Sample.extended :=
    .create "spare" "sum" .zero (show Sample.catalog.find? "sum" = some Sample.sum by decide)
      ⟨by decide, by simp only [List.disjoint_left]; decide +kernel⟩
  have double : Edit Sample.catalog Sample.extended Sample.doubled :=
    .clone "twin" cloneOffset (b := Sample.linked) (by simp [Sample.extended, Sample.chained])
      ⟨by decide, by simp only [List.disjoint_left]; decide +kernel⟩
  have edits := List.IsChain.cons_cons extend (.cons_cons double
    (.cons_cons (.remove "near") (.singleton _)))
  have single : ∀ b ∈ Sample.chained, b.SingleValued := by
    simp [Sample.chained, Sample.near, Sample.linked, Sample.block, SingleValued]
  have valid : problems Sample.catalog Sample.chained = [] := by decide +kernel
  exact ⟨edits, single, valid, problems_eq_nil_along_edits edits single valid _ (by simp)⟩

end Block

end ShaderGraph
