import ShaderGraph.Check
import ShaderGraph.Proofs.Names.Collision

/-!
# When a graph has no problems

The problems of a list of blocks are gathered from four sides. Each side is
empty under a condition of its own, and together these say when there is no
problem at all (`Block.problems_eq_nil_iff`).

Only what is wrong with the shape of a graph is a problem
(`Block.isStructural_of_mem_problems`).
-/

namespace ShaderGraph

/-- The check of a graph can report this. -/
def Diagnostic.isStructural : Diagnostic → Bool
  | .cycle _ | .duplicateId _ | .invalidKind _ | .missingBlock _ _ | .missingOutput _ _ _
  | .collision _ _ _ => true
  | .nothingToGenerate | .unknownKind _ | .noDefault _ | .unsupportedValue _ _ _ => false

namespace Block

variable {c : Catalog} {blocks : List Block} {b : Block}

/-- No id is reported as repeated when none repeats. By induction on the blocks, for
any ids seen before, since every block adds its own to them. -/
theorem repeatedAfter_eq_nil_iff (blocks : List Block) :
    ∀ (seen : List String), repeatedAfter seen blocks = [] ↔
      (blocks.map Block.id).Nodup ∧ ∀ x ∈ blocks.map Block.id, x ∉ seen := by
  induction blocks with
  | nil => simp [repeatedAfter]
  | cons b rest ih =>
    intro seen
    unfold repeatedAfter
    split
    next repeated =>
      have old : b.id ∈ seen := by simpa using repeated
      constructor
      · exact fun h => by cases h
      · rintro ⟨_, fresh⟩
        exact absurd old (fresh b.id (by simp))
    next new =>
      have fresh : b.id ∉ seen := by simpa using new
      rw [ih (b.id :: seen), List.map_cons, List.nodup_cons]
      constructor
      · rintro ⟨nodup, apart⟩
        refine ⟨⟨fun hb => apart b.id hb (by simp), nodup⟩, ?_⟩
        intro x hx
        rcases List.mem_cons.mp hx with rfl | hx
        · exact fresh
        · exact fun old => apart x hx (List.mem_cons_of_mem _ old)
      · rintro ⟨⟨once, nodup⟩, apart⟩
        refine ⟨nodup, fun x hx old => ?_⟩
        rcases List.mem_cons.mp old with rfl | old
        · exact once hx
        · exact apart x (List.mem_cons_of_mem _ hx) old

/-- Nothing is wrong with a port when its connection, if it holds one, comes from an
output that is there. A port without a connection is never wrong, whatever it
holds. -/
theorem portProblem?_eq_none_iff {port : Port} :
    portProblem? c blocks b port = none ↔
      ∀ source output, b.value? port.id = some (.connection source output) →
        (outputOf? c blocks source output).isSome := by
  unfold portProblem?
  split
  next source output held =>
    rw [held]
    cases found : Block.find? blocks source with
    | none => simp [outputOf?, found]
    | some origin => cases sent : outputOf? c blocks source output <;> simp [sent]
  next other =>
    constructor
    · exact fun _ source output held => absurd held (other source output)
    · exact fun _ => rfl

/-- Nothing is wrong with a block when its kind is known and nothing is wrong with
its ports. An unknown kind declares no ports, and is reported itself. -/
theorem blockProblems_eq_nil_iff :
    blockProblems c blocks b = [] ↔
      ∃ kind, c.find? b.kindId = some kind ∧
        ∀ port ∈ kind.inputs, portProblem? c blocks b port = none := by
  unfold blockProblems
  cases c.find? b.kindId with
  | none => simp
  | some kind => simp [List.filterMap_eq_nil_iff]

/-- No cycle is reported exactly when the blocks can be sorted, for the check sorts
them and reports where this fails. -/
theorem cycleProblem_eq_nil_iff :
    cycleProblem c blocks = [] ↔ ∃ ordered, Block.sort c blocks = .ok ordered := by
  unfold cycleProblem
  cases Block.sort c blocks <;> simp

/-- A list of blocks has no problem when it can be sorted, no id repeats, nothing is
wrong with a block, and no names collide. Each of the four is looked at on its
own. -/
theorem problems_eq_nil_iff :
    problems c blocks = [] ↔
      (∃ ordered, Block.sort c blocks = .ok ordered) ∧ (blocks.map Block.id).Nodup ∧
        (∀ b ∈ blocks, blockProblems c blocks b = []) ∧ Names.collisions c blocks = [] := by
  simp only [problems, List.append_eq_nil_iff, List.flatMap_eq_nil_iff, cycleProblem_eq_nil_iff,
    repeatedAfter_eq_nil_iff, List.not_mem_nil, not_false_eq_true, implies_true, and_true, and_assoc]

/-! ## What is among the problems -/

/-- A cycle that stops the sorting is reported with the id at which it was
noticed. -/
theorem cycle_mem_problems {block : String} (circular : Block.sort c blocks = .error block) :
    .cycle block ∈ problems c blocks := by
  simp [problems, cycleProblem, circular]

/-- A block whose kind is unknown has this reported, also when it only repeats an
id. -/
theorem invalidKind_mem_problems (hb : b ∈ blocks) (unknown : c.find? b.kindId = none) :
    .invalidKind b.kindId ∈ problems c blocks := by
  have reported : .invalidKind b.kindId ∈ blockProblems c blocks b := by
    simp [blockProblems, unknown]
  exact List.mem_append_left _ (List.mem_append_right _ (List.mem_flatMap.mpr ⟨b, hb, reported⟩))

/-- What is wrong with a declared port of a block is reported. Values under ports
that the kind does not declare are not looked at. -/
theorem portProblem_mem_problems {kind : Kind} {port : Port} {d : Diagnostic} (hb : b ∈ blocks)
    (known : c.find? b.kindId = some kind) (hport : port ∈ kind.inputs)
    (wrong : portProblem? c blocks b port = some d) : d ∈ problems c blocks := by
  have reported : d ∈ blockProblems c blocks b := by
    simp only [blockProblems, known]
    exact List.mem_filterMap.mpr ⟨port, hport, wrong⟩
  exact List.mem_append_left _ (List.mem_append_right _ (List.mem_flatMap.mpr ⟨b, hb, reported⟩))

/-- Names that collide are reported along with everything else, even where blocks
cannot be sorted. -/
theorem collisions_subset_problems : Names.collisions c blocks ⊆ problems c blocks :=
  List.subset_append_right _ _

/-- All that is reported of repeated ids is that they repeat, and which ones. -/
theorem exists_of_mem_repeatedAfter {d : Diagnostic} :
    ∀ {blocks : List Block} {seen : List String}, d ∈ repeatedAfter seen blocks →
      ∃ id, d = .duplicateId id
  | [], _, hd => by cases hd
  | b :: rest, seen, hd => by
    unfold repeatedAfter at hd
    split at hd
    · rcases List.mem_cons.mp hd with rfl | hd
      · exact ⟨b.id, rfl⟩
      · exact exists_of_mem_repeatedAfter hd
    · exact exists_of_mem_repeatedAfter hd

/-- What is wrong with a block is its kind or one of its connections, and both are
matters of the shape of the graph. -/
theorem isStructural_of_mem_blockProblems {d : Diagnostic} (hd : d ∈ blockProblems c blocks b) :
    d.isStructural = true := by
  unfold blockProblems at hd
  split at hd
  · cases List.mem_singleton.mp hd
    rfl
  · obtain ⟨port, _, wrong⟩ := List.mem_filterMap.mp hd
    unfold portProblem? at wrong
    split at wrong
    · split at wrong
      · cases wrong; rfl
      · split at wrong
        · cases wrong; rfl
        · cases wrong
    · cases wrong

/-- All problems that the check reports are about the shape of the graph.
Diagnostics that only making a program can bring up are none of them. -/
theorem isStructural_of_mem_problems {d : Diagnostic} (hd : d ∈ problems c blocks) :
    d.isStructural = true := by
  simp only [problems, List.mem_append, List.mem_flatMap] at hd
  rcases hd with ((circular | repeated) | ⟨b, _, wrong⟩) | collides
  · unfold cycleProblem at circular
    split at circular
    · cases circular
    · cases List.mem_singleton.mp circular
      rfl
  · obtain ⟨id, rfl⟩ := exists_of_mem_repeatedAfter repeated
    rfl
  · exact isStructural_of_mem_blockProblems wrong
  · obtain ⟨owner, block, identifier, rfl⟩ := Names.exists_of_mem_collisions collides
    rfl

end Block

end ShaderGraph
