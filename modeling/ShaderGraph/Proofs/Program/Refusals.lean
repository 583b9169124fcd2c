import Mathlib
import ShaderGraph.Kind.Builtin
import ShaderGraph.Proofs.Program.Acceptance

/-!
# Why there is no program

Generation stops at the first thing it cannot do and says what it was. Nearly all
of that the problems of the graph say too, in the same words. They do not say
that a list is empty, that an input has neither a value nor a default, or that a
value was never checked: none of these is wrong with the shape of the graph
(`Program.refusal_among_problems`).
-/

namespace ShaderGraph

namespace Sample

/-- A block that reads from a block that is not there. -/
def adrift : Block := ⟨"adrift", "tone", [("base", .connection "shore" "shade")], .zero⟩

/-- A block that holds a value that was never checked. -/
def unfinished : Block := ⟨"a", "color-solid", [("alpha", .unchecked (.int 5))], .zero⟩

end Sample

/-! ## Messages -/

/-- The first word of a message. -/
def Diagnostic.firstWord : Diagnostic → String
  | .cycle _ => "Circular"
  | .nothingToGenerate => "Nothing"
  | .unknownKind _ => "Unknown"
  | .invalidKind _ => "Invalid"
  | .duplicateId _ => "Duplicate"
  | .missingBlock _ _ | .missingOutput _ _ _ | .collision _ _ _ => "Block"
  | .noDefault _ => "Input"
  | .unsupportedValue _ _ _ => "Unsupported"

/-- Every message starts with the word that tells its kind, whatever ids and names
follow. -/
theorem Diagnostic.firstWord_prefix_message (d : Diagnostic) :
    d.firstWord.toList <+: d.message.toList := by
  have more : ∀ (word : String) {text rest : String}, word.toList <+: text.toList →
      word.toList <+: (text ++ rest).toList := by
    intro word text rest starts
    rw [String.toList_append]
    exact starts.trans (List.prefix_append _ _)
  cases d with
  | cycle block => exact more "Circular" (by decide)
  | nothingToGenerate => decide
  | unknownKind kind => exact more "Unknown" (by decide)
  | invalidKind kind => exact more "Invalid" (by decide)
  | duplicateId block => exact more "Duplicate" (by decide)
  | missingBlock block source => exact more "Block" (more _ (more _ (by decide)))
  | missingOutput block port source =>
    exact more "Block" (more _ (more _ (more _ (more _ (by decide)))))
  | noDefault port => exact more "Input" (more _ (by decide))
  | unsupportedValue port block shown =>
    exact more "Unsupported" (more _ (more _ (more _ (more _ (by decide)))))
  | collision owner block identifier =>
    exact more "Block" (more _ (more _ (more _ (more _ (by decide)))))

/-- No message of a diagnostic that the check reports is that of one it does not
report. Their first words differ, and neither starts the other. -/
theorem Diagnostic.message_ne {d other : Diagnostic} (structural : d.isStructural = true)
    (not_structural : other.isStructural = false) : d.message ≠ other.message := by
  have word : d.firstWord ∈ ["Circular", "Duplicate", "Invalid", "Block"] := by
    cases d <;> cases structural <;> simp [firstWord]
  have other_word : other.firstWord ∈ ["Nothing", "Unknown", "Input", "Unsupported"] := by
    cases other <;> cases not_structural <;> simp [firstWord]
  have apart : ∀ w ∈ ["Circular", "Duplicate", "Invalid", "Block"],
      ∀ v ∈ ["Nothing", "Unknown", "Input", "Unsupported"],
        ¬ (w.toList <+: v.toList ∨ v.toList <+: w.toList) := by decide
  intro same
  -- Both words start the same message, so one would start the other.
  have starts := d.firstWord_prefix_message
  rw [same] at starts
  exact apart _ word _ other_word
    (List.prefix_or_prefix_of_prefix starts other.firstWord_prefix_message)

/-- The message of a diagnostic that the check does not report is not among those of
the problems, not even by chance of its wording. -/
theorem Block.message_not_mem_problems {c : Catalog} {blocks : List Block} {d : Diagnostic}
    (not_structural : d.isStructural = false) :
    d.message ∉ (Block.problems c blocks).map Diagnostic.message := by
  intro reported
  obtain ⟨other, hother, same⟩ := List.mem_map.mp reported
  exact Diagnostic.message_ne (Block.isStructural_of_mem_problems hother) not_structural same

namespace Program

open Attempt

/-! ## Refused parts -/

variable {c : Catalog} {context : Context} {blocks : List Block} {b : Block} {port : Port}
  {refusal : Refusal}

/-- A block's kind is refused exactly when the catalog does not find it, and the
refusal names it. -/
theorem kindOf_eq_error_iff :
    kindOf c b = .error refusal ↔
      c.find? b.kindId = none ∧ refusal = .rejected [.unknownKind b.kindId] := by
  rw [kindOf]
  cases c.find? b.kindId <;> simp [reject, eq_comm]

/-- The order is refused exactly when sorting finds a cycle, and the refusal names
the same block. -/
theorem sorted_eq_error_iff :
    sorted c blocks = .error refusal ↔
      ∃ block, Block.sort c blocks = .error block ∧ refusal = .cyclic block := by
  rw [sorted]
  cases Block.sort c blocks <;> simp [Except.mapError, eq_comm]

theorem number_eq_error {x : Binary64} (refused : number x = .error refusal) :
    refusal = .numberTooWide := by
  unfold number at refused
  split at refused
  · cases refused
  · cases refused
    rfl

theorem vector_eq_error {components : List Binary64}
    (refused : vector components = .error refusal) : refusal = .numberTooWide := by
  unfold vector at refused
  cases parts : components.mapM number with
  | ok parts' => rw [parts] at refused; cases refused
  | error r =>
    rw [parts] at refused
    cases refused
    obtain ⟨x, _, h⟩ := exists_of_mapM_eq_error parts
    exact number_eq_error h

/-- A connection is refused for its source, the source's kind, or its output, in
this order. The second case is one that the check of all kinds has ruled out
before. -/
theorem connectionArgument_eq_error {source output : String}
    (refused : connectionArgument c blocks b source output = .error refusal) :
    (Block.find? blocks source = none ∧ refusal = .rejected [.missingBlock b.id source]) ∨
      (∃ origin ∈ blocks, kindOf c origin = .error refusal) ∨
      (Block.find? blocks source ≠ none ∧ Block.outputOf? c blocks source output = none ∧
        refusal = .rejected [.missingOutput b.id output source]) := by
  unfold connectionArgument at refused
  cases found : Block.find? blocks source with
  | none =>
    rw [found] at refused
    cases refused
    exact .inl ⟨rfl, rfl⟩
  | some origin =>
    simp only [found, bind_eq_error_iff, kindOf_eq_ok_iff] at refused
    rcases refused with unknown | ⟨kind, known, missing⟩
    · exact .inr (.inl ⟨origin, List.mem_of_find?_eq_some found, unknown⟩)
    · refine .inr (.inr ⟨by simp, ?_⟩)
      split at missing
      · cases missing
      next sent =>
        cases missing
        exact ⟨by simp [Block.outputOf?, found, known, sent], rfl⟩

/-- An argument is refused for a number, a missing default, its connection, or a
value that was never checked. Which of them can apply is decided by the value that
the block holds. -/
theorem argument_eq_error (refused : argument c blocks b port = .error refusal) :
    refusal = .numberTooWide ∨
      (b.value? port.id = none ∧ port.default = none ∧
        refusal = .rejected [.noDefault port.id]) ∨
      (∃ source output, b.value? port.id = some (.connection source output) ∧
        connectionArgument c blocks b source output = .error refusal) ∨
      ∃ held, b.value? port.id = some (.unchecked held) ∧
        refusal = .rejected [.unsupportedValue port.id b.id held.display] := by
  unfold argument at refused
  split at refused
  next missing =>
    unfold defaultArgument at refused
    split at refused
    · cases refused
    · exact .inl (vector_eq_error refused)
    · exact .inl (number_eq_error refused)
    next none =>
      cases refused
      exact .inr (.inl ⟨missing, none, rfl⟩)
  next source output held => exact .inr (.inr (.inl ⟨source, output, held, refused⟩))
  · cases refused
  · exact .inl (number_eq_error refused)
  · exact .inl (vector_eq_error refused)
  next value held =>
    cases refused
    exact .inr (.inr (.inr ⟨value, held, rfl⟩))

/-- A call is refused for its kind or for one of its arguments. -/
theorem call_eq_error (refused : Program.call c blocks b = .error refusal) :
    kindOf c b = .error refusal ∨
      ∃ kind port, c.find? b.kindId = some kind ∧ port ∈ kind.inputs ∧
        argument c blocks b port = .error refusal := by
  simp only [Program.call, bind_eq_error_iff, kindOf_eq_ok_iff] at refused
  rcases refused with unknown | ⟨kind, known, refused | ⟨_, _, nothing⟩⟩
  · exact .inl unknown
  · obtain ⟨port, hport, h⟩ := exists_of_mapM_eq_error refused
    exact .inr ⟨kind, port, known, hport, h⟩
  · cases nothing

/-- What generation is refused for, one case for each of its steps. The blocks whose
calls are refused are sorted ones, and so are among those listed. -/
theorem generate_eq_error (refused : generate c context blocks = .error refusal) :
    (blocks = [] ∧ refusal = .rejected [.nothingToGenerate]) ∨
      (∃ b ∈ blocks, kindOf c b = .error refusal) ∨
      (∃ block, Block.sort c blocks = .error block ∧ refusal = .cyclic block) ∨
      refusal = .rejected (Names.collisions c blocks) ∨
      ∃ b ∈ blocks, ∃ kind port, c.find? b.kindId = some kind ∧ port ∈ kind.inputs ∧
        argument c blocks b port = .error refusal := by
  unfold generate at refused
  by_cases empty : blocks = []
  · left
    rw [if_pos (by simp [empty])] at refused
    cases refused
    exact ⟨empty, rfl⟩
  · right
    rw [if_neg (by simpa using empty)] at refused
    simp only [bind_eq_error_iff, sorted_eq_error_iff, sorted_eq_ok_iff] at refused
    rcases refused with unknown | ⟨_, _, circular | ⟨ordered, sort, rest⟩⟩
    · exact .inl (exists_of_mapM_eq_error unknown)
    · exact .inr (.inl circular)
    · split at rest
      · cases rest
        exact .inr (.inr (.inl rfl))
      · simp only [bind_eq_error_iff] at rest
        rcases rest with unknown | ⟨_, _, refused | ⟨calls, called, rest⟩⟩
        · obtain ⟨b, hb, h⟩ := exists_of_mapM_eq_error unknown
          exact .inl ⟨b, Block.mem_of_mem_sort sort hb, h⟩
        · obtain ⟨b, hb, h⟩ := exists_of_mapM_eq_error refused
          have listed := Block.mem_of_mem_sort sort hb
          rcases call_eq_error h with unknown | written
          · exact .inl ⟨b, listed, unknown⟩
          · exact .inr (.inr (.inr ⟨b, listed, written⟩))
        · -- There is a block, so there is a sorted one, and a last call.
          split at rest
          next none =>
            rw [List.getLast?_eq_none_iff] at none
            subst none
            have ordered_nil := List.forall₂_nil_right_iff.mp (mapM_eq_ok_iff.mp called)
            exact absurd ordered_nil (Block.sort_ne_nil sort empty)
          · cases rest

/-! ## Refusals and problems -/

/-- What becomes of a refusal's diagnostic among the problems of the graph. -/
inductive Echoed (c : Catalog) (blocks : List Block) : Diagnostic → Prop
  | reported {d : Diagnostic} (problem : d ∈ Block.problems c blocks) : Echoed c blocks d
  | renamed {kind : String} (problem : .invalidKind kind ∈ Block.problems c blocks) :
    Echoed c blocks (.unknownKind kind)
  | empty (nothing : blocks = []) : Echoed c blocks .nothingToGenerate
  | noDefault {b : Block} {kind : Kind} {port : Port} (listed : b ∈ blocks)
      (known : c.find? b.kindId = some kind) (input : port ∈ kind.inputs)
      (missing : b.value? port.id = none) (none : port.default = none) :
    Echoed c blocks (.noDefault port.id)
  | unchecked {b : Block} {kind : Kind} {port : Port} {held : Json} (listed : b ∈ blocks)
      (known : c.find? b.kindId = some kind) (input : port ∈ kind.inputs)
      (stored : b.value? port.id = some (.unchecked held)) :
    Echoed c blocks (.unsupportedValue port.id b.id held.display)

/-- The refusal of a kind is echoed by the check, which calls the kind invalid. -/
theorem echoed_of_kindOf (hb : b ∈ blocks) (unknown : kindOf c b = .error refusal) :
    ∀ d ∈ refusal.diagnostics, Echoed c blocks d := by
  obtain ⟨missing, rfl⟩ := kindOf_eq_error_iff.mp unknown
  intro d hd
  cases List.mem_singleton.mp hd
  exact .renamed (Block.invalidKind_mem_problems hb missing)

/-- The refusal of an argument is echoed by the check if it is about a connection,
and is no problem to the check otherwise. -/
theorem echoed_of_argument {kind : Kind} (hb : b ∈ blocks) (known : c.find? b.kindId = some kind)
    (hport : port ∈ kind.inputs) (refused : argument c blocks b port = .error refusal) :
    ∀ d ∈ refusal.diagnostics, Echoed c blocks d := by
  intro d hd
  rcases argument_eq_error refused with
    rfl | ⟨missing, none, rfl⟩ | ⟨source, output, held, refused⟩ | ⟨held, stored, rfl⟩
  · cases hd
  · cases List.mem_singleton.mp hd
    exact .noDefault hb known hport missing none
  · rcases connectionArgument_eq_error refused with
      ⟨missing, rfl⟩ | ⟨origin, horigin, unknown⟩ | ⟨found, missing, rfl⟩
    · cases List.mem_singleton.mp hd
      refine .reported (Block.portProblem_mem_problems hb known hport ?_)
      simp [Block.portProblem?, held, missing]
    · exact echoed_of_kindOf horigin unknown d hd
    · cases List.mem_singleton.mp hd
      refine .reported (Block.portProblem_mem_problems hb known hport ?_)
      simp [Block.portProblem?, held, found, missing]
  · cases List.mem_singleton.mp hd
    exact .unchecked hb known hport stored

/-- Whatever generation is refused for is echoed by the check or is no problem to
it; one case for each step of generation. -/
theorem echoed_of_generate (refused : generate c context blocks = .error refusal) :
    ∀ d ∈ refusal.diagnostics, Echoed c blocks d := by
  rcases generate_eq_error refused with
    ⟨nothing, rfl⟩ | ⟨b, hb, unknown⟩ | ⟨block, circular, rfl⟩ | rfl |
      ⟨b, hb, kind, port, known, hport, refused⟩
  · intro d hd
    cases List.mem_singleton.mp hd
    exact .empty nothing
  · exact echoed_of_kindOf hb unknown
  · intro d hd
    cases List.mem_singleton.mp hd
    exact .reported (Block.cycle_mem_problems circular)
  · exact fun d hd => .reported (Block.collisions_subset_problems hd)
  · exact echoed_of_argument hb known hport refused

/-- **What a refusal says is among the problems of the graph, in the same
words**, except that an unknown kind is called invalid there, and that three
things are no problems: an empty list, an input with neither a value nor a
default, and a value that was stored without a check. -/
theorem refusal_among_problems (refused : generate c context blocks = .error refusal) :
    ∀ d ∈ refusal.diagnostics,
      d.message ∈ (Block.problems c blocks).map Diagnostic.message ∨
      (∃ kind, d.message = "Unknown block kind: " ++ kind ∧
        "Invalid block type: " ++ kind ∈ (Block.problems c blocks).map Diagnostic.message) ∨
      (d.message ∉ (Block.problems c blocks).map Diagnostic.message ∧
        ((blocks = [] ∧ d.message = "Nothing to generate: the block graph has no instances.") ∨
          ∃ b ∈ blocks, ∃ kind port, c.find? b.kindId = some kind ∧ port ∈ kind.inputs ∧
            ((b.value? port.id = none ∧ port.default = none ∧
                d.message = "Input '" ++ port.id ++ "' has no default value") ∨
              ∃ held, b.value? port.id = some (.unchecked held) ∧
                d.message = "Unsupported value for input '" ++ port.id ++ "' on block " ++ b.id ++
                  ": " ++ held.display))) := by
  intro d hd
  cases echoed_of_generate refused d hd with
  | reported problem => exact .inl (List.mem_map_of_mem problem)
  | renamed problem => exact .inr (.inl ⟨_, rfl, List.mem_map_of_mem problem⟩)
  | empty nothing => exact .inr (.inr ⟨Block.message_not_mem_problems rfl, .inl ⟨nothing, rfl⟩⟩)
  | noDefault listed known input missing none =>
    exact .inr (.inr ⟨Block.message_not_mem_problems rfl,
      .inr ⟨_, listed, _, _, known, input, .inl ⟨missing, none, rfl⟩⟩⟩)
  | unchecked listed known input stored =>
    exact .inr (.inr ⟨Block.message_not_mem_problems rfl,
      .inr ⟨_, listed, _, _, known, input, .inr ⟨_, stored, rfl⟩⟩⟩)

/-- A connection that leads nowhere is a problem in the same words, with the block
that holds it and the one it names. -/
theorem refusal_among_problems_adrift :
    generate Sample.palette .usual [Sample.adrift] =
        .error (.rejected [.missingBlock "adrift" "shore"]) ∧
      "Block adrift references non-existent block shore" ∈
        (Block.problems Sample.palette [Sample.adrift]).map Diagnostic.message := by
  have refused : generate Sample.palette .usual [Sample.adrift] =
      .error (.rejected [.missingBlock "adrift" "shore"]) := by decide +kernel
  refine ⟨refused, ?_⟩
  rcases refusal_among_problems refused _ (List.mem_singleton_self _) with
    same | ⟨kind, other, _⟩ | ⟨absent, _⟩
  · exact same
  · exact absurd other (Diagnostic.message_ne (d := .missingBlock _ _) rfl
      (show (Diagnostic.unknownKind kind).isStructural = false from rfl))
  · exact absurd (by decide +kernel) absent

/-- An unchecked value refuses the program of a graph without a problem, for the
check looks at connections only. -/
theorem unchecked_not_among_problems :
    generate .builtin .usual [Sample.unfinished] =
        .error (.rejected [.unsupportedValue "alpha" "a" "5"]) ∧
      (Diagnostic.unsupportedValue "alpha" "a" "5").message =
        "Unsupported value for input 'alpha' on block a: 5" ∧
      Block.problems .builtin [Sample.unfinished] = [] :=
  ⟨by decide +kernel, by decide +kernel, by decide +kernel⟩

end Program

end ShaderGraph
