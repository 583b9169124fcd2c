import Mathlib
import ShaderGraph.Proofs.Program.Refusals

/-!
# Numbers too wide to print

A document may hold any finite number, but a program has no room for all of them:
from `10 ^ 26` on, a number takes more digits than are printed. Such a number
stops generation without a diagnostic.

That happens exactly when nothing else stops it earlier
(`Program.generate_eq_numberTooWide_iff`): the kinds are known, the blocks can be
sorted, no names collide, and of the arguments of all calls, taken in the order
they are written, the first that cannot be written holds such a number.
-/

namespace ShaderGraph

/-- The numbers a block holds for a port. -/
def Block.numbers (b : Block) (port : Port) : List Binary64 :=
  match b.value? port.id with
  | some (.literal x) => [x]
  | some (.vector components) => components
  | _ => []

/-- Every input has a default, and it can be written. -/
def Catalog.Defaulted (c : Catalog) : Prop :=
  ∀ k ∈ c.kinds, ∀ port ∈ k.inputs, ∃ text, Program.defaultArgument port = .ok text

/-- Every input of a built-in kind has a default that can be written, found by
writing each of them. -/
theorem Catalog.defaulted_builtin : Catalog.builtin.Defaulted := by
  have written : ∀ k ∈ builtinKinds, ∀ port ∈ k.inputs,
      (Program.defaultArgument port).toOption.isSome = true := by decide +kernel
  intro k hk port hport
  cases given : Program.defaultArgument port with
  | ok text => exact ⟨text, rfl⟩
  | error refusal => simpa [given, Except.toOption] using written k hk port hport

namespace Program

open Attempt

/-! ## Arguments -/

variable {c : Catalog} {context : Context} {blocks ordered : List Block} {b : Block} {port : Port}

theorem number_eq_numberTooWide_iff {x : Binary64} :
    number x = .error .numberTooWide ↔ ¬ x.Printable := by
  rw [← exists_number_iff]
  cases printed : number x with
  | ok text => simp
  | error refusal => simp [number_eq_error printed]

/-- A vector is refused exactly when one of its components is not printable. -/
theorem vector_eq_numberTooWide_iff {components : List Binary64} :
    vector components = .error .numberTooWide ↔ ∃ x ∈ components, ¬ x.Printable := by
  have some_wide : (∃ x ∈ components, ¬ x.Printable) ↔ ¬ ∃ text, vector components = .ok text := by
    rw [exists_vector_iff]
    push Not
    rfl
  rw [some_wide]
  cases printed : vector components with
  | ok text => simp
  | error refusal => simp [vector_eq_error printed]

/-- An argument stops generation without a diagnostic when one of its numbers is too
wide, be it one that the block holds or one of the default. -/
theorem argument_eq_numberTooWide_iff :
    argument c blocks b port = .error .numberTooWide ↔ ∃ x ∈ b.printed port, ¬ x.Printable := by
  rw [argument, Block.printed]
  cases b.value? port.id with
  | none =>
    cases given : port.default with
    | none => simp [defaultArgument, given, reject]
    | some default =>
      cases default <;>
        simp [defaultArgument, given, number_eq_numberTooWide_iff, vector_eq_numberTooWide_iff]
  | some value =>
    cases value with
    | connection source output =>
      have never : connectionArgument c blocks b source output ≠ .error .numberTooWide := by
        intro refused
        rcases connectionArgument_eq_error refused with ⟨_, h⟩ | ⟨origin, _, unknown⟩ | ⟨_, _, h⟩
        · cases h
        · cases (kindOf_eq_error_iff.mp unknown).2
        · cases h
      simpa using never
    | _ => simp [number_eq_numberTooWide_iff, vector_eq_numberTooWide_iff, reject]

/-- The inputs of blocks in the order their arguments are written. -/
def inputs (c : Catalog) (ordered : List Block) : List (Block × Port) :=
  ordered.flatMap fun b => (((c.find? b.kindId).map Kind.inputs).getD []).map (b, ·)

/-- A call is refused where its arguments are, and for the first of them, as they
are written in the order of the inputs. -/
theorem call_eq_error_iff {refusal : Refusal} {kind : Kind} (known : c.find? b.kindId = some kind) :
    Program.call c blocks b = .error refusal ↔
      kind.inputs.mapM (argument c blocks b) = .error refusal := by
  simp only [Program.call, bind_eq_error_iff, kindOf_eq_ok_iff, kindOf_eq_error_iff, known]
  constructor
  · rintro (⟨unknown, _⟩ | ⟨_, same, refused | ⟨_, _, nothing⟩⟩)
    · cases unknown
    · cases same
      exact refused
    · cases nothing
  · exact fun refused => .inr ⟨kind, rfl, .inl refused⟩

/-- Calls are refused for the first argument that cannot be written. The arguments
of all calls are put in one row for this, so that what comes first is plain to
say. -/
theorem mapM_call_eq_error_iff {refusal : Refusal}
    (known : ∀ b ∈ ordered, ∃ kind, c.find? b.kindId = some kind) :
    ordered.mapM (Program.call c blocks) = .error refusal ↔
      (inputs c ordered).mapM (fun input => argument c blocks input.1 input.2) = .error refusal := by
  induction ordered with
  | nil => exact ⟨(nomatch ·), (nomatch ·)⟩
  | cons b rest ih =>
    obtain ⟨⟨kind, hkind⟩, known⟩ := List.forall_mem_cons.mp known
    have inputs_cons : inputs c (b :: rest) = kind.inputs.map (b, ·) ++ inputs c rest := by
      simp [inputs, hkind]
    have written : (∃ call, Program.call c blocks b = .ok call) ↔
        ∃ texts, kind.inputs.mapM (argument c blocks b) = .ok texts := by
      rw [exists_call_iff, exists_mapM_ok_iff, hkind]
      simp
    rw [inputs_cons, mapM_append_eq_error_iff, List.mapM_map, mapM_cons_eq_error_iff,
      call_eq_error_iff hkind, written, ih known]
    rfl

/-! ## Programs -/

/-- Generation stops without a diagnostic when all else is in order and the calls
stop so; the other steps have diagnostics for all they refuse. -/
theorem generate_eq_numberTooWide_iff_calls :
    generate c context blocks = .error .numberTooWide ↔
      (∀ b ∈ blocks, ∃ kind, c.find? b.kindId = some kind) ∧ Names.collisions c blocks = [] ∧
      ∃ ordered, Block.sort c blocks = .ok ordered ∧
        ordered.mapM (Program.call c blocks) = .error .numberTooWide := by
  have never : ∀ {xs : List Block}, xs.mapM (kindOf c) ≠ .error .numberTooWide := by
    intro xs refused
    obtain ⟨b, _, unknown⟩ := exists_of_mapM_eq_error refused
    cases (kindOf_eq_error_iff.mp unknown).2
  simp only [← kindOf_eq_ok_iff, ← exists_mapM_ok_iff]
  constructor
  · intro refused
    unfold generate at refused
    split at refused
    · cases refused
    · simp only [bind_eq_error_iff, sorted_eq_error_iff, sorted_eq_ok_iff] at refused
      rcases refused with unknown | ⟨kinds, known, ⟨_, _, cyclic⟩ | ⟨ordered, sort, rest⟩⟩
      · exact absurd unknown never
      · cases cyclic
      · split at rest
        · cases rest
        next apart =>
          simp only [bind_eq_error_iff] at rest
          rcases rest with unknown | ⟨_, _, refused | ⟨calls, called, rest⟩⟩
          · exact absurd unknown never
          · exact ⟨⟨kinds, known⟩, by simpa using apart, ordered, sort, refused⟩
          · split at rest <;> cases rest
  · rintro ⟨⟨kinds, known⟩, apart, ordered, sort, refused⟩
    obtain ⟨b, hb, _⟩ := exists_of_mapM_eq_error refused
    have nonempty : blocks ≠ [] := List.ne_nil_of_mem (Block.mem_of_mem_sort sort hb)
    obtain ⟨sortedKinds, sortedKnown⟩ := exists_mapM_ok_iff.mpr fun b hb =>
      exists_mapM_ok_iff.mp ⟨kinds, known⟩ b (Block.mem_of_mem_sort sort hb)
    unfold generate
    rw [if_neg (by simpa using nonempty), bind_eq_error_iff]
    refine .inr ⟨kinds, known, bind_eq_error_iff.mpr (.inr ⟨ordered, sorted_eq_ok_iff.mpr sort, ?_⟩)⟩
    simp only [apart, List.isEmpty_nil, Bool.not_true, Bool.false_eq_true, if_false, bind_eq_error_iff]
    exact .inr ⟨sortedKinds, sortedKnown, .inl refused⟩

/-- The first argument that cannot be written, in the order of the sorted blocks and
of their ports, holds a number too wide to print; and nothing stands in the way of
getting there. -/
def StopsAtNumber (c : Catalog) (blocks : List Block) : Prop :=
  (∀ b ∈ blocks, ∃ kind, c.find? b.kindId = some kind) ∧ Names.collisions c blocks = [] ∧
  ∃ ordered before b port after, Block.sort c blocks = .ok ordered ∧
    inputs c ordered = before ++ (b, port) :: after ∧
    (∀ input ∈ before, Block.portProblem? c blocks input.1 input.2 = none ∧
      ∀ x ∈ input.1.numbers input.2, x.Printable) ∧
    ∃ x ∈ b.numbers port, ¬ x.Printable

/-- With a default that can be written, only the numbers a block holds can be too
wide, and the default need not be asked about. -/
theorem exists_wide_printed_iff (defaulted : ∃ text, defaultArgument port = .ok text) :
    (∃ x ∈ b.printed port, ¬ x.Printable) ↔ ∃ x ∈ b.numbers port, ¬ x.Printable := by
  unfold Block.printed Block.numbers
  cases b.value? port.id with
  | some value => cases value <;> rfl
  | none =>
    unfold defaultArgument at defaulted
    cases given : port.default with
    | none => simp
    | some default =>
      rw [given] at defaulted
      cases default with
      | expression text => simp
      | number x => simpa using exists_number_iff.mp defaulted
      | vector components => simpa using exists_vector_iff.mp defaulted

/-- What the document of a block leaves open for an input: where its connection
leads, and how wide its numbers are. -/
theorem exists_argument_iff_of_parsed (defaulted : ∃ text, defaultArgument port = .ok text)
    (parsed : b.Parsed) :
    (∃ text, argument c blocks b port = .ok text) ↔
      Block.portProblem? c blocks b port = none ∧ ∀ x ∈ b.numbers port, x.Printable := by
  have given : port.default ≠ none := by
    intro none
    obtain ⟨text, written⟩ := defaulted
    simp [defaultArgument, none, reject] at written
  have narrow := not_congr (exists_wide_printed_iff (b := b) defaulted)
  push Not at narrow
  rw [exists_argument_iff, narrow]
  constructor
  · rintro ⟨sound, _, narrow, _⟩
    exact ⟨sound, narrow⟩
  · rintro ⟨sound, narrow⟩
    exact ⟨sound, fun _ => given, narrow, parsed.value?_ne_unchecked port.id⟩

theorem exists_kind_of_mem_inputs {input : Block × Port} (hinput : input ∈ inputs c ordered) :
    input.1 ∈ ordered ∧ ∃ kind ∈ c.kinds, input.2 ∈ kind.inputs := by
  obtain ⟨b, hb, hport⟩ := List.mem_flatMap.mp hinput
  obtain ⟨port, hport, rfl⟩ := List.mem_map.mp hport
  cases known : c.find? b.kindId with
  | none => simp [known] at hport
  | some kind =>
    exact ⟨hb, kind, List.mem_of_find?_eq_some known, by simpa [known] using hport⟩

/-- Generation stops at a number exactly when nothing stops it earlier: an argument
in front that cannot be written would have been reported instead. -/
theorem generate_eq_numberTooWide_iff (defaulted : c.Defaulted) (parsed : ∀ b ∈ blocks, b.Parsed) :
    generate c context blocks = .error .numberTooWide ↔ StopsAtNumber c blocks := by
  rw [generate_eq_numberTooWide_iff_calls, StopsAtNumber]
  refine and_congr_right fun known => and_congr_right fun _ => ?_
  have calls : ∀ ordered, Block.sort c blocks = .ok ordered →
      (ordered.mapM (Program.call c blocks) = .error .numberTooWide ↔
        ∃ before b port after, inputs c ordered = before ++ (b, port) :: after ∧
          (∀ input ∈ before, Block.portProblem? c blocks input.1 input.2 = none ∧
            ∀ x ∈ input.1.numbers input.2, x.Printable) ∧
          ∃ x ∈ b.numbers port, ¬ x.Printable) := by
    intro ordered sort
    have listed : ∀ b ∈ ordered, b ∈ blocks := fun b hb => Block.mem_of_mem_sort sort hb
    have each : ∀ input ∈ inputs c ordered, (∃ text, defaultArgument input.2 = .ok text) ∧
        input.1.Parsed := by
      intro input hinput
      obtain ⟨hb, kind, hkind, hport⟩ := exists_kind_of_mem_inputs hinput
      exact ⟨defaulted kind hkind input.2 hport, parsed input.1 (listed input.1 hb)⟩
    rw [mapM_call_eq_error_iff fun b hb => known b (listed b hb), mapM_eq_error_iff]
    constructor
    · rintro ⟨before, ⟨b, port⟩, after, split, passes, refused⟩
      refine ⟨before, b, port, after, split, fun input hinput => ?_, ?_⟩
      · obtain ⟨default, read⟩ := each input (by simp [split, hinput])
        exact (exists_argument_iff_of_parsed default read).mp (passes input hinput)
      · obtain ⟨default, _⟩ := each (b, port) (by simp [split])
        exact (exists_wide_printed_iff default).mp (argument_eq_numberTooWide_iff.mp refused)
    · rintro ⟨before, b, port, after, split, passes, wide⟩
      refine ⟨before, (b, port), after, split, fun input hinput => ?_, ?_⟩
      · obtain ⟨default, read⟩ := each input (by simp [split, hinput])
        exact (exists_argument_iff_of_parsed default read).mpr (passes input hinput)
      · obtain ⟨default, _⟩ := each (b, port) (by simp [split])
        exact argument_eq_numberTooWide_iff.mpr ((exists_wide_printed_iff default).mpr wide)
  constructor
  · rintro ⟨ordered, sort, refused⟩
    obtain ⟨before, b, port, after, first⟩ := (calls ordered sort).mp refused
    exact ⟨ordered, before, b, port, after, sort, first⟩
  · rintro ⟨ordered, before, b, port, after, sort, first⟩
    exact ⟨ordered, sort, (calls ordered sort).mpr ⟨before, b, port, after, first⟩⟩

end Program

end ShaderGraph
