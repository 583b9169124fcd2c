import Mathlib
import ShaderGraph.Proofs.Program.Arguments
import ShaderGraph.Proofs.Text.Nesting

/-!
# When the arguments of a call stay apart

A call passes one argument for each input of its kind. Names, numbers and vectors
keep to their place among the arguments. An expression need not: it may close the
call, leave a bracket open or start a comment, since only its characters are
checked when it is read (`Program.comment_in_call`).

That is all that can go wrong: the arguments of a call stay apart exactly when
the expressions its block holds are self-contained
(`Program.generate_arguments_apart_iff`).
-/

namespace ShaderGraph

open Text (Only IsAtom SelfContained depth Above Balanced topCommas)

/-- A block that holds an expression with the start of a comment. -/
def Sample.commented : Block := ⟨"a", "color-solid", [("alpha", .variable "1.0 /*")], .zero⟩

/-! ## Texts that keep to their place -/

namespace Text

/-- The characters of a list of atoms. -/
def isListChar (c : Char) : Bool := isAtomChar c || c == ',' || c == ' '

variable {head inner text : String}

theorem IsAtom.list (plain : IsAtom text) : Only isListChar text :=
  plain.mono fun c hc => by rw [isListChar, hc, Bool.true_or, Bool.true_or]

theorem depth_of_list (plain : Only isListChar text) : depth text.toList = 0 :=
  depth_eq_zero (plain.not_mem (by decide)) (plain.not_mem (by decide))

theorem above_of_list (plain : Only isListChar text) {level : Int} (nonneg : 0 ≤ level) :
    Above level text.toList :=
  above_of_no_brackets nonneg (plain.not_mem (by decide)) (plain.not_mem (by decide))

/-- A list of atoms without brackets is self-contained: it opens and closes nothing,
and starts no comment. -/
theorem selfContained_of_list (plain : Only isListChar text) : SelfContained text.toList :=
  Balanced.selfContained ⟨above_of_list plain le_rfl, depth_of_list plain⟩
    (plain.not_mem (by decide))

/-- A list in brackets behind a name is self-contained, since these brackets are
balanced and are all there are. -/
theorem selfContained_enclosed (hhead : Only isListChar head) (hinner : Only isListChar inner) :
    SelfContained (head ++ "(" ++ inner ++ ")").toList := by
  have slash : '/' ∉ (head ++ "(" ++ inner ++ ")").toList := by
    have left := hhead.not_mem (c := '/') (by decide)
    have right := hinner.not_mem (c := '/') (by decide)
    simp [left, right]
  have opened : depth "(".toList = 1 := rfl
  have closed : depth ")".toList = -1 := rfl
  refine Balanced.selfContained ⟨?_, ?_⟩ slash
  · simp only [String.toList_append, above_append, depth_append, depth_of_list hhead,
      depth_of_list hinner, opened]
    exact ⟨⟨⟨above_of_list hhead le_rfl, by simp [above_cons, above_nil, depth]⟩,
      above_of_list hinner (by decide)⟩, by simp [above_cons, above_nil, depth]⟩
  · simp only [String.toList_append, depth_append, depth_of_list hhead, depth_of_list hinner, opened,
      closed]
    rfl

/-- Its commas are inside of the brackets, so none of them separates arguments. -/
theorem topCommas_enclosed (hhead : IsAtom head) (hinner : Only isListChar inner) {level : Int}
    (nonneg : 0 ≤ level) : topCommas level (head ++ "(" ++ inner ++ ")").toList = 0 := by
  have opened : depth "(".toList = 1 := rfl
  have hhead' : topCommas level head.toList = 0 := topCommas_of_not_mem (hhead.not_mem (by decide))
  have hinner' : topCommas (level + 1) inner.toList = 0 :=
    topCommas_of_above (by omega) (hinner.not_mem (by decide)) (hinner.not_mem (by decide))
  have hopen : topCommas level "(".toList = 0 := topCommas_of_not_mem (by decide)
  have hclose : topCommas (level + 1) ")".toList = 0 := topCommas_of_not_mem (by decide)
  simp only [String.toList_append, topCommas_append, depth_append, depth_of_list hhead.list,
    depth_of_list hinner, opened, Int.add_zero, Int.zero_add, hhead', hopen, hinner', hclose]

end Text

/-! ## Arguments -/

namespace Program

open Attempt

variable {c : Catalog} {context : Context} {blocks : List Block} {b : Block} {port : Port}
  {text : String} {p : Program}

/-- What is written for a port has its commas inside of brackets. Expressions hold
none, for a comma is not among the characters they are made of. -/
theorem Written.inward (parsed : b.Parsed) (written : Written b port text) {level : Int}
    (nonneg : 0 ≤ level) : topCommas level text.toList = 0 := by
  cases written with
  | atom plain => exact Text.topCommas_of_not_mem (plain.not_mem (by decide))
  | vector size plain =>
    exact Text.topCommas_enclosed (isAtom_vectorName size)
      (Only.intercalate (by decide) fun part hpart => (plain part hpart).list) nonneg
  | expression held =>
    have valid : Only PortValue.isExpressionChar text := (parsed.value?_valid held).2
    exact Text.topCommas_of_not_mem (valid.not_mem (by decide))

/-- What is written for a port is self-contained if an expression is; everything
else that is written is so by itself. -/
theorem Written.selfContained (written : Written b port text)
    (expression : ∀ name, b.value? port.id = some (.variable name) → SelfContained name.toList) :
    SelfContained text.toList := by
  cases written with
  | atom plain => exact Text.selfContained_of_list plain.list
  | vector size plain =>
    exact Text.selfContained_enclosed (isAtom_vectorName size).list
      (Only.intercalate (by decide) fun part hpart => (plain part hpart).list)
  | expression held => exact expression text held

/-- The arguments of a call stay apart exactly when the expressions its block holds
are self-contained. One that is not may be balanced by another, but then a comma
between them is lost. -/
theorem selfContained_arguments_iff (plain : c.Plain) (parsed : ∀ b ∈ blocks, b.Parsed)
    (hb : b ∈ blocks) {kind : Kind} (known : kind ∈ c.kinds) (takes : kind.inputs ≠ [])
    {arguments : List String}
    (written : List.Forall₂ (fun port text => argument c blocks b port = .ok text) kind.inputs
      arguments) :
    SelfContained (String.intercalate ", " arguments).toList ∧
        (Text.topPieces 0 (String.intercalate ", " arguments).toList).length = kind.inputs.length ↔
      ∀ port ∈ kind.inputs, ∀ name, b.value? port.id = some (.variable name) →
        SelfContained name.toList := by
  have shaped : ∀ text ∈ arguments, ∃ port ∈ kind.inputs, Written b port text := by
    intro text htext
    obtain ⟨port, hport, printed⟩ := exists_mem_of_forall₂ written htext
    exact ⟨port, hport, written_of_argument plain parsed known hport printed⟩
  have some_argument : arguments ≠ [] := by
    rintro rfl
    exact takes (List.forall₂_nil_right_iff.mp written)
  rw [written.length_eq, Text.selfContained_intercalate_iff some_argument fun text htext level nonneg =>
    (shaped text htext).elim fun port ⟨_, shape⟩ => shape.inward (parsed b hb) nonneg]
  constructor
  · intro each port hport name held
    -- An expression is passed as it is, so it is one of the arguments.
    obtain ⟨text, htext, printed⟩ := exists_mem_of_forall₂ written.flip hport
    have same : name = text := by simpa [argument, held] using printed
    rw [same]
    exact each text htext
  · intro expressions text htext
    obtain ⟨port, hport, shape⟩ := shaped text htext
    exact shape.selfContained (expressions port hport)

/-- Every built-in kind has an input. A call without arguments would show one empty
piece between its brackets. -/
theorem inputs_ne_nil_of_builtin {kind : Kind} (known : kind ∈ Catalog.builtin.kinds) :
    kind.inputs ≠ [] := by
  have all : ∀ k ∈ builtinKinds, k.inputs ≠ [] := by decide +kernel
  exact all kind known

/-- **The arguments of a call stay apart exactly when the expressions its block
holds are self-contained**: then no comment starts between the brackets of the
call, the brackets in there are balanced, and the commas outside of them cut it
into one argument for each input. -/
theorem generate_arguments_apart_iff (parsed : ∀ b ∈ blocks, b.Parsed)
    (generated : generate .builtin context blocks = .ok p) :
    ∃ ordered, Block.sort .builtin blocks = .ok ordered ∧
      List.Forall₂ (fun b call => ∃ kind inner, Catalog.builtin.find? b.kindId = some kind ∧
        call.line = kind.outputType.name ++ " " ++ Names.result kind b.id ++ " = " ++
          Names.function kind b.id ++ "(" ++ inner ++ ");" ∧
        (SelfContained inner.toList ∧
            (Text.topPieces 0 inner.toList).length = kind.inputs.length ↔
          ∀ port ∈ kind.inputs, ∀ name, b.value? port.id = some (.variable name) →
            SelfContained name.toList)) ordered p.calls := by
  obtain ⟨ordered, sort, placed⟩ := listed_calls_of_generate generated
  refine ⟨ordered, sort, placed.imp ?_⟩
  rintro b call ⟨hb, called⟩
  obtain ⟨kind, arguments, known, written, rfl⟩ := call_eq_ok_iff.mp called
  have hkind := Catalog.mem_of_find? known
  exact ⟨kind, _, known, rfl, selfContained_arguments_iff Catalog.plain_builtin parsed hb hkind
    (inputs_ne_nil_of_builtin hkind) written⟩

/-- An expression in brackets keeps its place, and the call has the two arguments of
its kind. -/
theorem generate_arguments_apart_iff_fading :
    (∀ b ∈ [Sample.fading], b.Parsed) ∧
      ∃ p, generate .builtin .usual [Sample.fading] = .ok p ∧ p.calls = [Sample.fadingCall] ∧
        ∃ kind inner, Catalog.builtin.find? "color-solid" = some kind ∧
          Sample.fadingCall.line = kind.outputType.name ++ " " ++ Names.result kind "fade-in" ++
            " = " ++ Names.function kind "fade-in" ++ "(" ++ inner ++ ");" ∧
          SelfContained inner.toList ∧
          (Text.topPieces 0 inner.toList).length = kind.inputs.length := by
  obtain ⟨p, generated, calls⟩ := Sample.exists_program_fading
  refine ⟨Sample.parsed_fading, p, generated, calls, ?_⟩
  obtain ⟨ordered, sort, each⟩ := generate_arguments_apart_iff Sample.parsed_fading generated
  obtain ⟨b, hb, kind, inner, known, line, apart⟩ :=
    exists_mem_of_forall₂ each (calls ▸ List.mem_singleton_self Sample.fadingCall)
  have same : b = Sample.fading := List.mem_singleton.mp (Block.mem_of_mem_sort sort hb)
  subst same
  refine ⟨kind, inner, known, line, apart.mpr fun port _ name held => ?_⟩
  obtain ⟨input, hinput, holds⟩ := Block.mem_inputs_of_value? held
  cases List.mem_singleton.mp hinput
  cases holds
  decide

/-- An expression that was read may start a comment, which takes the rest of the
call with it. -/
theorem comment_in_call :
    (∀ b ∈ [Sample.commented], b.Parsed) ∧
      ∃ p call, generate .builtin .usual [Sample.commented] = .ok p ∧ p.calls = [call] ∧
        call.line = "vec4 solid_color_a_result = solidcolor_a(" ++
          "vec3(1.00, 0.50, 0.00), 1.0 /*" ++ ");" ∧
        ¬ SelfContained "vec3(1.00, 0.50, 0.00), 1.0 /*".toList := by
  have parsed : ∀ b ∈ [Sample.commented], b.Parsed :=
    List.forall_mem_singleton.mpr ⟨.text, Sample.commented.toJson, by cbv⟩
  have called : (generate .builtin .usual [Sample.commented]).map Program.calls = .ok
      [⟨.vec4, "solid_color_a_result", "solidcolor_a", ["vec3(1.00, 0.50, 0.00)", "1.0 /*"]⟩] := by
    decide +kernel
  obtain ⟨p, generated, calls⟩ := exists_of_map_eq_ok called
  exact ⟨parsed, p, _, generated, calls, by decide +kernel, by decide⟩

end Program

end ShaderGraph
