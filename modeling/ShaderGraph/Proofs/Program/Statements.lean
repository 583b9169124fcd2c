import Mathlib
import ShaderGraph.Proofs.Program.Opening

/-!
# The statements of a main function

Each line of a main function is one statement, whatever the blocks hold: a call
assigns once and ends once, at its end, and opens or closes no braces
(`Program.generate_main_statements`). For both sides of the assignment are
written with *operand* characters, those of expressions and the comma, and the
marks that part statements are not among these.
-/

namespace ShaderGraph

open Text (Only IsAtom)

/-! ## Assignments -/

namespace Text

/-- The characters of what stands on either side of an assignment. -/
def isOperandChar (c : Char) : Bool := PortValue.isExpressionChar c || c == ','

/-- A line that holds one statement, an assignment. -/
structure IsStatement (line : List Char) : Prop where
  ends : line.getLast? = some ';'
  one_end : line.count ';' = 1
  one_assignment : line.count '=' = 1
  no_opening : '\x7b' ∉ line
  no_closing : '\x7d' ∉ line

/-- The statement that assigns one text to another. -/
def assignment (target value : String) : String := target ++ " = " ++ value ++ ";"

variable {target value : String}

/-- An atom is an operand, as the characters of atoms are among those of
operands. -/
theorem IsAtom.operand {text : String} (plain : IsAtom text) : Only isOperandChar text := by
  refine plain.mono fun c hc => ?_
  simp only [isAtomChar, Bool.or_eq_true, beq_iff_eq] at hc
  rcases hc with ((alphanumeric | rfl) | rfl) | rfl
  · simp [isOperandChar, PortValue.isExpressionChar, alphanumeric]
  all_goals decide

/-- A character that is neither an operand's nor one of the assignment's own does
not come up: no line break, and no brace, can be brought in by a value. -/
theorem not_mem_assignment {c : Char} (htarget : Only isOperandChar target)
    (hvalue : Only isOperandChar value) (other : isOperandChar c = false) (equals : c ≠ '=')
    (ends : c ≠ ';') : c ∉ (assignment target value).toList := by
  have blank : c ≠ ' ' := by
    rintro rfl
    exact absurd other (by decide)
  simp [assignment, htarget.not_mem other, hvalue.not_mem other, blank, equals, ends]

/-- An assignment between operands is one statement, which ends at its end and
nowhere before. -/
theorem isStatement_assignment (htarget : Only isOperandChar target)
    (hvalue : Only isOperandChar value) : IsStatement (assignment target value).toList where
  ends := by rw [assignment, String.toList_append, List.getLast?_append_of_ne_nil _ (by simp)]; rfl
  one_end := by
    have left := htarget.not_mem (c := ';') (by decide)
    have right := hvalue.not_mem (c := ';') (by decide)
    simp [assignment, List.count_eq_zero_of_not_mem left, List.count_eq_zero_of_not_mem right]
  one_assignment := by
    have left := htarget.not_mem (c := '=') (by decide)
    have right := hvalue.not_mem (c := '=') (by decide)
    simp [assignment, List.count_eq_zero_of_not_mem left, List.count_eq_zero_of_not_mem right]
  no_opening := not_mem_assignment htarget hvalue (by decide) (by decide) (by decide)
  no_closing := not_mem_assignment htarget hvalue (by decide) (by decide) (by decide)

end Text

/-! ## Calls -/

/-- What a call's statement assigns to. -/
def Call.target (call : Call) : String := "  " ++ call.type.name ++ " " ++ call.result

/-- What a call's statement assigns. -/
def Call.value (call : Call) : String :=
  call.function ++ "(" ++ String.intercalate ", " call.arguments ++ ")"

/-- The line of a call is an assignment to the variable that it declares. -/
theorem Call.line_eq_assignment (call : Call) :
    "  " ++ call.line = Text.assignment call.target call.value := by
  simp only [← String.toList_inj, Call.line, Call.target, Call.value, Text.assignment,
    String.toList_append, List.append_assoc]
  rfl

theorem ValueType.operand_name (type : ValueType) : Only Text.isOperandChar type.name := by
  cases type <;> decide

/-- What is made of an operand to be a color is an operand, for each type. -/
theorem ValueType.operand_toColor {value : String} (hvalue : Only Text.isOperandChar value)
    (type : ValueType) : Only Text.isOperandChar (type.toColor value) := by
  cases type with
  | vec4 => exact hvalue
  | vec3 => exact (Only.append (by decide) hvalue).append (by decide)
  | float => exact (Only.append (by decide) hvalue).append (by decide)
  | vec2 => exact (Only.append (by decide) hvalue).append (by decide)

namespace Program

open Attempt

variable {c : Catalog} {context : Context} {blocks : List Block} {b : Block} {p : Program}

/-- What is written for a port of a block that was read is an operand. Expressions
are so because reading has checked their characters. -/
theorem Written.operand {port : Port} {text : String} (parsed : b.Parsed)
    (written : Written b port text) : Only Text.isOperandChar text := by
  cases written with
  | atom plain => exact plain.operand
  | vector size plain =>
    refine (((isAtom_vectorName size).operand.append (by decide)).append ?_).append (by decide)
    exact Only.intercalate (by decide) fun part hpart => (plain part hpart).operand
  | expression held =>
    have valid := parsed.value?_valid held
    exact Only.mono valid.2 fun c hc => by rw [Text.isOperandChar, hc, Bool.true_or]

/-- Both sides of a call's statement are operands: the names are atoms, and so the
arguments decide. -/
theorem operand_of_call (plain : c.Plain) (parsed : ∀ b ∈ blocks, b.Parsed) {call : Call}
    (hb : b ∈ blocks) (called : Program.call c blocks b = .ok call) :
    Only Text.isOperandChar call.target ∧ Only Text.isOperandChar call.value := by
  obtain ⟨kind, arguments, known, written, rfl⟩ := call_eq_ok_iff.mp called
  have hkind := Catalog.mem_of_find? known
  obtain ⟨functionStem, resultStem⟩ := plain.stems kind hkind
  have result := (Names.isAtom_result resultStem (parsed b hb)).operand
  have function := (Names.isAtom_function functionStem (parsed b hb)).operand
  constructor
  · exact ((Only.append (by decide) (ValueType.operand_name _)).append (by decide)).append result
  · refine ((function.append (by decide)).append ?_).append (by decide)
    refine Only.intercalate (by decide) fun text htext => ?_
    obtain ⟨port, hport, printed⟩ := exists_mem_of_forall₂ written htext
    exact (written_of_argument plain parsed hkind hport printed).operand (parsed b hb)

/-- The line of a call declares the result of its block and is one statement. So the
lines of a program can be counted as its statements. -/
theorem statement_of_call (plain : c.Plain) (parsed : ∀ b ∈ blocks, b.Parsed) {call : Call}
    (hb : b ∈ blocks) (called : Program.call c blocks b = .ok call) :
    ∃ kind, c.find? b.kindId = some kind ∧
      ("  " ++ kind.outputType.name ++ " " ++ Names.result kind b.id ++ " = ").toList <+:
        ("  " ++ call.line).toList ∧
      Text.IsStatement ("  " ++ call.line).toList ∧ '\n' ∉ ("  " ++ call.line).toList := by
  obtain ⟨target, value⟩ := operand_of_call plain parsed hb called
  obtain ⟨kind, arguments, known, _, rfl⟩ := call_eq_ok_iff.mp called
  rw [Call.line_eq_assignment]
  refine ⟨kind, known, ?_, Text.isStatement_assignment target value,
    Text.not_mem_assignment target value (by decide) (by decide) (by decide)⟩
  simp only [Text.assignment, Call.target, String.toList_append, List.append_assoc,
    List.prefix_append_right_inj, List.prefix_append]

/-! ## The main function -/

/-- The statement of the fragment's color. -/
def colorLine (p : Program) : String :=
  Text.assignment ("  " ++ colorVariable) (p.outputType.toColor p.output)

/-- A line without a line break is found again in the text. The definitions in the
opening may take several lines, which are cut as well. -/
theorem pieces_text (p : Program) (calls : ∀ call ∈ p.calls, '\n' ∉ ("  " ++ call.line).toList)
    (color : '\n' ∉ p.colorLine.toList) :
    Text.pieces '\n' p.text.toList =
      p.opening.flatMap (fun line => Text.pieces '\n' line.toList) ++
        ["void main() \x7b".toList, ("  " ++ coordinatesLine).toList, []] ++
        p.calls.map (fun call => ("  " ++ call.line).toList) ++
        [p.colorLine.toList, "\x7d".toList, []] := by
  have callPieces : p.calls.flatMap (fun call => Text.pieces '\n' ("  " ++ call.line).toList) =
      p.calls.map fun call => ("  " ++ call.line).toList := by
    rw [List.map_eq_flatMap]
    exact List.flatMap_congr fun call hcall => Text.pieces_of_not_mem (calls call hcall)
  have head : ["void main() \x7b", "  " ++ coordinatesLine, ""].flatMap
      (fun line => Text.pieces '\n' line.toList) =
        ["void main() \x7b".toList, ("  " ++ coordinatesLine).toList, []] := by
    decide +kernel
  have foot : [p.colorLine, "\x7d"].flatMap (fun line => Text.pieces '\n' line.toList) =
      [p.colorLine.toList, "\x7d".toList] := by
    rw [List.flatMap_cons, Text.pieces_of_not_mem color]
    rfl
  have main : p.mainLines.flatMap (fun line => Text.pieces '\n' line.toList) =
      ["void main() \x7b".toList, ("  " ++ coordinatesLine).toList, []] ++
        p.calls.map (fun call => ("  " ++ call.line).toList) ++
        [p.colorLine.toList, "\x7d".toList] := by
    rw [mainLines, List.flatMap_append, List.flatMap_append, List.flatMap_map, head, callPieces]
    exact congrArg _ foot
  rw [text_eq_join, Text.pieces_join_lines, lines_eq_opening_append, List.flatMap_append, main]
  simp only [List.append_assoc, List.cons_append, List.nil_append]

/-- The color of a program is the result of the last sorted block, with the type of
its kind's output. -/
theorem exists_last_of_generate (generated : generate c context blocks = .ok p)
    {ordered : List Block} (sort : Block.sort c blocks = .ok ordered) :
    ∃ last kind, ordered.getLast? = some last ∧ c.find? last.kindId = some kind ∧
      p.outputType = kind.outputType ∧ p.output = Names.result kind last.id := by
  obtain ⟨_, _, _, sort', _, _, _, calls, called, lastCall, at_end, rfl⟩ :=
    generate_eq_ok_iff.mp generated
  cases sort.symm.trans sort'
  obtain ⟨last, hlast, called_last⟩ := forall₂_getLast? (mapM_eq_ok_iff.mp called) at_end
  obtain ⟨kind, _, known, _, rfl⟩ := call_eq_ok_iff.mp called_last
  exact ⟨last, kind, hlast, known, rfl, rfl⟩

/-- The color of a program is an operand, so its line is one statement too. -/
theorem operand_color (plain : c.Plain) (parsed : ∀ b ∈ blocks, b.Parsed)
    (generated : generate c context blocks = .ok p) {ordered : List Block}
    (sort : Block.sort c blocks = .ok ordered) :
    Only Text.isOperandChar (p.outputType.toColor p.output) := by
  obtain ⟨last, kind, hlast, known, _, output_eq⟩ := exists_last_of_generate generated sort
  have stem := (plain.stems kind (Catalog.mem_of_find? known)).2
  have read := parsed last (Block.mem_of_mem_sort sort (List.mem_of_getLast? hlast))
  rw [output_eq]
  exact ValueType.operand_toColor (Names.isAtom_result stem read).operand _

/-- **No value that a document can hold changes the statements of the main
function.** Cut at line breaks, a program ends with the line that starts the main
function, the coordinates, an empty line, one line for each sorted block, the
color and the closing brace. The line of a block declares its result and is one
statement. No line in front is that which starts the main function, if the
uniforms too came out of a document. -/
theorem generate_main_statements (parsed : ∀ b ∈ blocks, b.Parsed)
    (generated : generate .builtin context blocks = .ok p) :
    ∃ (ordered : List Block) (before calls : List (List Char)) (last : Block) (lastKind : Kind),
      Block.sort .builtin blocks = .ok ordered ∧ ordered.getLast? = some last ∧
      Catalog.builtin.find? last.kindId = some lastKind ∧
      Text.pieces '\n' p.text.toList =
        before ++ ["void main() \x7b".toList, ("  " ++ coordinatesLine).toList, []] ++ calls ++
          [("  " ++ colorVariable ++ " = " ++
              lastKind.outputType.toColor (Names.result lastKind last.id) ++ ";").toList,
            "\x7d".toList, []] ∧
      List.Forall₂ (fun b line => ∃ kind, Catalog.builtin.find? b.kindId = some kind ∧
        ("  " ++ kind.outputType.name ++ " " ++ Names.result kind b.id ++ " = ").toList <+: line ∧
        Text.IsStatement line) ordered calls ∧
      ((∀ u ∈ context.uniforms, u.Parsed) → "void main() \x7b".toList ∉ before) := by
  have plain := Catalog.plain_builtin
  obtain ⟨ordered, sort, placed⟩ := listed_calls_of_generate generated
  obtain ⟨last, lastKind, hlast, lastKnown, type_eq, output_eq⟩ :=
    exists_last_of_generate generated sort
  have lines : List.Forall₂ _ ordered p.calls := placed.imp fun b call ⟨hb, called⟩ =>
    statement_of_call plain parsed hb called
  have callBreaks : ∀ call ∈ p.calls, '\n' ∉ ("  " ++ call.line).toList := by
    intro call hcall
    obtain ⟨_, _, _, _, _, _, unbroken⟩ := exists_mem_of_forall₂ lines hcall
    exact unbroken
  have colorBreaks : '\n' ∉ p.colorLine.toList :=
    Text.not_mem_assignment (by decide) (operand_color plain parsed generated sort) (by decide)
      (by decide) (by decide)
  refine ⟨ordered, _, p.calls.map fun call => ("  " ++ call.line).toList, last, lastKind, sort,
    hlast, lastKnown, ?_, ?_, fun uniforms => main_not_mem_opening plain
      Catalog.parametric_builtin parsed uniforms generated⟩
  · rw [pieces_text p callBreaks colorBreaks, colorLine, type_eq, output_eq, Text.assignment]
  · rw [List.forall₂_map_right_iff]
    exact lines.imp fun b call ⟨kind, known, starts, statement, _⟩ => ⟨kind, known, starts, statement⟩

/-- An expression with brackets and an operator, which is still one statement on one
line. -/
theorem generate_main_statements_fading :
    (∀ b ∈ [Sample.fading], b.Parsed) ∧
      ∃ p, generate .builtin .usual [Sample.fading] = .ok p ∧
        ∃ before calls after : List (List Char),
          Text.pieces '\n' p.text.toList = before ++
            ["void main() \x7b".toList, ("  " ++ coordinatesLine).toList, []] ++ calls ++ after ∧
          calls ≠ [] ∧ ∀ line ∈ calls, Text.IsStatement line := by
  obtain ⟨p, generated, _⟩ := Sample.exists_program_fading
  obtain ⟨ordered, before, calls, last, _, _, hlast, _, text, lines, _⟩ :=
    generate_main_statements Sample.parsed_fading generated
  refine ⟨Sample.parsed_fading, p, generated, before, calls, _, text, ?_, ?_⟩
  · rintro rfl
    rw [List.forall₂_nil_right_iff.mp lines] at hlast
    cases hlast
  · intro line hline
    obtain ⟨_, _, _, _, _, statement⟩ := exists_mem_of_forall₂ lines hline
    exact statement

end Program

end ShaderGraph
