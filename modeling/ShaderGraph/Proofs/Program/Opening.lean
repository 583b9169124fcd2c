import Mathlib
import ShaderGraph.Proofs.Program.Arguments
import ShaderGraph.Proofs.Program.Uniforms
import ShaderGraph.Proofs.Text.Substitute

/-!
# What stands in front of the main function

A program opens with its precision, its uniforms and the definitions of its
functions. The main function is the only one without a parameter: where no
template holds an empty pair of brackets, no line of the opening does
(`Program.apart_opening`), so that none of them starts the main function.

The built-in templates are such (`Catalog.parametric_builtin`), and filling them
in brings no empty pair about, because names hold no brackets.
-/

namespace ShaderGraph

open Text (Apart IsAtom)

/-! ## Templates -/

/-- A pair that no line of a template holds, and that holds no line break, is not in
the template. Only a line break stands between two lines. -/
theorem Shaders.apart_template_iff {a b : Char} (ha : a ≠ '\n') (hb : b ≠ '\n')
    (lines : List String) :
    Apart a b (template lines).toList ↔ ∀ line ∈ lines, Apart a b line.toList := by
  have ha' : a ∉ ['\n'] := by simpa using ha
  have hb' : b ∉ ['\n'] := by simpa using hb
  have broken : (template lines).toList =
      [] ++ ['\n'] ++ ((String.intercalate "\n" lines).toList ++ ['\n'] ++ []) := by
    simp [template]
  have empty : Apart a b [] := .nil
  rw [broken, Text.apart_append_append_iff (by simp) ha' hb',
    Text.apart_append_append_iff (by simp) ha' hb',
    Text.apart_intercalate_iff (by simp) (by simpa using ha) (by simpa using hb)]
  simp only [empty, true_and, and_true]

/-- No template of the catalog holds an empty pair of brackets: every function
in it has a parameter. -/
def Catalog.Parametric (c : Catalog) : Prop := ∀ k ∈ c.kinds, Apart '(' ')' k.template.toList

/-- A line spelled out as its characters is searched for the pair. -/
theorem Shaders.apart_brackets_ofList {cs : List Char} (none : Text.occurs ['(', ')'] cs = false) :
    Apart '(' ')' (String.ofList cs).toList := by
  rw [String.toList_ofList]
  exact Text.occurs_pair_eq_false_iff.mp none

/-- No built-in template holds an empty pair of brackets, found by searching each of
their lines. -/
theorem Catalog.parametric_builtin : Catalog.builtin.Parametric := by
  unfold Catalog.Parametric Catalog.builtin builtinKinds
  simp only [List.forall_mem_cons, List.not_mem_nil, false_imp_iff, implies_true, and_true]
  simp only [Shaders.circle, Shaders.rectangle, Shaders.ring, Shaders.star, Shaders.wave,
    Shaders.grid, Shaders.checkerboard, Shaders.solidColor, Shaders.gradient, Shaders.rainbow,
    Shaders.hsvAdjust, Shaders.move, Shaders.rotate, Shaders.scale, Shaders.distort, Shaders.mix,
    Shaders.multiply, Shaders.add, Shaders.overlay, Shaders.glow, Shaders.noise, Shaders.ripple,
    Shaders.apart_template_iff (show '(' ≠ '\n' by decide) (show ')' ≠ '\n' by decide)]
  simp only [List.forall_mem_cons, List.not_mem_nil, false_imp_iff, implies_true, and_true]
  -- Line by line: a template is too long a literal to be searched as a whole.
  repeat' apply And.intro
  all_goals
    apply Shaders.apart_brackets_ofList
    decide +kernel

/-! ## Uniforms -/

/-- A uniform that came out of a document. -/
def Uniform.Parsed (u : Uniform) : Prop :=
  ∃ id origin document, Uniform.read id origin document = .accepted u

/-- A uniform that was read is named by an identifier, which holds neither brackets
nor blanks. -/
theorem Uniform.Parsed.isAtom_name {u : Uniform} (parsed : u.Parsed) : IsAtom u.name := by
  obtain ⟨id, origin, document, accepted⟩ := parsed
  simp only [Uniform.read, Read.model_eq_accepted_iff, Checked.seq_eq_accepted_iff,
    Checked.map_eq_accepted_iff, Record.required, Record.requiredAs_eq_accepted_iff,
    Read.patternText_eq_accepted_iff] at accepted
  obtain ⟨_, _, _, _, ⟨_, _, ⟨_, _, ⟨_, _, ⟨_, _, ⟨_, name, ⟨_, _, rfl⟩, ⟨_, _, _, _, matched⟩, rfl⟩,
    _, rfl⟩, _, rfl⟩, _, rfl⟩, _, rfl⟩, _, rfl⟩ := accepted
  have identifier : ∀ c ∈ name.toList, c.isAlphanum = true ∨ c = '_' := by
    unfold identifierPattern at matched
    cases spelled : name.toList with
    | nil => simp
    | cons first rest =>
      simp only [spelled, Bool.and_eq_true, List.all_eq_true, Bool.or_eq_true, beq_iff_eq] at matched
      refine List.forall_mem_cons.mpr ⟨matched.1.imp_left fun letter => ?_, matched.2⟩
      simp [Char.isAlphanum, letter]
  refine Text.only_of_forall fun c hc => ?_
  rcases identifier c hc with alphanumeric | rfl
  · simp [Text.isAtomChar, alphanumeric]
  · decide

namespace Program

open Attempt

variable {c : Catalog} {context : Context} {blocks : List Block} {p : Program}

theorem isAtom_of_mem_declareUniforms {uniforms : List Uniform} {d : UniformDeclaration}
    (parsed : ∀ u ∈ uniforms, u.Parsed) (hd : d ∈ declareUniforms uniforms) : IsAtom d.name := by
  rcases mem_declareUniforms hd with standard | ⟨u, hu, rfl⟩
  · simp only [standardUniforms, List.mem_cons, List.not_mem_nil, or_false] at standard
    rcases standard with rfl | rfl <;> decide
  · exact (parsed u hu).isAtom_name

/-! ## Definitions -/

/-- Filling in a template whose names are atoms leaves it without an empty pair of
brackets. The texts put in hold no bracket, and are not empty. -/
theorem apart_definition {k : Kind} {b : Block} (stem : IsAtom (Names.stem k ""))
    (parsed : b.Parsed) (template : Apart '(' ')' k.template.toList) :
    Apart '(' ')' (definition k b.id).toList := by
  have filled : ∀ {placeholder name text : String}, name ≠ "" → IsAtom name →
      Apart '(' ')' text.toList → Apart '(' ')' (Text.replace placeholder name text).toList := by
    intro placeholder name text nonempty plain apart
    rw [Text.replace, String.toList_ofList]
    exact apart.replaceFrom (by simpa using nonempty) (plain.not_mem (by decide))
      (plain.not_mem (by decide)) 0
  have stripped : Apart '(' ')' (Text.strip k.template).toList := by
    rw [Text.strip, String.toList_ofList]
    exact List.IsChain.infix template (Text.trimWith_infix _ _)
  refine filled ?_ ?_ (filled ?_ (Names.isAtom_sanitize parsed)
    (filled ?_ (Names.isAtom_function stem parsed) stripped))
  · cases k.outputType <;> decide
  · cases k.outputType <;> decide
  · simp [Names.sanitize, parsed.id_valid.1]
  · simp [Names.function]

/-- A definition is that of a listed block of a known kind, so what is known of
templates and ids is known of definitions. -/
theorem exists_block_of_mem_definitions (generated : generate c context blocks = .ok p)
    {text : String} (htext : text ∈ p.definitions) :
    ∃ b kind, b ∈ blocks ∧ kind ∈ c.kinds ∧ text = definition kind b.id := by
  obtain ⟨_, _, ordered, sort, _, kinds, known, _, _, _, _, rfl⟩ := generate_eq_ok_iff.mp generated
  obtain ⟨⟨b, kind⟩, hpair, rfl⟩ := List.mem_map.mp htext
  obtain ⟨hb, hkind⟩ := List.of_mem_zip hpair
  obtain ⟨_, _, found⟩ := exists_mem_of_forall₂ (mapM_eq_ok_iff.mp known) hkind
  exact ⟨b, kind, Block.mem_of_mem_sort sort hb, Catalog.mem_of_find? (kindOf_eq_ok_iff.mp found),
    rfl⟩

/-! ## The opening -/

/-- The lines in front of the main function. -/
def opening (p : Program) : List String :=
  ["precision " ++ p.precision.name ++ " float;", ""]
    ++ p.uniforms.map UniformDeclaration.line
    ++ [""]
    ++ p.definitions.flatMap (fun d => [d, ""])

theorem lines_eq_opening_append (p : Program) : p.lines = p.opening ++ p.mainLines := rfl

/-- No line of the opening holds an empty pair of brackets, be it a directive, a
declaration or part of a definition. -/
theorem apart_opening (plain : c.Plain) (parametric : c.Parametric)
    (parsed : ∀ b ∈ blocks, b.Parsed) (uniforms : ∀ u ∈ context.uniforms, u.Parsed)
    (generated : generate c context blocks = .ok p) :
    ∀ line ∈ p.opening, Apart '(' ')' line.toList := by
  have empty : Apart '(' ')' "".toList := .nil
  intro line hline
  simp only [opening, List.mem_append, List.mem_cons, List.not_mem_nil, or_false, List.mem_map,
    List.mem_flatMap] at hline
  rcases hline with ((((rfl | rfl) | ⟨d, hd, rfl⟩) | rfl) | ⟨text, htext, rfl | rfl⟩)
  · cases p.precision <;> exact Text.occurs_pair_eq_false_iff.mp (by decide)
  · exact empty
  · have declared : d ∈ declareUniforms context.uniforms := by
      obtain ⟨_, _, _, _, _, _, _, _, _, _, _, rfl⟩ := generate_eq_ok_iff.mp generated
      exact hd
    have name := (isAtom_of_mem_declareUniforms uniforms declared).not_mem
      (c := '(') (by decide)
    apply Text.apart_of_not_mem_left
    cases h : d.type <;> simp [UniformDeclaration.line, h, name, ValueType.name]
  · exact empty
  · obtain ⟨b, kind, hb, hkind, rfl⟩ := exists_block_of_mem_definitions generated htext
    exact apart_definition (plain.stems kind hkind).1 (parsed b hb) (parametric kind hkind)
  · exact empty

/-- No line of the opening starts the main function, even where a definition takes
several lines. So in the text of a program the main function is found at its first
line. -/
theorem main_not_mem_opening (plain : c.Plain) (parametric : c.Parametric)
    (parsed : ∀ b ∈ blocks, b.Parsed) (uniforms : ∀ u ∈ context.uniforms, u.Parsed)
    (generated : generate c context blocks = .ok p) :
    "void main() \x7b".toList ∉ p.opening.flatMap fun line => Text.pieces '\n' line.toList := by
  intro started
  obtain ⟨line, hline, hpiece⟩ := List.mem_flatMap.mp started
  have apart := apart_opening plain parametric parsed uniforms generated line hline
  have inside := List.IsChain.infix apart (Text.infix_of_mem_pieces hpiece)
  exact absurd (Text.occurs_pair_eq_false_iff.mpr inside) (by decide)

end Program

end ShaderGraph
