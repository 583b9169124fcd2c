import Mathlib
import ShaderGraph.Proofs.Program.Arguments
import ShaderGraph.Proofs.Program.Template

/-!
# Definitions filled in

A definition is the template of a kind with one placeholder replaced after the other, so that what
was put in for the first is looked through again for the next. Where every pair of opening braces
starts a placeholder and the name of the function holds no opening brace, this makes no difference:
the definition is the template with all placeholders filled in one pass, and no pair of opening braces
is left in it (`definition_eq_fill`).

The built-in templates are well marked and their functions have such names
(`Catalog.wellMarked_builtin`, `Names.brace_not_mem_function`).
-/

namespace ShaderGraph

open Template (Placeholder WellMarked Token)

/-! ## Values of placeholders -/

/-- A text with every placeholder in it replaced in one pass. -/
def Template.fill (value : Placeholder → String) (text : String) : String :=
  String.ofList (Template.fillFrom id (fun p => (value p).toList) 0 text.toList)

namespace Program

/-- What a block puts for the placeholders of its kind. -/
def placeholderValue (k : Kind) (id : String) : Placeholder → String
  | .name => Names.function k id
  | .id => Names.sanitize id
  | .outputType => k.outputType.name

variable {k : Kind} {id : String}

/-- If the name of the function holds no opening brace, nothing that is put in does: the id is part
of this name, and the names of types are words. -/
theorem brace_not_mem_placeholderValue (plain : '\x7b' ∉ (Names.function k id).toList)
    (p : Placeholder) : '\x7b' ∉ (placeholderValue k id p).toList := by
  cases p with
  | name => exact plain
  | id =>
    intro brace
    apply plain
    rw [Names.function, String.toList_append]
    exact List.mem_append_right _ brace
  | outputType =>
    show '\x7b' ∉ k.outputType.name.toList
    cases k.outputType <;> decide

end Program

/-- Putting texts in for one placeholder after the other leaves no hole, and comes to filling all of
them at once. -/
theorem Template.flatMap_put_each (value : Placeholder → List Char) (tokens : List Token) :
    ((tokens.flatMap (Token.put .name (value .name))).flatMap (Token.put .id (value .id))).flatMap
      (Token.put .outputType (value .outputType)) =
        (tokens.flatMap (Token.fill id value)).map .char := by
  induction tokens with
  | nil => rfl
  | cons token tokens ih =>
    simp only [List.flatMap_cons, List.flatMap_append, List.map_append, ih]
    congr 1
    cases token with
    | char c => rfl
    | hole p =>
      -- A text is put in at its turn, and the turns behind it find no hole in it.
      cases p with
      | name =>
        show (((value .name).map Token.char).flatMap _).flatMap _ = _
        rw [flatMap_put_map_char, flatMap_put_map_char]
        rfl
      | id =>
        show (((value .id).map Token.char ++ []).flatMap _) = _
        rw [List.append_nil, flatMap_put_map_char]
        rfl
      | outputType => exact List.append_nil _

/-- Replacing one placeholder after the other fills every hole, if nothing that is put in holds an
opening brace, and no pair of opening braces is left. With a brace, what is put in could make a
placeholder with what stands around it. -/
theorem Template.replaceFrom_each {tokens : List Token} (opened : Open tokens)
    {value : Placeholder → List Char} (plain : ∀ p, '\x7b' ∉ value p) :
    Text.replaceFrom Placeholder.outputType.text (value .outputType) 0
        (Text.replaceFrom Placeholder.id.text (value .id) 0
          (Text.replaceFrom Placeholder.name.text (value .name) 0 (spell tokens))) =
      tokens.flatMap (Token.fill id value) ∧
    Text.Apart '\x7b' '\x7b' (tokens.flatMap (Token.fill id value)) := by
  have named := opened.flatMap_put (p := .name) (plain .name)
  have identified := named.flatMap_put (p := .id) (plain .id)
  have typed := identified.flatMap_put (p := .outputType) (plain .outputType)
  rw [replaceFrom_spell opened, replaceFrom_spell named, replaceFrom_spell identified,
    flatMap_put_each, spell_map_char]
  rw [flatMap_put_each] at typed
  exact ⟨rfl, open_map_char_iff.mp typed⟩

namespace Program

variable {k : Kind} {id : String}

/-- The three replacements of a definition, on characters: first the name, then the id, and the
output's type at last. -/
theorem toList_definition : (definition k id).toList =
    Text.replaceFrom Placeholder.outputType.text (placeholderValue k id .outputType).toList 0
      (Text.replaceFrom Placeholder.id.text (placeholderValue k id .id).toList 0
        (Text.replaceFrom Placeholder.name.text (placeholderValue k id .name).toList 0
          (Text.strip k.template).toList)) := by
  simp only [definition, Text.replace, String.toList_ofList]
  rfl

/-- Stripping blanks from a well-marked text leaves it well marked, as a placeholder holds no blanks
and is never cut. -/
theorem wellMarked_strip {text : String} (marked : WellMarked text.toList) :
    WellMarked (Text.strip text).toList := by
  rw [Text.strip, String.toList_ofList]
  exact marked.trimWith

/-- A definition is its stripped template with all placeholders filled in one pass, and no pair of
opening braces is left in it. -/
theorem definition_eq_fill (marked : WellMarked k.template.toList)
    (plain : '\x7b' ∉ (Names.function k id).toList) :
    definition k id = Template.fill (placeholderValue k id) (Text.strip k.template) ∧
      Text.Apart '\x7b' '\x7b' (definition k id).toList := by
  obtain ⟨tokens, spelled, opened⟩ := Template.exists_tokens (wellMarked_strip marked)
  obtain ⟨filled, apart⟩ :=
    Template.replaceFrom_each opened (brace_not_mem_placeholderValue plain)
  rw [spelled, ← toList_definition] at filled
  refine ⟨?_, filled ▸ apart⟩
  apply String.toList_injective
  rw [Template.fill, String.toList_ofList, ← spelled, Template.fillFrom_spell opened, filled]

end Program

/-! ## The built-in templates -/

/-- The text of a template is well marked if each of its lines is. No placeholder goes over the end
of a line. -/
theorem Shaders.wellMarked_template {lines : List String}
    (each : ∀ line ∈ lines, WellMarked line.toList) : WellMarked (template lines).toList := by
  have break_ne : '\n' ≠ '\x7b' := by decide
  have empty : WellMarked [] := by decide
  have joined : WellMarked (String.intercalate "\n" lines).toList := by
    induction lines with
    | nil => exact empty
    | cons line rest ih =>
      obtain ⟨first, others⟩ := List.forall_mem_cons.mp each
      cases rest with
      | nil => simpa using first
      | cons next rest =>
        have cut : (String.intercalate "\n" (line :: next :: rest)).toList =
            line.toList ++ '\n' :: (String.intercalate "\n" (next :: rest)).toList := by
          simp [String.intercalate_cons_cons]
        rw [cut]
        exact first.append_break break_ne (ih others)
  have framed : (template lines).toList =
      [] ++ '\n' :: ((String.intercalate "\n" lines).toList ++ '\n' :: []) := by
    simp [template]
  rw [framed]
  exact empty.append_break break_ne (joined.append_break break_ne empty)

/-- A line spelled out as its characters is searched for braces. -/
theorem Shaders.wellMarked_ofList {cs : List Char} (each : Template.wellMarked cs = true) :
    WellMarked (String.ofList cs).toList := by
  rw [String.toList_ofList]
  exact Template.wellMarked_eq_true_iff.mp each

/-- The built-in templates are well marked, found by searching each of their lines. -/
theorem Catalog.wellMarked_builtin : ∀ k ∈ Catalog.builtin.kinds, WellMarked k.template.toList := by
  unfold Catalog.builtin builtinKinds
  simp only [List.forall_mem_cons, List.not_mem_nil, false_imp_iff, implies_true, and_true]
  simp only [Shaders.circle, Shaders.rectangle, Shaders.ring, Shaders.star, Shaders.wave,
    Shaders.grid, Shaders.checkerboard, Shaders.solidColor, Shaders.gradient, Shaders.rainbow,
    Shaders.hsvAdjust, Shaders.move, Shaders.rotate, Shaders.scale, Shaders.distort, Shaders.mix,
    Shaders.multiply, Shaders.add, Shaders.overlay, Shaders.glow, Shaders.noise, Shaders.ripple]
  repeat' apply And.intro
  all_goals
    apply Shaders.wellMarked_template
    simp only [List.forall_mem_cons, List.not_mem_nil, false_imp_iff, implies_true, and_true]
  -- Line by line: a template is too long a literal to be searched as a whole.
  repeat' apply And.intro
  all_goals
    apply Shaders.wellMarked_ofList
    decide +kernel

/-- The functions of built-in kinds have names without an opening brace, whatever the id, as long as
it is a valid one. -/
theorem Names.brace_not_mem_function {k : Kind} (known : k ∈ Catalog.builtin.kinds) {id : String}
    (valid : Block.ValidId id) : '\x7b' ∉ (function k id).toList := by
  have stem := ((Catalog.plain_builtin.stems k known).1).not_mem (c := '\x7b') (by decide)
  have sanitized : '\x7b' ∉ (sanitize id).toList := by
    intro brace
    rcases alphanum_or_underscore_of_mem_sanitize valid brace with letter | same
    · exact absurd letter (by decide)
    · exact absurd same (by decide)
  simp [function, stem, sanitized]

/-! ## Definitions -/

namespace Sample

/-- A kind whose template declares two helpers and opens single braces around placeholders. -/
def hashed : Kind := { sum with
  name := "Hash"
  template :=
    "\n\x7b\x7boutputType\x7d\x7d h_\x7b\x7bid\x7d\x7dx(vec2 p) \x7b " ++
    "return g\x7b\x7bid\x7d\x7d(p);\x7d\n" ++
    "\x7b\x7boutputType\x7d\x7d \x7b\x7bname\x7d\x7d(vec2 p) \x7breturn h_\x7b\x7bid\x7d\x7dx(p);\x7d " }

end Sample

/-- Where every pair of opening braces in the template of a kind starts a placeholder and the name of
the function holds no opening brace, the successive replacements of a definition come to one
simultaneous substitution in the stripped template, and leave no pair of opening braces. The built-in
kinds are such. -/
theorem Program.definition_simultaneous :
    (∀ (k : Kind) (id : String), WellMarked k.template.toList →
      '\x7b' ∉ (Names.function k id).toList →
      definition k id = Template.fill (placeholderValue k id) (Text.strip k.template) ∧
        Text.occurs ['\x7b', '\x7b'] (definition k id).toList = false) ∧
    ∀ k ∈ Catalog.builtin.kinds, WellMarked k.template.toList ∧
      ∀ id, Block.ValidId id → '\x7b' ∉ (Names.function k id).toList := by
  constructor
  · intro k id marked plain
    obtain ⟨filled, apart⟩ := definition_eq_fill marked plain
    exact ⟨filled, Text.occurs_pair_eq_false_iff.mpr apart⟩
  · intro k known
    refine ⟨Catalog.wellMarked_builtin k known, fun id valid => ?_⟩
    exact Names.brace_not_mem_function known valid

/-- The single braces around the bodies in this template are left alone, and replacing one kind of
placeholder after the other fills all of them at once. -/
theorem Program.definition_simultaneous_hashed :
    WellMarked Sample.hashed.template.toList ∧ '\x7b' ∉ (Names.function Sample.hashed "b-1").toList ∧
      definition Sample.hashed "b-1" =
        Template.fill (placeholderValue Sample.hashed "b-1") (Text.strip Sample.hashed.template) := by
  have marked : WellMarked Sample.hashed.template.toList := by decide +kernel
  have plain : '\x7b' ∉ (Names.function Sample.hashed "b-1").toList := by decide +kernel
  exact ⟨marked, plain, (definition_simultaneous.1 Sample.hashed "b-1" marked plain).1⟩

end ShaderGraph
