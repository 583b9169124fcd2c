import Mathlib
import ShaderGraph.Proofs.Order.Firsts
import ShaderGraph.Proofs.Program.Calls

/-!
# The uniforms a program declares

A program declares the standard uniforms and behind them those of its context, but no name twice. So
it declares the first of each name in the two lists taken together
(`Program.firstOfEach_declareUniforms`): a uniform named like a standard one is left out, whatever
its type, and of several with one name the first gives the type.

The declarations are the lines of a program between its precision and its definitions, one line for
each name (`Program.generate_declares_each_once`). Whether a uniform is named like a function is not
asked here; see `ShaderGraph.Proofs.Program.Globals`.
-/

namespace ShaderGraph

/-- The declaration of a uniform. -/
def Uniform.declaration (u : Uniform) : UniformDeclaration := ⟨u.type, u.name⟩

/-- The declaration found under a name is that of the uniform found under it, so types can be told
from the uniforms of the context. -/
theorem Uniform.find?_declaration_eq_some_iff {uniforms : List Uniform} {d : UniformDeclaration} :
    (uniforms.map declaration).find? (·.name == d.name) = some d ↔
      ∃ u, uniforms.find? (·.name == d.name) = some u ∧ d.type = u.type := by
  rw [List.find?_map, Option.map_eq_some_iff]
  constructor
  · rintro ⟨u, found, rfl⟩
    exact ⟨u, found, rfl⟩
  · rintro ⟨u, found, type⟩
    refine ⟨u, found, ?_⟩
    have name : u.name = d.name := by simpa only [beq_iff_eq] using List.find?_some found
    rw [declaration, name, ← type]

/-! ## A list with names that come again -/

namespace Sample

/-- A uniform of a name and a type. -/
def slider (name : String) (type : ValueType) : Uniform :=
  ⟨name, name, type, .number .zero, .zero, .zero, .zero⟩

/-- Uniforms of which one is named like a standard one, and two share a name. -/
def sliders : List Uniform :=
  [slider "iTime" .vec3, slider "uTint" .vec3, slider "uGain" .vec2, slider "uTint" .float]

end Sample

namespace Program

/-! ## The first of each name -/

/-- The uniforms are declared one after the other, behind the standard ones, each unless its name is
taken. -/
theorem declareUniforms_eq_foldl (uniforms : List Uniform) :
    declareUniforms uniforms =
      (uniforms.map Uniform.declaration).foldl (addFirst UniformDeclaration.name) standardUniforms := by
  rw [List.foldl_map]
  rfl

/-- A program declares the first of each name, the standard uniforms in front. All that is said
about declarations is read off from this. -/
theorem firstOfEach_declareUniforms (uniforms : List Uniform) :
    FirstOfEach UniformDeclaration.name (standardUniforms ++ uniforms.map Uniform.declaration)
      (declareUniforms uniforms) := by
  have standard : FirstOfEach UniformDeclaration.name standardUniforms standardUniforms :=
    firstOfEach_firstsBy UniformDeclaration.name standardUniforms
  rw [declareUniforms_eq_foldl]
  exact standard.foldl _

/-- The uniforms of a program have different names, with the standard ones among them. -/
theorem nodup_declareUniforms (uniforms : List Uniform) :
    ((declareUniforms uniforms).map UniformDeclaration.name).Nodup :=
  (firstOfEach_declareUniforms uniforms).nodup_keys

/-- Every uniform of the list has its name declared, and beside the standard ones nothing
else is. -/
theorem mem_names_declareUniforms_iff {uniforms : List Uniform} {name : String} :
    name ∈ (declareUniforms uniforms).map UniformDeclaration.name ↔
      name ∈ standardUniforms.map UniformDeclaration.name ∨ name ∈ uniforms.map Uniform.name := by
  rw [(firstOfEach_declareUniforms uniforms).mem_keys_iff, List.map_append, List.mem_append,
    List.map_map]
  rfl

/-- A declared uniform is a standard one or one of the list, with its own type and name. -/
theorem mem_declareUniforms {uniforms : List Uniform} {d : UniformDeclaration}
    (hd : d ∈ declareUniforms uniforms) :
    d ∈ standardUniforms ∨ ∃ u ∈ uniforms, d = ⟨u.type, u.name⟩ := by
  have found := ((firstOfEach_declareUniforms uniforms).mem_iff d).mp hd
  rcases List.mem_append.mp (List.mem_of_find?_eq_some found) with standard | listed
  · exact .inl standard
  · obtain ⟨u, hu, rfl⟩ := List.mem_map.mp listed
    exact .inr ⟨u, hu, rfl⟩

/-- Behind the standard uniforms stand the first uniforms of the other names, in the order in which
these names occur first. -/
theorem exists_declareUniforms_eq_append (uniforms : List Uniform) :
    ∃ others, declareUniforms uniforms = standardUniforms ++ others ∧
      (∀ d, d ∈ others ↔ d.name ∉ standardUniforms.map UniformDeclaration.name ∧
        ∃ u, uniforms.find? (·.name == d.name) = some u ∧ d.type = u.type) ∧
      others.Pairwise fun d e =>
        (uniforms.map Uniform.name).idxOf d.name < (uniforms.map Uniform.name).idxOf e.name := by
  obtain ⟨others, split⟩ := prefix_foldl_addFirst UniformDeclaration.name
    (uniforms.map Uniform.declaration) standardUniforms
  rw [← declareUniforms_eq_foldl] at split
  have first := firstOfEach_declareUniforms uniforms
  rw [← split] at first
  obtain ⟨mem_iff, ordered⟩ := first.of_append
  rw [List.map_map] at ordered
  refine ⟨others, split.symm, fun d => ?_, ordered⟩
  rw [mem_iff, Uniform.find?_declaration_eq_some_iff]

/-! ## The text -/

/-- The declarations stand behind the precision, a line each, with an empty line on both sides. -/
theorem exists_text_eq_append (p : Program) :
    ∃ rest, p.text = "precision " ++ p.precision.name ++ " float;\n\n" ++
      String.join (p.uniforms.map fun d => "uniform " ++ d.type.name ++ " " ++ d.name ++ ";\n") ++
        "\n" ++ rest := by
  refine ⟨String.join ((p.definitions.flatMap (fun d => [d, ""]) ++ p.mainLines).map (· ++ "\n")), ?_⟩
  have line : ∀ d : UniformDeclaration,
      d.line ++ "\n" = "uniform " ++ d.type.name ++ " " ++ d.name ++ ";\n" := by
    intro d
    simp only [UniformDeclaration.line, String.append_assoc]
    rfl
  simp only [text_eq_join, lines, List.map_append, List.map_map, String.join_append, List.map_cons,
    List.map_nil, String.join_cons, String.join_nil, Function.comp_def, line]
  simp only [← String.toList_inj, String.toList_append, List.append_assoc]
  rfl

variable {c : Catalog} {context : Context} {blocks : List Block} {p : Program}

/-- **The uniform block of a program declares each name once**, whatever uniforms its context lists.
It declares the two standard uniforms with their types, and behind them the other names of the list
in the order of their first occurrences, each with the type of its first occurrence; and no name of
the list is left out. -/
theorem generate_declares_each_once (generated : generate c context blocks = .ok p) :
    ∃ (others : List UniformDeclaration) (rest : String),
      p.uniforms = [⟨.vec2, "iResolution"⟩, ⟨.float, "iTime"⟩] ++ others ∧
      (p.text = "precision " ++ context.precision.name ++ " float;\n\n" ++
        String.join (p.uniforms.map fun d => "uniform " ++ d.type.name ++ " " ++ d.name ++ ";\n") ++
          "\n" ++ rest) ∧
      (p.uniforms.map UniformDeclaration.name).Nodup ∧
      (∀ d, d ∈ others ↔ d.name ∉ ["iResolution", "iTime"] ∧
        ∃ u, context.uniforms.find? (·.name == d.name) = some u ∧ d.type = u.type) ∧
      (others.Pairwise fun d e => (context.uniforms.map Uniform.name).idxOf d.name <
        (context.uniforms.map Uniform.name).idxOf e.name) ∧
      ∀ u ∈ context.uniforms, u.name ∈ p.uniforms.map UniformDeclaration.name := by
  obtain ⟨_, _, _, _, _, _, _, _, _, _, _, program⟩ := generate_eq_ok_iff.mp generated
  have declared : p.uniforms = declareUniforms context.uniforms := by rw [program]
  have precision : p.precision = context.precision := by rw [program]
  obtain ⟨others, split, mem_iff, ordered⟩ := exists_declareUniforms_eq_append context.uniforms
  obtain ⟨rest, text⟩ := exists_text_eq_append p
  rw [precision] at text
  refine ⟨others, rest, declared.trans split, text, ?_, mem_iff, ordered, fun u hu => ?_⟩
  · rw [declared]
    exact nodup_declareUniforms _
  · rw [declared, mem_names_declareUniforms_iff]
    exact .inr (List.mem_map_of_mem hu)

/-- A uniform with a standard name is left out, and so is a name that comes again with another type:
the first type is declared. -/
theorem generate_declares_each_once_sliders :
    ∃ p rest, generate Sample.palette ⟨.highp, Sample.sliders⟩ Sample.painting = .ok p ∧
      p.uniforms.map UniformDeclaration.name = ["iResolution", "iTime", "uTint", "uGain"] ∧
      p.text = "precision highp float;\n\nuniform vec2 iResolution;\nuniform float iTime;\n" ++
        "uniform vec3 uTint;\nuniform vec2 uGain;\n\n" ++ rest ∧
      ∀ u ∈ Sample.sliders, u.name ∈ p.uniforms.map UniformDeclaration.name := by
  have generated : generate Sample.palette ⟨.highp, Sample.sliders⟩ Sample.painting =
      .ok { Sample.picture with
        precision := .highp
        uniforms := standardUniforms ++ [⟨.vec3, "uTint"⟩, ⟨.vec2, "uGain"⟩] } := by
    decide +kernel
  obtain ⟨_, rest, _, text, _, _, _, every⟩ := generate_declares_each_once generated
  exact ⟨_, rest, generated, rfl, text, every⟩

end Program

end ShaderGraph
