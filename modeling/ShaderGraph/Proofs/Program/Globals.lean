import Mathlib
import ShaderGraph.Proofs.Names.Helpers
import ShaderGraph.Proofs.Program.Opening

/-!
# The names a program declares at global scope

A program declares its uniforms, the main function, and for every block a function and
its helpers. Each of these comes from a place that looks after itself: a uniform that is
declared already is passed over, and blocks whose names collide are refused. So uniforms
have different names, and so have functions (`Program.nodup_declareUniforms`,
`Program.nodup_functionNames`).

Nobody compares a uniform with a function. All names are different exactly when no
uniform of the context is named like a function (`Program.generate_globals_nodup_iff`).
-/

namespace ShaderGraph

/-- The functions that a block brings into a program: its own and its helpers. A block
of unknown kind has none. -/
def Names.functions (c : Catalog) (b : Block) : List String :=
  ((c.find? b.kindId).map fun k => function k b.id :: helpers k b.id).getD []

/-- A block does not collide with itself, even if it declares an identifier twice. -/
theorem Names.collisions_singleton (c : Catalog) (b : Block) : collisions c [b] = [] := by
  refine collisions_eq_nil_iff.mpr fun x y identifier hx hy => ?_
  have only : ∀ {x}, (x, identifier) ∈ declarations c [b] → x = b.id := by
    intro x hx
    obtain ⟨_, _, first, _⟩ := mem_declarations_iff.mp hx
    rw [← Block.id_eq_of_find? first, List.mem_singleton.mp (List.mem_of_find?_eq_some first)]
  rw [only hx, only hy]

namespace Program

/-- The name of the main function. -/
def mainName : String := "main"

/-- The names of the functions in the program of sorted blocks. -/
def functionNames (c : Catalog) (ordered : List Block) : List String :=
  mainName :: ordered.flatMap (Names.functions c)

/-- The names that the program of sorted blocks declares at global scope. -/
def globals (c : Catalog) (ordered : List Block) (p : Program) : List String :=
  p.uniforms.map UniformDeclaration.name ++ functionNames c ordered

/-! ## Functions -/

section Functions

variable {c : Catalog} {blocks ordered : List Block} {b : Block} {name : String}

/-- The functions of a block are that of its kind and the helpers; a block of unknown
kind has none. -/
theorem mem_functions_iff : name ∈ Names.functions c b ↔
    ∃ kind, c.find? b.kindId = some kind ∧
      (name = Names.function kind b.id ∨ name ∈ Names.helpers kind b.id) := by
  unfold Names.functions
  cases c.find? b.kindId <;> simp

/-- A function of a block is among the identifiers the block declares, so functions of
different blocks are covered by what is known of collisions. -/
theorem mem_declarations_of_mem_functions (first : Block.find? blocks b.id = some b)
    (hname : name ∈ Names.functions c b) : (b.id, name) ∈ Names.declarations c blocks := by
  obtain ⟨kind, known, named⟩ := mem_functions_iff.mp hname
  refine Names.mem_declarations_iff.mpr ⟨b, kind, first, known, ?_⟩
  rcases named with rfl | helper
  · exact List.mem_cons_self
  · exact List.mem_cons_of_mem _ (List.mem_cons_of_mem _ helper)

/-- The functions of a block all have an underscore in their names, which the main
function has not. -/
theorem underscore_mem_of_mem_functions (apart : c.HelpersApart)
    (hname : name ∈ Names.functions c b) : '_' ∈ name.toList := by
  obtain ⟨kind, known, rfl | helper⟩ := mem_functions_iff.mp hname
  · exact Names.underscore_mem_function kind b.id
  · exact Names.underscore_mem_of_mem_helpers apart (Catalog.mem_of_find? known) helper

/-- The functions of one block have different names: a helper is listed once, and none
is named like the function itself. -/
theorem nodup_functions (apart : c.HelpersApart) (b : Block) : (Names.functions c b).Nodup := by
  unfold Names.functions
  cases known : c.find? b.kindId with
  | none => exact List.nodup_nil
  | some kind =>
    exact List.nodup_cons.mpr ⟨Names.function_not_mem_helpers apart (Catalog.mem_of_find? known),
      Names.nodup_helpers kind b.id⟩

/-- The functions of a program have different names. Those of one block are set apart by
the templates, those of different blocks because nothing collides, and the main function
because its name has no underscore. -/
theorem nodup_functionNames (apart : c.HelpersApart) (sort : Block.sort c blocks = .ok ordered)
    (distinct : Names.collisions c blocks = []) : (functionNames c ordered).Nodup := by
  refine List.nodup_cons.mpr ⟨?_, List.nodup_flatMap.mpr ⟨fun b _ => nodup_functions apart b, ?_⟩⟩
  · intro main
    obtain ⟨b, _, hmain⟩ := List.mem_flatMap.mp main
    exact absurd (underscore_mem_of_mem_functions apart hmain) (by decide)
  · have ids : ordered.Pairwise fun b b' => b.id ≠ b'.id :=
      List.pairwise_map.mp (Block.inOrder_of_sort sort).nodup
    refine ids.imp_of_mem fun {b b'} hb hb' different name hname hname' => different ?_
    exact Names.collisions_eq_nil_iff.mp distinct b.id b'.id name
      (mem_declarations_of_mem_functions ((Block.mem_iff_of_sort sort).mp hb) hname)
      (mem_declarations_of_mem_functions ((Block.mem_iff_of_sort sort).mp hb') hname')

/-- A name without an underscore is that of no function but the main one; the built-in
uniforms have such names. -/
theorem not_mem_functionNames (apart : c.HelpersApart) (plain : '_' ∉ name.toList)
    (other : name ≠ mainName) : name ∉ functionNames c ordered := by
  intro hname
  rcases List.mem_cons.mp hname with main | among
  · exact other main
  · obtain ⟨b, _, hb⟩ := List.mem_flatMap.mp among
    exact plain (underscore_mem_of_mem_functions apart hb)

end Functions

end Program

/-! ## A program that declares names twice -/

namespace Sample

/-- A block of the kind that has helpers. -/
def tinted : Block := ⟨"a", "color-hsv-adjust", [], .zero⟩

/-- A uniform of a name. -/
def uniform (name : String) : Uniform :=
  ⟨name, name, .float, .number .zero, .zero, .zero, .zero⟩

/-- Uniforms that are named like the main function, the function of `tinted`, and one of
its helpers. -/
def shadows : List Uniform := ["main", "hsvadjust_a", "rgb2hsv_a"].map uniform

/-- The block in the example has a program, whatever uniforms come with it. -/
theorem exists_program_tinted (context : Context) :
    ∃ p, Program.generate .builtin context [tinted] = .ok p := by
  have known : ∃ kind, Catalog.builtin.find? tinted.kindId = some kind :=
    Option.isSome_iff_exists.mp (by decide +kernel)
  have called : (Program.call .builtin [tinted] tinted).map Call.function = .ok "hsvadjust_a" := by
    decide +kernel
  have sorts : (Block.sort .builtin [tinted]).map (List.map Block.id) = .ok ["a"] := by
    decide +kernel
  obtain ⟨call, called, _⟩ := Attempt.exists_of_map_eq_ok called
  obtain ⟨ordered, sort, _⟩ := Attempt.exists_of_map_eq_ok sorts
  refine (Program.exists_generate_iff context (by simp)).mpr ⟨List.forall_mem_singleton.mpr known,
    Names.collisions_singleton .builtin tinted, ordered, sort, fun b hb => ?_⟩
  cases List.mem_singleton.mp (Block.mem_of_mem_sort sort hb)
  exact ⟨call, called⟩

theorem parsed_tinted : ∀ b ∈ [tinted], b.Parsed :=
  List.forall_mem_singleton.mpr ⟨.text, tinted.toJson, by cbv⟩

theorem parsed_shadows : ∀ u ∈ shadows, u.Parsed := by
  have reads : ∀ u ∈ shadows,
      ((Uniform.read "" .text u.toJson).toExcept Uniform.title .text).toOption = some u := by
    decide +kernel
  exact fun u hu => ⟨"", .text, u.toJson, Checked.toOption_toExcept_eq_some_iff.mp (reads u hu)⟩

/-- The functions of `tinted` that `shadows` names: that of the block and one of its
helpers. -/
theorem functions_tinted :
    "hsvadjust_a" ∈ Names.functions .builtin tinted ∧
      "rgb2hsv_a" ∈ Names.functions .builtin tinted := by
  have found : (Catalog.builtin.find? tinted.kindId).map (fun kind => (kind.name, kind.template)) =
      some ("HSV Adjust", Shaders.hsvAdjust) := rfl
  obtain ⟨kind, known, same⟩ := Option.map_eq_some_iff.mp found
  obtain ⟨name, template⟩ := Prod.mk.inj same
  refine ⟨Program.mem_functions_iff.mpr ⟨kind, known, .inl ?_⟩,
    Program.mem_functions_iff.mpr ⟨kind, known, .inr ?_⟩⟩
  · rw [Names.function, Names.stem, name]
    decide +kernel
  · rw [Names.mem_helpers_iff, template, Shaders.hsvAdjust,
      Names.mem_marked_template_iff (by decide) (by decide)]
    exact ⟨"vec3 rgb2hsv_\x7b\x7bid\x7d\x7d(vec3 c) \x7b", by simp, by decide +kernel⟩

end Sample

/-! ## All names -/

namespace Program

variable {c : Catalog} {context : Context} {blocks ordered : List Block} {p : Program}

/-- All names are different exactly when no uniform is named like a function. The
uniforms that every program has are named like none, so only those of the context are
left to ask about. -/
theorem nodup_globals_iff (apart : c.HelpersApart)
    (declared : p.uniforms = declareUniforms context.uniforms)
    (functions : (functionNames c ordered).Nodup) :
    (globals c ordered p).Nodup ↔ ∀ u ∈ context.uniforms, u.name ∉ functionNames c ordered := by
  rw [globals, declared, List.nodup_append']
  constructor
  · rintro ⟨_, _, disjoint⟩ u hu
    exact disjoint (mem_names_declareUniforms_iff.mpr (.inr (List.mem_map_of_mem hu)))
  · intro foreign
    refine ⟨nodup_declareUniforms _, functions, fun name hname => ?_⟩
    rcases mem_names_declareUniforms_iff.mp hname with standard | listed
    · have plain : ∀ name ∈ standardUniforms.map UniformDeclaration.name,
          '_' ∉ name.toList ∧ name ≠ mainName := by decide
      exact not_mem_functionNames apart (plain name standard).1 (plain name standard).2
    · obtain ⟨u, hu, rfl⟩ := List.mem_map.mp listed
      exact foreign u hu

/-- **The names that a program declares at global scope are different exactly when no
uniform of the context is named like a function.** The uniforms have different names
among themselves, and so have the functions: those of the blocks, their helpers and the
main function. -/
theorem generate_globals_nodup_iff (generated : generate .builtin context blocks = .ok p) :
    ∃ ordered, Block.sort .builtin blocks = .ok ordered ∧
      (p.uniforms.map UniformDeclaration.name).Nodup ∧ (functionNames .builtin ordered).Nodup ∧
      ((globals .builtin ordered p).Nodup ↔
        ∀ u ∈ context.uniforms, u.name ∉ functionNames .builtin ordered) := by
  obtain ⟨_, _, ordered, sort, distinct, _, _, _, _, _, _, rfl⟩ := generate_eq_ok_iff.mp generated
  have functions := nodup_functionNames Catalog.helpersApart_builtin sort distinct
  exact ⟨ordered, sort, nodup_declareUniforms _, functions,
    nodup_globals_iff Catalog.helpersApart_builtin rfl functions⟩

/-- A uniform that is named like no function, so all names of the program are
different. -/
theorem generate_globals_nodup_iff_tinted :
    ∃ ordered p, generate .builtin ⟨.mediump, [Sample.uniform "iSpeed"]⟩ [Sample.tinted] = .ok p ∧
      Block.sort .builtin [Sample.tinted] = .ok ordered ∧ (globals .builtin ordered p).Nodup := by
  obtain ⟨p, generated⟩ := Sample.exists_program_tinted ⟨.mediump, [Sample.uniform "iSpeed"]⟩
  obtain ⟨ordered, sort, _, _, distinct⟩ := generate_globals_nodup_iff generated
  refine ⟨ordered, p, generated, sort, distinct.mpr (List.forall_mem_singleton.mpr ?_)⟩
  exact not_mem_functionNames Catalog.helpersApart_builtin (by decide) (by decide)

/-- Uniforms can be named like the main function, the function of a block and a helper.
There is a program all the same, and it declares each of these names twice. -/
theorem uniforms_named_like_functions :
    (∀ b ∈ [Sample.tinted], b.Parsed) ∧ (∀ u ∈ Sample.shadows, u.Parsed) ∧
      ∃ ordered p, generate .builtin ⟨.mediump, Sample.shadows⟩ [Sample.tinted] = .ok p ∧
        Block.sort .builtin [Sample.tinted] = .ok ordered ∧
        (∀ u ∈ Sample.shadows, u.name ∈ p.uniforms.map UniformDeclaration.name ∧
          u.name ∈ functionNames .builtin ordered) ∧
        ¬ (globals .builtin ordered p).Nodup := by
  refine ⟨Sample.parsed_tinted, Sample.parsed_shadows, ?_⟩
  obtain ⟨p, generated⟩ := Sample.exists_program_tinted ⟨.mediump, Sample.shadows⟩
  obtain ⟨_, _, ordered, sort, _, _, _, _, _, _, _, rfl⟩ := generate_eq_ok_iff.mp generated
  have among : ∀ {name}, name ∈ Names.functions .builtin Sample.tinted →
      name ∈ functionNames .builtin ordered := fun hname =>
    List.mem_cons_of_mem _ (List.mem_flatMap.mpr
      ⟨Sample.tinted, (Block.mem_iff_of_sort sort).mpr (by simp [Block.find?]), hname⟩)
  have functions : ∀ u ∈ Sample.shadows, u.name ∈ functionNames .builtin ordered := by
    simp only [Sample.shadows, List.forall_mem_map, List.forall_mem_cons]
    exact ⟨List.mem_cons_self, among Sample.functions_tinted.1, among Sample.functions_tinted.2,
      by simp⟩
  have uniforms : ∀ u ∈ Sample.shadows,
      u.name ∈ (declareUniforms Sample.shadows).map UniformDeclaration.name := fun u hu =>
    mem_names_declareUniforms_iff.mpr (.inr (List.mem_map_of_mem hu))
  refine ⟨ordered, _, generated, sort, fun u hu => ⟨uniforms u hu, functions u hu⟩, fun nodup => ?_⟩
  have first : Sample.uniform "main" ∈ Sample.shadows := by simp [Sample.shadows]
  exact (List.nodup_append'.mp nodup).2.2 (uniforms _ first) (functions _ first)

end Program

end ShaderGraph
