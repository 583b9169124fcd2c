import Mathlib
import ShaderGraph.Kind.Builtin
import ShaderGraph.Proofs.Program.Calls

/-!
# What the arguments of a call look like

An argument is an *atom* (a name or a number), a vector of atoms, or an
expression a block holds, which stands in the program as it is
(`Program.written_of_argument`). Only the last can hold anything else than the
shape of a call asks for, so what is to be shown of all arguments is to be shown
of atoms and vectors, and to be asked of expressions.

This takes a catalog whose names and default expressions are atoms
(`Catalog.Plain`), as those of the built-in one are, and blocks that came out of
a document.
-/

namespace ShaderGraph

/-! ## A small program of the built-in catalog -/

namespace Sample

/-- A block that holds an expression with brackets. -/
def fading : Block := ⟨"fade-in", "color-solid", [("alpha", .variable "(iTime)/2.0")], .zero⟩

/-- The call of `fading`. -/
def fadingCall : Call :=
  ⟨.vec4, "solid_color_fade_in_result", "solidcolor_fade_in",
    ["vec3(1.00, 0.50, 0.00)", "(iTime)/2.0"]⟩

theorem parsed_fading : ∀ b ∈ [fading], b.Parsed :=
  List.forall_mem_singleton.mpr ⟨.text, fading.toJson, by cbv⟩

/-- The block in the example has a program, with one call. -/
theorem exists_program_fading :
    ∃ p, Program.generate .builtin .usual [fading] = .ok p ∧ p.calls = [fadingCall] :=
  Attempt.exists_of_map_eq_ok (g := Program.calls) (by decide +kernel)

end Sample

/-! ## Atoms -/

namespace Text

/-- The text holds only characters of a class. -/
def Only (p : Char → Bool) (text : String) : Prop := text.toList.all p = true

instance (p : Char → Bool) : DecidablePred (Only p) := fun text =>
  inferInstanceAs (Decidable (text.toList.all p = true))

/-- The characters of names and numbers. -/
def isAtomChar (c : Char) : Bool := c.isAlphanum || c == '_' || c == '.' || c == '-'

/-- A text of the characters of names and numbers. -/
abbrev IsAtom (text : String) : Prop := Only isAtomChar text

variable {p q : Char → Bool} {s t : String}

/-- A text consists of characters of a class when each of its characters is one. -/
theorem only_of_forall (h : ∀ c ∈ t.toList, p c = true) : Only p t := List.all_eq_true.mpr h

theorem Only.apply (h : Only p t) {c : Char} (hc : c ∈ t.toList) : p c = true :=
  List.all_eq_true.mp h c hc

/-- A text that consists of characters of a class holds no other character. -/
theorem Only.not_mem (h : Only p t) {c : Char} (hc : p c = false) : c ∉ t.toList := by
  intro mem
  rw [h.apply mem] at hc
  cases hc

/-- A text that consists of characters of a class consists of those of any larger
one. -/
theorem Only.mono (h : Only p t) (sub : ∀ c, p c = true → q c = true) : Only q t :=
  only_of_forall fun c hc => sub c (h.apply hc)

theorem Only.append (hs : Only p s) (ht : Only p t) : Only p (s ++ t) := by
  unfold Only at *
  rw [String.toList_append, List.all_append, hs, ht, Bool.and_self]

/-- Joined texts consist of characters of a class if the texts and the separator do. -/
theorem Only.intercalate {sep : String} (hsep : Only p sep) {texts : List String}
    (each : ∀ text ∈ texts, Only p text) : Only p (String.intercalate sep texts) := by
  induction texts with
  | nil => rfl
  | cons text rest ih =>
    rw [List.forall_mem_cons] at each
    cases rest with
    | nil => simpa using each.1
    | cons next rest =>
      rw [String.intercalate_cons_cons]
      exact (each.1.append hsep).append (ih each.2)

theorem isAtom_toString (n : Nat) : IsAtom (toString n) := by
  refine only_of_forall fun c hc => ?_
  rw [Nat.toString_eq_repr, Nat.toList_repr] at hc
  have digit : c.isDigit = true := Nat.isDigit_of_mem_toDigits (by decide) (by decide) hc
  simp [isAtomChar, Char.isAlphanum, digit]

end Text

/-! ## Numbers -/

open Text (IsAtom)

/-- A count with places is written with digits and a point, so it is an atom. -/
theorem isAtom_fixedText (places n : Nat) : IsAtom (fixedText places n) := by
  have zeros : ∀ k, IsAtom (String.ofList (List.replicate k '0')) := by
    intro k
    refine Text.only_of_forall fun c hc => ?_
    rw [String.toList_ofList] at hc
    rw [List.eq_of_mem_replicate hc]
    decide
  have point : IsAtom "." := by decide
  exact ((Text.isAtom_toString _).append point).append ((zeros _).append (Text.isAtom_toString _))

theorem Binary64.isAtom_of_fixed? {x : Binary64} {places width : Nat} {text : String}
    (printed : x.fixed? places width = some text) : IsAtom text := by
  cases x with
  | nan =>
    cases printed
    decide
  | infinite negative => cases printed
  | finite negative m =>
    simp only [Binary64.fixed?] at printed
    split at printed
    · cases printed
      have sign : IsAtom (if negative then "-" else "") := by cases negative <;> decide
      exact sign.append (isAtom_fixedText _ _)
    · cases printed

theorem Program.isAtom_of_number {x : Binary64} {text : String} (printed : number x = .ok text) :
    IsAtom text := by
  unfold number at printed
  split at printed
  next fixed =>
    cases printed
    exact Binary64.isAtom_of_fixed? fixed
  next => cases printed

theorem Program.isAtom_vectorName (size : Nat) : IsAtom ("vec" ++ toString size) :=
  (show IsAtom "vec" by decide).append (Text.isAtom_toString size)

/-- A vector is written as a call of its own, with atoms for its components. The
brackets of this call are the only ones in it. -/
theorem Program.exists_parts_of_vector {xs : List Binary64} {text : String}
    (printed : vector xs = .ok text) :
    ∃ parts : List String, (∀ part ∈ parts, IsAtom part) ∧
      text = "vec" ++ toString xs.length ++ "(" ++ String.intercalate ", " parts ++ ")" := by
  unfold vector at printed
  cases numbers : xs.mapM number with
  | error refusal => rw [numbers] at printed; cases printed
  | ok parts =>
    rw [numbers] at printed
    refine ⟨parts, fun part hpart => ?_, (Except.ok.inj printed).symm⟩
    obtain ⟨x, _, written⟩ := exists_mem_of_forall₂ (Attempt.mapM_eq_ok_iff.mp numbers) hpart
    exact isAtom_of_number written

/-! ## Names -/

/-- The names of kinds make atoms, and so do the default expressions. -/
structure Catalog.Plain (c : Catalog) : Prop where
  stems : ∀ k ∈ c.kinds, IsAtom (Names.stem k "") ∧ IsAtom (Names.stem k "_")
  defaults : ∀ k ∈ c.kinds, ∀ port ∈ k.inputs, ∀ text,
    port.default = some (.expression text) → IsAtom text.replaced

/-- The text of a default that is an expression. -/
def PortDefault.expression? : PortDefault → Option GivenText
  | .expression text => some text
  | .number _ => none
  | .vector _ => none

/-- The built-in kinds have plain names, and the coordinates are the only default
expression, so all they bring into arguments are atoms. -/
theorem Catalog.plain_builtin : Catalog.builtin.Plain where
  stems := by decide +kernel
  defaults := by
    have plain : ∀ k ∈ builtinKinds, ∀ port ∈ k.inputs,
        ∀ text ∈ port.default.bind PortDefault.expression?, IsAtom text.replaced := by
      decide +kernel
    intro k hk port hport text given
    exact plain k hk port hport text (by rw [given]; rfl)

theorem Catalog.mem_of_find? {c : Catalog} {id : String} {kind : Kind}
    (found : c.find? id = some kind) : kind ∈ c.kinds :=
  List.mem_of_find?_eq_some found

namespace Names

variable {k : Kind} {b : Block}

/-- A valid id made fit for an identifier holds letters, digits and underscores only:
hyphens, which ids may hold, are replaced. -/
theorem alphanum_or_underscore_of_mem_sanitize {id : String} (valid : Block.ValidId id) {c : Char}
    (hc : c ∈ (sanitize id).toList) : c.isAlphanum = true ∨ c = '_' := by
  rw [sanitize, String.toList_map, List.mem_map] at hc
  obtain ⟨d, hd, rfl⟩ := hc
  have idChar := List.all_eq_true.mp valid.2 d hd
  split
  · exact .inr rfl
  next other => simpa only [Block.isIdChar, Bool.or_eq_true, beq_iff_eq, other, or_false] using idChar

theorem isAtom_sanitize (parsed : b.Parsed) : IsAtom (sanitize b.id) := by
  refine Text.only_of_forall fun c hc => ?_
  rcases alphanum_or_underscore_of_mem_sanitize parsed.id_valid hc with alphanumeric | rfl
  · simp [Text.isAtomChar, alphanumeric]
  · decide

/-- The name of a function is an atom where the stem of its kind is, for the id of a
block that was read brings in nothing else. -/
theorem isAtom_function (stem : IsAtom (stem k "")) (parsed : b.Parsed) :
    IsAtom (function k b.id) := by
  have underscore : IsAtom "_" := by decide
  exact (stem.append underscore).append (isAtom_sanitize parsed)

theorem isAtom_result (stem : IsAtom (stem k "_")) (parsed : b.Parsed) :
    IsAtom (result k b.id) := by
  have underscore : IsAtom "_" := by decide
  have suffix : IsAtom "_result" := by decide
  exact ((stem.append underscore).append (isAtom_sanitize parsed)).append suffix

end Names

/-! ## Arguments -/

namespace Program

/-- What can stand for a port in the call of a block. -/
inductive Written (b : Block) (port : Port) : String → Prop
  | atom {text : String} (plain : IsAtom text) : Written b port text
  | vector (size : Nat) {parts : List String} (plain : ∀ part ∈ parts, IsAtom part) :
    Written b port ("vec" ++ toString size ++ "(" ++ String.intercalate ", " parts ++ ")")
  | expression {name : String} (held : b.value? port.id = some (.variable name)) :
    Written b port name

variable {c : Catalog} {blocks : List Block} {b : Block} {port : Port} {text : String}

/-- What is written for a vector is a call with atoms for arguments. -/
theorem written_of_vector {xs : List Binary64} (printed : vector xs = .ok text) :
    Written b port text := by
  obtain ⟨parts, plain, rfl⟩ := exists_parts_of_vector printed
  exact .vector xs.length plain

/-- What is written for a default is an atom, if default expressions are. -/
theorem written_of_default
    (expression : ∀ text, port.default = some (.expression text) → IsAtom text.replaced)
    (printed : defaultArgument port = .ok text) : Written b port text := by
  unfold defaultArgument at printed
  split at printed
  next given =>
    cases printed
    exact .atom (expression _ given)
  next => exact written_of_vector printed
  next => exact .atom (isAtom_of_number printed)
  next => cases printed

/-- An argument is an atom, a vector of atoms, or an expression the block holds. So
expressions are the only place from which a comma or a bracket can come unforeseen. -/
theorem written_of_argument (plain : c.Plain) (parsed : ∀ b ∈ blocks, b.Parsed) {kind : Kind}
    (known : kind ∈ c.kinds) (declared : port ∈ kind.inputs)
    (printed : argument c blocks b port = .ok text) : Written b port text := by
  unfold argument at printed
  split at printed
  next => exact written_of_default (plain.defaults kind known port declared) printed
  next source output held =>
    obtain ⟨origin, originKind, found, originKnown, _, rfl⟩ :=
      connectionArgument_eq_ok_iff.mp printed
    have stems := plain.stems originKind (Catalog.mem_of_find? originKnown)
    exact .atom (Names.isAtom_result stems.2 (parsed origin (List.mem_of_find?_eq_some found)))
  next name held =>
    cases printed
    exact .expression held
  next => exact .atom (isAtom_of_number printed)
  next => exact written_of_vector printed
  next => cases printed

end Program

end ShaderGraph
