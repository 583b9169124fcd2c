import Mathlib
import ShaderGraph.Proofs.Names.Helpers
import ShaderGraph.Proofs.Text.Substitute

/-!
# Templates, character by character and hole by hole

A template is text with placeholders in it. Where every pair of opening braces starts a placeholder
(`WellMarked`), it is spelled by *tokens*, characters and holes, so that no brace that is a character
stands in front of another brace (`Open`, `exists_tokens`).

On tokens every substitution is the same thing, putting texts into holes. Replacing one placeholder
after the other fills the holes of one kind at a time (`replaceFrom_spell`), and going through the text
once fills them all (`fillFrom_spell`). A text that holds no opening brace keeps the tokens open
(`Open.flatMap_put`), so no new placeholder comes about on the way.
-/

namespace ShaderGraph.Template

/-! ## Placeholders -/

/-- What a template leaves open. -/
inductive Placeholder
  | name
  | id
  | outputType
  deriving DecidableEq, Repr

namespace Placeholder

/-- How a placeholder is written. -/
def text : Placeholder → List Char
  | .name => Kind.namePlaceholder.toList
  | .id => Kind.idPlaceholder.toList
  | .outputType => Kind.outputTypePlaceholder.toList

/-- All placeholders. -/
def all : List Placeholder := [.name, .id, .outputType]

theorem mem_all (p : Placeholder) : p ∈ all := by cases p <;> decide

/-- A placeholder starts with two braces and a letter, so in a run of braces only the last two can
start one. -/
theorem exists_text_eq (p : Placeholder) :
    ∃ letter rest, letter ≠ '\x7b' ∧ p.text = '\x7b' :: '\x7b' :: letter :: rest := by
  cases p with
  | name => exact ⟨'n', _, by decide, rfl⟩
  | id => exact ⟨'i', _, by decide, rfl⟩
  | outputType => exact ⟨'o', _, by decide, rfl⟩

end Placeholder

/-- Wherever two opening braces stand in a text, a placeholder starts. -/
def WellMarked (cs : List Char) : Prop :=
  ∀ rest, rest <:+ cs → ['\x7b', '\x7b'] <+: rest → ∃ p : Placeholder, p.text <+: rest

/-- Every place of the text is looked at: two opening braces start a placeholder there. -/
def wellMarked (cs : List Char) : Bool :=
  cs.tails.all fun rest => !(['\x7b', '\x7b'].isPrefixOf rest) ||
    Placeholder.all.any fun p => p.text.isPrefixOf rest

/-- Whether a text is well marked can be decided, by looking at every pair of opening braces in
it. -/
theorem wellMarked_eq_true_iff {cs : List Char} : wellMarked cs = true ↔ WellMarked cs := by
  simp only [wellMarked, WellMarked, List.all_eq_true, List.mem_tails, Bool.or_eq_true,
    Bool.not_eq_true', List.any_eq_true, Placeholder.mem_all, true_and, List.isPrefixOf_iff_prefix,
    ← Bool.not_eq_true, ← imp_iff_not_or]

instance : DecidablePred WellMarked := fun _ => decidable_of_iff _ wellMarked_eq_true_iff

/-! ## Filling in one pass -/

/-- Every placeholder replaced in one pass from left to right, each by its own text. What has been
put in is not looked at again. `skip` characters of a placeholder already replaced are still to be
passed over. -/
def fillFrom {α : Type} (keep : Char → α) (value : Placeholder → List α) : ℕ → List Char → List α
  | _, [] => []
  | skip + 1, _ :: cs => fillFrom keep value skip cs
  | 0, c :: cs =>
    match Placeholder.all.find? fun p => p.text.isPrefixOf (c :: cs) with
    | some p => value p ++ fillFrom keep value (p.text.length - 1) cs
    | none => keep c :: fillFrom keep value 0 cs

/-- Filling commutes with a change of what stands in the text. Filling characters with a trace and
forgetting the trace is filling characters. -/
theorem map_fillFrom {α β : Type} (f : α → β) {keep : Char → α} {value : Placeholder → List α}
    (skip : ℕ) (cs : List Char) :
    (fillFrom keep value skip cs).map f =
      fillFrom (f ∘ keep) (fun p => (value p).map f) skip cs := by
  fun_induction fillFrom keep value skip cs with
  | case1 => rfl
  | case2 skip c cs ih => exact ih
  | case3 c cs p found ih => rw [List.map_append, ih, fillFrom, found]
  | case4 c cs none ih => rw [List.map_cons, ih, fillFrom, none]; rfl

/-! ## Tokens -/

/-- A part of a template. -/
inductive Token
  | char (c : Char)
  | hole (p : Placeholder)

namespace Token

/-- How a token is written. -/
def text : Token → List Char
  | .char c => [c]
  | .hole p => p.text

/-- A token with its hole filled. -/
def fill {α : Type} (keep : Char → α) (value : Placeholder → List α) : Token → List α
  | .char c => [keep c]
  | .hole p => value p

/-- A token with a text put for one placeholder. -/
def put (p : Placeholder) (replacement : List Char) : Token → List Token
  | .char c => [.char c]
  | .hole q => if q = p then replacement.map .char else [.hole q]

end Token

/-- The text that tokens spell. -/
def spell (tokens : List Token) : List Char := tokens.flatMap Token.text

/-- No brace that is a character stands in front of another brace. -/
def Open : List Token → Prop
  | [] => True
  | .char c :: tokens => ¬ (c = '\x7b' ∧ (spell tokens).head? = some '\x7b') ∧ Open tokens
  | .hole _ :: tokens => Open tokens

variable {tokens : List Token} {p q : Placeholder} {c : Char} {replacement : List Char}

@[simp]
theorem spell_nil : spell [] = [] := rfl

@[simp]
theorem spell_char_cons : spell (.char c :: tokens) = c :: spell tokens := rfl

@[simp]
theorem spell_hole_cons : spell (.hole p :: tokens) = p.text ++ spell tokens := rfl

theorem spell_append (front back : List Token) : spell (front ++ back) = spell front ++ spell back :=
  List.flatMap_append

@[simp]
theorem spell_map_char (cs : List Char) : spell (cs.map .char) = cs := by
  induction cs with
  | nil => rfl
  | cons c cs ih => rw [List.map_cons, spell_char_cons, ih]

/-- Characters alone are open if no two braces stand side by side, for then none of them can be
taken for a placeholder. -/
theorem open_map_char_iff {cs : List Char} :
    Open (cs.map .char) ↔ Text.Apart '\x7b' '\x7b' cs := by
  induction cs with
  | nil => simp [Open, Text.Apart]
  | cons c cs ih =>
    rw [List.map_cons, Open, spell_map_char, ih, Text.Apart, Text.Apart, List.isChain_cons]
    refine and_congr_left fun _ => ?_
    cases cs <;> simp

theorem WellMarked.of_suffix {cs rest : List Char} (marked : WellMarked cs) (suffix : rest <:+ cs) :
    WellMarked rest :=
  fun later hlater => marked later (hlater.trans suffix)

/-- A well-marked text is spelled by open tokens. By induction on its length: where a placeholder
starts it is taken off as a hole, and elsewhere a character. -/
theorem exists_tokens {cs : List Char} (marked : WellMarked cs) :
    ∃ tokens, spell tokens = cs ∧ Open tokens := by
  induction size : cs.length using Nat.strongRecOn generalizing cs with
  | ind n ih =>
    by_cases braces : ['\x7b', '\x7b'] <+: cs
    · obtain ⟨p, rest, rfl⟩ := marked cs List.suffix_rfl braces
      have shorter : rest.length < n := by
        obtain ⟨letter, more, _, written⟩ := p.exists_text_eq
        simp only [written, List.length_append, List.length_cons] at size
        omega
      obtain ⟨tokens, rfl, opened⟩ :=
        ih rest.length shorter (marked.of_suffix (List.suffix_append _ _)) rfl
      exact ⟨.hole p :: tokens, rfl, opened⟩
    · cases cs with
      | nil => exact ⟨[], rfl, trivial⟩
      | cons c cs =>
        obtain ⟨tokens, rfl, opened⟩ := ih cs.length (by simp at size; omega)
          (marked.of_suffix (List.suffix_cons c cs)) rfl
        refine ⟨.char c :: tokens, rfl, ?_, opened⟩
        rintro ⟨rfl, brace⟩
        obtain ⟨rest, behind⟩ := List.head?_eq_some_iff.mp brace
        exact braces ⟨rest, by rw [behind]; rfl⟩

/-- At a character of open tokens no placeholder starts, not even one that goes over into the next
hole. -/
theorem Open.not_prefix (opened : Open (.char c :: tokens)) (p : Placeholder) :
    ¬ p.text.isPrefixOf (c :: spell tokens) = true := by
  rw [List.isPrefixOf_iff_prefix]
  obtain ⟨letter, more, _, written⟩ := p.exists_text_eq
  rw [written, List.cons_prefix_cons]
  rintro ⟨rfl, rest, behind⟩
  exact opened.1 ⟨rfl, by rw [← behind]; rfl⟩

/-! ## Filling tokens -/

theorem fillFrom_append {α : Type} {keep : Char → α} {value : Placeholder → List α}
    (front back : List Char) :
    fillFrom keep value front.length (front ++ back) = fillFrom keep value 0 back := by
  induction front with
  | nil => rfl
  | cons c front ih => exact ih

/-- A placeholder at the front is filled, and filling goes on behind it. -/
theorem fillFrom_text_append {α : Type} {keep : Char → α} {value : Placeholder → List α}
    (p : Placeholder) (back : List Char) :
    fillFrom keep value 0 (p.text ++ back) = value p ++ fillFrom keep value 0 back := by
  have found : Placeholder.all.find? (fun q => q.text.isPrefixOf (p.text ++ back)) = some p := by
    cases p <;> rfl
  obtain ⟨letter, more, _, written⟩ := p.exists_text_eq
  rw [written] at found ⊢
  simp only [List.cons_append] at found ⊢
  rw [fillFrom, found]
  dsimp only
  rw [written]
  exact congrArg (value p ++ ·) (fillFrom_append ('\x7b' :: letter :: more) back)

/-- Going through the text once fills every hole. By induction on the tokens, where being open keeps
the text from matching anywhere else. -/
theorem fillFrom_spell {α : Type} {keep : Char → α} {value : Placeholder → List α}
    (opened : Open tokens) :
    fillFrom keep value 0 (spell tokens) = tokens.flatMap (Token.fill keep value) := by
  induction tokens with
  | nil => rfl
  | cons token tokens ih =>
    cases token with
    | char c =>
      have none : Placeholder.all.find? (fun p => p.text.isPrefixOf (c :: spell tokens)) = none :=
        List.find?_eq_none.mpr fun p _ => opened.not_prefix p
      rw [spell_char_cons, fillFrom, none, ih opened.2]
      rfl
    | hole p =>
      rw [spell_hole_cons, fillFrom_text_append, ih opened]
      rfl

/-! ## Replacing one placeholder -/

theorem replaceFrom_append (target : List Char) (front back : List Char) :
    Text.replaceFrom target replacement front.length (front ++ back) =
      Text.replaceFrom target replacement 0 back := by
  induction front with
  | nil => rfl
  | cons c front ih => exact ih

/-- The placeholder that is replaced is replaced at the front, and the rest behind it. -/
theorem replaceFrom_text_append (p : Placeholder) (back : List Char) :
    Text.replaceFrom p.text replacement 0 (p.text ++ back) =
      replacement ++ Text.replaceFrom p.text replacement 0 back := by
  have starts : p.text.isPrefixOf (p.text ++ back) = true := by simp
  obtain ⟨letter, more, _, written⟩ := p.exists_text_eq
  rw [written] at starts ⊢
  rw [List.cons_append] at starts ⊢
  rw [Text.replaceFrom, if_pos starts]
  exact congrArg (replacement ++ ·) (replaceFrom_append _ ('\x7b' :: letter :: more) back)

/-- Another placeholder is passed over: no occurrence starts inside it, since a placeholder starts
with two braces and holds them nowhere else. -/
theorem replaceFrom_other_append (other : q ≠ p) (back : List Char) :
    Text.replaceFrom p.text replacement 0 (q.text ++ back) =
      q.text ++ Text.replaceFrom p.text replacement 0 back := by
  cases p <;> cases q <;> first | exact absurd rfl other | rfl

/-- Replacing a placeholder fills its holes and leaves the others, so a replacement in the text is
one of tokens. -/
theorem replaceFrom_spell (opened : Open tokens) :
    Text.replaceFrom p.text replacement 0 (spell tokens) =
      spell (tokens.flatMap (Token.put p replacement)) := by
  induction tokens with
  | nil => rfl
  | cons token tokens ih =>
    cases token with
    | char c =>
      rw [spell_char_cons, Text.replaceFrom, if_neg (opened.not_prefix p), ih opened.2]
      rfl
    | hole q =>
      rw [List.flatMap_cons, spell_append, spell_hole_cons]
      by_cases same : q = p
      · rw [same, replaceFrom_text_append, ih opened, Token.put, if_pos rfl, spell_map_char]
      · rw [replaceFrom_other_append same, ih opened, Token.put, if_neg same, spell_hole_cons,
          spell_nil, List.append_nil]

/-- Tokens that start with a brace after holes were filled did so before: a character in front is
the same, and a hole is spelled with a brace anyway. -/
theorem head?_spell_flatMap_put
    (brace : (spell (tokens.flatMap (Token.put p replacement))).head? = some '\x7b') :
    (spell tokens).head? = some '\x7b' := by
  cases tokens with
  | nil => exact brace
  | cons token tokens =>
    cases token with
    | char c => exact brace
    | hole q =>
      rw [spell_hole_cons]
      obtain ⟨letter, more, _, written⟩ := q.exists_text_eq
      rw [written]
      rfl

/-- Characters without an opening brace in front of open tokens keep them open. -/
theorem Open.map_char_append (opened : Open tokens) {cs : List Char} (plain : '\x7b' ∉ cs) :
    Open (cs.map .char ++ tokens) := by
  induction cs with
  | nil => exact opened
  | cons c cs ih =>
    rw [List.mem_cons, not_or] at plain
    exact ⟨fun brace => plain.1 brace.1.symm, ih plain.2⟩

/-- A text without an opening brace, put into holes, keeps the tokens open. So the next placeholder
can be replaced in the same way. -/
theorem Open.flatMap_put (opened : Open tokens) (plain : '\x7b' ∉ replacement) :
    Open (tokens.flatMap (Token.put p replacement)) := by
  induction tokens with
  | nil => trivial
  | cons token tokens ih =>
    cases token with
    | char c =>
      refine ⟨fun brace => opened.1 ⟨brace.1, ?_⟩, ih opened.2⟩
      exact head?_spell_flatMap_put brace.2
    | hole q =>
      rw [List.flatMap_cons, Token.put]
      split
      · exact (ih opened).map_char_append plain
      · exact ih opened

theorem flatMap_put_map_char (cs : List Char) :
    (cs.map Token.char).flatMap (Token.put p replacement) = cs.map .char := by
  induction cs with
  | nil => rfl
  | cons c cs ih => rw [List.map_cons, List.flatMap_cons, ih]; rfl

/-! ## Templates cut at a character -/

/-- A text that starts in front of a character it does not hold ends there too, so it can be looked
for on one side alone. -/
theorem prefix_of_append_break {stop : Char} {text front back : List Char} (without : stop ∉ text)
    (starts : text <+: front ++ stop :: back) : text <+: front := by
  rw [← List.isPrefixOf_iff_prefix] at starts ⊢
  rwa [Names.isPrefixOf_append_break without] at starts

/-- Well-marked texts stay so around a character that is not an opening brace, such as a line
break. -/
theorem WellMarked.append_break {stop : Char} {front back : List Char} (brace : stop ≠ '\x7b')
    (hfront : WellMarked front) (hback : WellMarked back) : WellMarked (front ++ stop :: back) := by
  rintro rest ⟨before, whole⟩ braces
  rcases List.append_eq_append_iff.mp whole with ⟨part, rfl, rfl⟩ | ⟨part, rfl, behind⟩
  · have inside := prefix_of_append_break (by simpa using brace) braces
    obtain ⟨p, starts⟩ := hfront part (List.suffix_append _ _) inside
    exact ⟨p, starts.trans (List.prefix_append _ _)⟩
  · cases part with
    | nil =>
      rw [List.nil_append] at behind
      rw [← behind, List.cons_prefix_cons] at braces
      exact absurd braces.1.symm brace
    | cons c part =>
      rw [List.cons_append, List.cons.injEq] at behind
      exact hback rest ⟨part, behind.2.symm⟩ braces

/-- Blanks stand in no placeholder, so trimming blanks cuts none. -/
theorem Placeholder.not_mem_of_isBlank {c : Char} (blank : Text.isBlank c = true) (p : Placeholder) :
    c ∉ p.text := by
  have none : p.text.all (fun c => !Text.isBlank c) = true := by cases p <;> decide
  intro inside
  have visible := List.all_eq_true.mp none c inside
  rw [blank] at visible
  cases visible

/-- A well-marked text stays so without the blanks at its ends: a placeholder that starts before the
blanks at the end is over by then. -/
theorem WellMarked.trimWith {cs : List Char} (marked : WellMarked cs) :
    WellMarked (Text.trimWith Text.isBlank cs) := by
  obtain ⟨front, back, whole, _, blanks⟩ := Text.exists_trimWith_eq Text.isBlank cs
  intro rest suffix braces
  have later : rest ++ back <:+ cs := by
    obtain ⟨before, trimmed⟩ := suffix
    refine ⟨front ++ before, ?_⟩
    conv_rhs => rw [whole, ← trimmed]
    simp
  obtain ⟨p, starts⟩ := marked (rest ++ back) later (braces.trans (List.prefix_append _ _))
  cases back with
  | nil => exact ⟨p, by simpa using starts⟩
  | cons c back =>
    have without := Placeholder.not_mem_of_isBlank (blanks c List.mem_cons_self) p
    exact ⟨p, prefix_of_append_break without starts⟩

end ShaderGraph.Template
