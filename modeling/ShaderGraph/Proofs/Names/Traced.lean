import Mathlib
import ShaderGraph.Proofs.Names.Helpers
import ShaderGraph.Proofs.Program.Definition

/-!
# Helpers in a template and in its definition

The helpers of a block are found in the raw template, while its definition is the stripped template
with its placeholders filled. Here the two are compared: the names that are found are the identifiers
of the definition in which the id was put (`helpers_around_ids`).

To tell what was put in from what stood there, a definition is traced: every character carries whether
it was put for the id (`traced`). An identifier is a maximal run of word characters (`Text.IsRun`).

The holes of a template have to be apart: between any two of them stands a character that no word
holds (`Template.Separated`). The tokens of such a template are stretches with one hole at most
(`Template.Spaced`), and the search and the runs agree on each stretch.
-/

namespace ShaderGraph

open Template (Placeholder WellMarked Token Open spell)

/-! ## Runs -/

namespace Text

/-- A run of word characters that goes on neither in front nor behind. -/
def IsRun (xs run : List (Char × Bool)) : Prop :=
  ∃ front back, xs = front ++ run ++ back ∧ (∀ x ∈ run, isWord x.1 = true) ∧
    (∀ x ∈ front.getLast?, isWord x.1 = false) ∧ ∀ x ∈ back.head?, isWord x.1 = false

variable {xs run front back : List (Char × Bool)} {stop : Char × Bool}

/-- A text of word characters is its only run. A shorter one would go on in front or behind. -/
theorem isRun_iff_of_words (words : ∀ x ∈ xs, isWord x.1 = true) : IsRun xs run ↔ run = xs := by
  constructor
  · rintro ⟨front, back, rfl, _, before, behind⟩
    have nothing_before : front = [] := by
      rw [← List.getLast?_eq_none_iff, Option.eq_none_iff_forall_not_mem]
      intro x hx
      have word := words x (by simp [List.mem_of_getLast? hx])
      rw [before x hx] at word
      cases word
    have nothing_behind : back = [] := by
      rw [← List.head?_eq_none_iff, Option.eq_none_iff_forall_not_mem]
      intro x hx
      have word := words x (by simp [List.mem_of_head? hx])
      rw [behind x hx] at word
      cases word
    rw [nothing_before, nothing_behind, List.nil_append, List.append_nil]
  · rintro rfl
    exact ⟨[], [], by simp, words, by simp, by simp⟩

/-- A run lies in front of a character that no word holds, or behind it, but never across. So a
traced text can be looked at stretch by stretch. -/
theorem isRun_append_break_iff (stops : isWord stop.1 = false) :
    IsRun (front ++ stop :: back) run ↔ IsRun front run ∨ IsRun back run := by
  constructor
  · rintro ⟨before, behind, whole, words, started, ended⟩
    have outside : stop ∉ run := by
      intro inside
      have word := words stop inside
      rw [stops] at word
      cases word
    rcases List.append_eq_append_iff.mp whole.symm with ⟨gap, rfl, rfl⟩ | ⟨gap, cut, later⟩
    · refine .inl ⟨before, gap, rfl, words, started, fun x hx => ended x ?_⟩
      exact List.mem_head?_append_of_mem_head? hx
    · cases gap with
      | nil =>
        rw [List.append_nil] at cut
        exact .inl ⟨before, [], by rw [List.append_nil, cut], words, started, by simp⟩
      | cons first gap =>
        obtain ⟨rfl, rfl⟩ := List.cons.inj later
        rcases List.append_eq_append_iff.mp cut with ⟨part, rfl, inside⟩ | ⟨part, rfl, inside⟩
        · exact absurd (by rw [inside]; simp) outside
        · cases part with
          | nil => exact absurd (by rw [← List.nil_append run, ← inside]; simp) outside
          | cons first part =>
            obtain ⟨rfl, rfl⟩ := List.cons.inj inside
            refine .inr ⟨part, behind, by simp, words, fun x hx => started x ?_, ended⟩
            rw [List.append_cons]
            exact List.mem_getLast?_append_of_mem_getLast? hx
  · rintro (⟨before, behind, rfl, words, started, ended⟩ |
      ⟨before, behind, rfl, words, started, ended⟩)
    · refine ⟨before, behind ++ stop :: back, by simp, words, started, ?_⟩
      intro x hx
      cases behind with
      | nil => simp_all
      | cons first behind => exact ended x hx
    · refine ⟨front ++ stop :: before, behind, by simp, words, ?_, ended⟩
      intro x hx
      cases before with
      | nil => simp_all
      | cons first before =>
        rw [List.append_cons, List.getLast?_append_cons] at hx
        exact started x hx

/-! ## Blanks -/

/-- The code points of blanks. -/
def blankCodes : List ℕ :=
  [9, 10, 11, 12, 13, 0x1C, 0x1D, 0x1E, 0x1F, 0x20, 0x85, 0xA0, 0x1680, 0x2000, 0x2001, 0x2002,
    0x2003, 0x2004, 0x2005, 0x2006, 0x2007, 0x2008, 0x2009, 0x200A, 0x2028, 0x2029, 0x202F, 0x205F,
    0x3000]

theorem isWord_eq_false_of_isBlank {c : Char} (blank : isBlank c = true) : isWord c = false := by
  have code : c.toNat ∈ blankCodes := by
    simp only [isBlank, isSpace, Bool.or_eq_true, Bool.and_eq_true, decide_eq_true_eq,
      beq_iff_eq] at blank
    simp only [blankCodes, List.mem_cons, List.not_mem_nil, or_false]
    omega
  have none : blankCodes.all (fun n => !isWord (Char.ofNat n)) = true := by decide +kernel
  have found := List.all_eq_true.mp none c.toNat code
  rw [Char.ofNat_toNat] at found
  simpa using found

end Text

/-! ## Identifiers around a text that was put in -/

namespace Names

/-- The name is a run, and a text that was put in stands in it as a whole. -/
def RunAround (put : List Char) (xs : List (Char × Bool)) (name : List Char) : Prop :=
  ∃ run, Text.IsRun xs run ∧ put.map (·, true) <:+: run ∧ run.map Prod.fst = name

variable {put name : List Char} {xs : List (Char × Bool)}

/-- The same of runs around what was put in, which are runs of a certain kind. -/
theorem runAround_append_break_iff {stop : Char × Bool} (stops : Text.isWord stop.1 = false)
    {front back : List (Char × Bool)} :
    RunAround put (front ++ stop :: back) name ↔ RunAround put front name ∨ RunAround put back name := by
  simp only [RunAround, Text.isRun_append_break_iff stops, or_and_right, exists_or]

/-- Where nothing was put in, there is no run around it, provided that what is put in is not
empty. -/
theorem not_runAround_of_untouched (nonempty : put ≠ []) (untouched : ∀ x ∈ xs, x.2 = false) :
    ¬ RunAround put xs name := by
  rintro ⟨run, ⟨front, back, rfl, _⟩, inside, _⟩
  obtain ⟨c, rest, rfl⟩ := List.exists_cons_of_ne_nil nonempty
  have among : (c, true) ∈ run := inside.subset (by simp)
  exact absurd (untouched (c, true) (by simp [among])) (by simp)

/-- Among word characters the only run around the text is all of them, with what stands in front of
it and behind it. -/
theorem runAround_iff_of_words {front back : List Char}
    (words : ∀ c ∈ front ++ put ++ back, Text.isWord c = true) :
    RunAround put (front.map (·, false) ++ put.map (·, true) ++ back.map (·, false)) name ↔
      name = front ++ put ++ back := by
  have spelled : (front.map (·, false) ++ put.map (·, true) ++ back.map (·, false)).map Prod.fst =
      front ++ put ++ back := by simp [Function.comp_def]
  have only : ∀ x ∈ front.map (·, false) ++ put.map (·, true) ++ back.map (·, false),
      Text.isWord x.1 = true := by
    intro x hx
    exact words x.1 (spelled ▸ List.mem_map_of_mem hx)
  simp only [RunAround, Text.isRun_iff_of_words only, exists_eq_left, spelled]
  constructor
  · exact fun both => both.2.symm
  · exact fun same => ⟨⟨_, _, rfl⟩, same.symm⟩

end Names

/-! ## Stretches -/

namespace Template

/-- No two placeholders stand side by side or with word characters only between them. -/
def Separated (cs : List Char) : Prop :=
  ∀ (p q : Placeholder) (word : List Char), (∀ c ∈ word, Text.isWord c = true) →
    ¬ p.text ++ word ++ q.text <:+: cs

/-- Placeholders that are apart in a text are apart in any part of it, as when its blanks are
stripped. -/
theorem Separated.of_infix {cs part : List Char} (separated : Separated cs) (inside : part <:+: cs) :
    Separated part :=
  fun p q word words both => separated p q word words (both.trans inside)

/-- Every placeholder of the text is looked behind: no other follows the word there. -/
def separated (cs : List Char) : Bool :=
  cs.tails.all fun rest => Placeholder.all.all fun p => Placeholder.all.all fun q =>
    !(p.text.isPrefixOf rest &&
      q.text.isPrefixOf ((rest.drop p.text.length).dropWhile Text.isWord))

/-- Whether placeholders are apart can be decided, by looking at each of them and what follows. -/
theorem separated_eq_true_iff {cs : List Char} : separated cs = true ↔ Separated cs := by
  simp only [separated, List.all_eq_true, List.mem_tails, Placeholder.mem_all, true_imp_iff,
    Bool.not_eq_true', ← Bool.not_eq_true, Bool.and_eq_true, List.isPrefixOf_iff_prefix]
  constructor
  · rintro apart p q word words ⟨before, behind, rfl⟩
    have starts : p.text <+: p.text ++ word ++ q.text ++ behind := by
      rw [List.append_assoc, List.append_assoc]
      exact List.prefix_append _ _
    refine apart (p.text ++ word ++ q.text ++ behind) ⟨before, by simp⟩ p q ⟨starts, ?_⟩
    have brace : (q.text ++ behind).dropWhile Text.isWord = q.text ++ behind := by cases q <;> rfl
    rw [List.append_assoc, List.append_assoc, List.drop_left, List.dropWhile_append_of_pos words,
      brace]
    exact List.prefix_append _ _
  · rintro apart rest suffix p q ⟨⟨later, rfl⟩, behind, follows⟩
    rw [List.drop_left] at follows
    refine apart p q (later.takeWhile Text.isWord) (fun c hc => List.mem_takeWhile_imp hc) ?_
    have whole : p.text ++ later = p.text ++ later.takeWhile Text.isWord ++ q.text ++ behind := by
      rw [List.append_assoc _ q.text, follows, List.append_assoc, List.takeWhile_append_dropWhile]
    rw [whole] at suffix
    exact (List.prefix_append _ behind).isInfix.trans suffix.isInfix

instance : DecidablePred Separated := fun _ => decidable_of_iff _ separated_eq_true_iff

/-- Word characters. -/
abbrev Word := { cs : List Char // ∀ c ∈ cs, Text.isWord c = true }

def Word.empty : Word := ⟨[], List.forall_mem_nil _⟩

/-- Word characters, or word characters around one hole. -/
inductive Stretch
  | plain (word : Word)
  | around (front : Word) (p : Placeholder) (back : Word)

namespace Stretch

def tokens : Stretch → List Token
  | .plain word => word.val.map .char
  | .around front p back => front.val.map .char ++ .hole p :: back.val.map .char

/-- A stretch with one more character in front. -/
def cons (c : Char) (word : Text.isWord c = true) : Stretch → Stretch
  | .plain cs => .plain ⟨c :: cs.val, List.forall_mem_cons.mpr ⟨word, cs.property⟩⟩
  | .around front p back =>
    .around ⟨c :: front.val, List.forall_mem_cons.mpr ⟨word, front.property⟩⟩ p back

/-- A character in front of a stretch is the first of its tokens. -/
theorem tokens_cons {c : Char} (word : Text.isWord c = true) (s : Stretch) :
    (s.cons c word).tokens = .char c :: s.tokens := by cases s <;> rfl

/-- The names around an id in a stretch. -/
def found (put : List Char) : Stretch → List (List Char)
  | .plain _ => []
  | .around front p back => if p = .id then [front.val ++ put ++ back.val] else []

end Stretch

/-- Stretches with a character that no word holds between any two of them. -/
inductive Spaced : List Token → Prop
  | last (s : Stretch) : Spaced s.tokens
  | more (s : Stretch) {stop : Char} (stops : Text.isWord stop = false) {tokens : List Token}
      (later : Spaced tokens) : Spaced (s.tokens ++ .char stop :: tokens)

variable {tokens : List Token}

/-- A word character in front belongs to the first stretch, with or without a hole in it. -/
theorem Spaced.cons {c : Char} (word : Text.isWord c = true) (spaced : Spaced tokens) :
    Spaced (.char c :: tokens) := by
  cases spaced with
  | last s => exact s.tokens_cons word ▸ .last (s.cons c word)
  | more s stops later =>
    rw [← List.cons_append, ← s.tokens_cons word]
    exact .more (s.cons c word) stops later

/-- Behind a hole the first stretch has none, since a character that no word holds stands between
any two holes. -/
theorem exists_plain_of_separated {p : Placeholder} {s : Stretch} {rest : List Token}
    (separated : Separated (spell (.hole p :: (s.tokens ++ rest)))) : ∃ word, s = .plain word := by
  cases s with
  | plain word => exact ⟨word, rfl⟩
  | around front q back =>
    refine absurd ?_ (separated p q front.val front.property)
    simp only [Stretch.tokens, spell_hole_cons, spell_append, spell_map_char, List.append_assoc,
      List.cons_append]
    exact ⟨[], back.val ++ spell rest, by simp⟩

/-- Separated tokens are stretches. By induction on the tokens: a character joins the stretch behind
it or stands in front of it, and a hole finds no other hole in it. -/
theorem spaced_of_separated (separated : Separated (spell tokens)) : Spaced tokens := by
  induction tokens with
  | nil => exact .last (.plain Word.empty)
  | cons token tokens ih =>
    cases token with
    | char c =>
      have spaced := ih (separated.of_infix (List.suffix_cons _ _).isInfix)
      by_cases word : Text.isWord c = true
      · exact spaced.cons word
      · exact .more (.plain Word.empty) (by simpa using word) spaced
    | hole p =>
      have spaced := ih (separated.of_infix (List.suffix_append _ _).isInfix)
      cases spaced with
      | last s =>
        rw [← List.append_nil s.tokens] at separated
        obtain ⟨word, rfl⟩ := exists_plain_of_separated separated
        exact .last (.around Word.empty p word)
      | more s stops later =>
        obtain ⟨word, rfl⟩ := exists_plain_of_separated separated
        exact .more (.around Word.empty p word) stops later

/-- What is open stays open when the tokens in front are taken away. -/
theorem Open.of_append {front : List Token} (opened : Open (front ++ tokens)) : Open tokens := by
  induction front with
  | nil => exact opened
  | cons token front ih =>
    cases token with
    | char c => exact ih opened.2
    | hole p => exact ih opened

end Template

/-! ## The search, stretch by stretch -/

namespace Names

open Template (Stretch Spaced)

variable {put rest : List Char}

/-- The text goes on with nothing that belongs to a name: not with a word character and not with the
placeholder of the id. -/
structure Ends (rest : List Char) : Prop where
  no_word : ∀ c ∈ rest.head?, Text.isWord c = false
  no_id : ¬ Placeholder.id.text.isPrefixOf rest = true

theorem ends_nil : Ends [] := ⟨by simp, by decide⟩

/-- In front of the end of a name, words are taken off as a whole, and the search stands at that
end. -/
theorem Ends.span (ends : Ends rest) {word : List Char} (words : ∀ c ∈ word, Text.isWord c = true) :
    (word ++ rest).takeWhile Text.isWord = word ∧ (word ++ rest).dropWhile Text.isWord = rest := by
  rw [List.takeWhile_append_of_pos words, List.dropWhile_append_of_pos words]
  cases rest with
  | nil => simp
  | cons c rest => simp [ends.no_word c rfl]

/-- A word that no placeholder follows is passed over without a find. -/
theorem Ends.marked_word (ends : Ends rest) {word : List Char}
    (words : ∀ c ∈ word, Text.isWord c = true) :
    marked Placeholder.id.text put (word ++ rest) = marked Placeholder.id.text put rest := by
  have before := (ends.span words).2
  have alone := (ends.span (List.forall_mem_nil _)).2
  rw [List.nil_append] at alone
  cases rest with
  | nil => rw [marked_of_end before, marked_of_end alone]
  | cons c rest => rw [marked_of_not_mark before ends.no_id, marked_of_not_mark alone ends.no_id]

/-- The placeholder of an id with words around it is found with both words, and the search goes on
at the end of the name. -/
theorem marked_id {front back : List Char} (hfront : ∀ c ∈ front, Text.isWord c = true)
    (hback : ∀ c ∈ back, Text.isWord c = true) (ends : Ends rest) :
    marked Placeholder.id.text put (front ++ (Placeholder.id.text ++ (back ++ rest))) =
      (front ++ put ++ back) :: marked Placeholder.id.text put rest := by
  have before : (front ++ (Placeholder.id.text ++ (back ++ rest))).dropWhile Text.isWord =
      '\x7b' :: ("\x7bid\x7d\x7d".toList ++ (back ++ rest)) := by
    rw [List.dropWhile_append_of_pos hfront]
    rfl
  have taken : (front ++ (Placeholder.id.text ++ (back ++ rest))).takeWhile Text.isWord = front := by
    rw [List.takeWhile_append_of_pos hfront]
    exact List.append_nil front
  have dropped : ("\x7bid\x7d\x7d".toList ++ (back ++ rest)).drop (Placeholder.id.text.length - 1) =
      back ++ rest := rfl
  rw [marked_of_mark before rfl, taken, dropped, (ends.span hback).1, (ends.span hback).2]

/-- A character that ends names is passed over, for no name holds it and no placeholder of an id
starts at it. -/
theorem Ends.marked_cons {c : Char} (ends : Ends (c :: rest)) :
    marked Placeholder.id.text put (c :: rest) = marked Placeholder.id.text put rest :=
  marked_of_not_mark (by simp [ends.no_word c rfl]) ends.no_id

theorem ends_cons {c : Char} (word : Text.isWord c = false) (other : c ≠ '\x7b') :
    Ends (c :: rest) where
  no_word := by simpa using word
  no_id := by
    obtain ⟨letter, more, _, written⟩ := Placeholder.exists_text_eq .id
    simp [written, Ne.symm other]

theorem isWord_brace_of_head? : ∀ c ∈ ('\x7b' :: rest).head?, Text.isWord c = false := by
  intro c hc
  rw [← Option.mem_some.mp hc]
  decide

/-- A word between braces is passed over, with one brace in front and two behind. The other brace in
front has been passed over before. -/
theorem marked_braced {word : List Char} (words : ∀ c ∈ word, Text.isWord c = true)
    (nonempty : word ≠ []) (cs : List Char) :
    marked Placeholder.id.text put ('\x7b' :: (word ++ '\x7d' :: '\x7d' :: cs)) =
      marked Placeholder.id.text put cs := by
  obtain ⟨c, word, rfl⟩ := List.exists_cons_of_ne_nil nonempty
  have closing : ∀ rest, Ends ('\x7d' :: rest) := fun _ => ends_cons (by decide) (by decide)
  have opening : Ends ('\x7b' :: (c :: word ++ '\x7d' :: '\x7d' :: cs)) := by
    refine ⟨isWord_brace_of_head?, ?_⟩
    have letter : '\x7b' ≠ c := by
      rintro rfl
      exact absurd (words _ List.mem_cons_self) (by decide)
    obtain ⟨_, more, _, written⟩ := Placeholder.exists_text_eq .id
    simp [written, letter]
  rw [opening.marked_cons, (closing _).marked_word words, (closing _).marked_cons,
    (closing _).marked_cons]

/-- Another placeholder is passed over with the word in front of it. The search does not know the
other placeholders, and takes them for braces and words. -/
theorem marked_other {p : Placeholder} (other : p ≠ .id) {front : List Char}
    (hfront : ∀ c ∈ front, Text.isWord c = true) (cs : List Char) :
    marked Placeholder.id.text put (front ++ (p.text ++ cs)) = marked Placeholder.id.text put cs := by
  -- A placeholder is two braces, a word and two braces; only the id's word makes the mark.
  have braced : ∃ word, word ≠ [] ∧ (∀ c ∈ word, Text.isWord c = true) ∧
      p.text = '\x7b' :: '\x7b' :: (word ++ ['\x7d', '\x7d']) ∧
      ¬ Placeholder.id.text.isPrefixOf (p.text ++ cs) = true := by
    cases p with
    | id => exact absurd rfl other
    | name =>
      have words : "name".toList.all Text.isWord = true := by decide
      exact ⟨_, by decide, List.all_eq_true.mp words, rfl, Bool.false_ne_true⟩
    | outputType =>
      have words : "outputType".toList.all Text.isWord = true := by decide
      exact ⟨_, by decide, List.all_eq_true.mp words, rfl, Bool.false_ne_true⟩
  obtain ⟨word, nonempty, words, written, no_id⟩ := braced
  have spelled : p.text ++ cs = '\x7b' :: '\x7b' :: (word ++ '\x7d' :: '\x7d' :: cs) := by
    simp [written]
  rw [spelled] at no_id ⊢
  have ends : Ends ('\x7b' :: '\x7b' :: (word ++ '\x7d' :: '\x7d' :: cs)) :=
    ⟨isWord_brace_of_head?, no_id⟩
  rw [ends.marked_word hfront, ends.marked_cons, marked_braced words nonempty]

/-- In a stretch the search finds the names around its id, and goes on behind it. -/
theorem marked_stretch (s : Stretch) (ends : Ends rest) :
    marked Placeholder.id.text put (spell s.tokens ++ rest) =
      s.found put ++ marked Placeholder.id.text put rest := by
  cases s with
  | plain word =>
    rw [Stretch.tokens, Template.spell_map_char]
    exact ends.marked_word word.property
  | around front p back =>
    have spelled : spell (Stretch.around front p back).tokens ++ rest =
        front.val ++ (p.text ++ (back.val ++ rest)) := by
      simp [Stretch.tokens, Template.spell_append]
    rw [spelled, Stretch.found]
    split
    next same =>
      rw [same]
      exact marked_id front.property back.property ends
    next other =>
      rw [marked_other other front.property, ends.marked_word back.property]
      rfl

/-! ## Runs, stretch by stretch -/

/-- What is put for the placeholders, every character with whether it stands for the id. -/
def tracedValue (value : Placeholder → List Char) (p : Placeholder) : List (Char × Bool) :=
  (value p).map (·, p == .id)

/-- Tokens filled, every character with whether it was put for the id. -/
def trace (value : Placeholder → List Char) (tokens : List Token) : List (Char × Bool) :=
  tokens.flatMap (Token.fill (·, false) (tracedValue value))

variable {value : Placeholder → List Char} {name : List Char} {tokens : List Token}

theorem trace_append (front back : List Token) :
    trace value (front ++ back) = trace value front ++ trace value back := List.flatMap_append

theorem trace_map_char (cs : List Char) : trace value (cs.map .char) = cs.map (·, false) := by
  induction cs with
  | nil => rfl
  | cons c cs ih => exact congrArg ((c, false) :: ·) ih

theorem trace_hole_cons (p : Placeholder) :
    trace value (.hole p :: tokens) = tracedValue value p ++ trace value tokens := rfl

/-- The runs of a filled stretch around an id are the names that are found in it. A stretch has one
hole at most, so it is one run or, with another hole, none around an id. -/
theorem runAround_stretch_iff (s : Stretch) (words : ∀ c ∈ value .id, Text.isWord c = true)
    (nonempty : value .id ≠ []) :
    RunAround (value .id) (trace value s.tokens) name ↔ name ∈ s.found (value .id) := by
  cases s with
  | plain word =>
    rw [Stretch.tokens, trace_map_char, Stretch.found, List.mem_nil_iff, iff_false]
    exact not_runAround_of_untouched nonempty (by simp)
  | around front p back =>
    rw [Stretch.tokens, trace_append, trace_hole_cons, trace_map_char, trace_map_char,
      ← List.append_assoc, Stretch.found]
    split
    next same =>
      subst same
      rw [List.mem_singleton]
      refine runAround_iff_of_words fun c hc => ?_
      rcases List.mem_append.mp hc with hc | hc
      · rcases List.mem_append.mp hc with hc | hc
        · exact front.property c hc
        · exact words c hc
      · exact back.property c hc
    next other =>
      rw [List.mem_nil_iff, iff_false]
      refine not_runAround_of_untouched nonempty fun x hx => ?_
      simp only [tracedValue, List.mem_append, List.mem_map] at hx
      rcases hx with (⟨c, _, rfl⟩ | ⟨c, _, rfl⟩) | ⟨c, _, rfl⟩
      · rfl
      · simpa using other
      · rfl

/-- The runs around an id in the filled tokens are the names that the search finds in their text. By
induction on the stretches, each of which is looked at on both sides. -/
theorem runAround_trace_iff (value : Placeholder → List Char) (spaced : Spaced tokens)
    (opened : Open tokens) (words : ∀ c ∈ value .id, Text.isWord c = true)
    (nonempty : value .id ≠ []) :
    RunAround (value .id) (trace value tokens) name ↔
      name ∈ marked Placeholder.id.text (value .id) (spell tokens) := by
  induction spaced with
  | last s =>
    have nothing : marked Placeholder.id.text (value .id) [] = [] := marked_of_end rfl
    rw [← List.append_nil (spell s.tokens), marked_stretch s ends_nil, nothing, List.append_nil]
    exact runAround_stretch_iff s words nonempty
  | @more s stop stops tokens later ih =>
    have behind : Open (.char stop :: tokens) := opened.of_append
    have ends : Ends (stop :: spell tokens) :=
      ⟨by simpa using stops, behind.not_prefix .id⟩
    rw [trace_append, Template.spell_append, Template.spell_char_cons, marked_stretch s ends,
      ends.marked_cons, List.mem_append, ← ih behind.2, ← runAround_stretch_iff s words nonempty]
    exact runAround_append_break_iff stops

/-! ## Blanks at the ends -/

/-- Blanks in front of a text do not change what is found, for no name and no placeholder holds a
blank. -/
theorem marked_blanks_append {blanks cs : List Char} (blank : ∀ c ∈ blanks, Text.isBlank c = true) :
    marked Placeholder.id.text put (blanks ++ cs) = marked Placeholder.id.text put cs := by
  induction blanks with
  | nil => rfl
  | cons c blanks ih =>
    obtain ⟨first, others⟩ := List.forall_mem_cons.mp blank
    have other : c ≠ '\x7b' := by
      rintro rfl
      exact absurd first (by decide)
    have ends : Ends (c :: (blanks ++ cs)) := ends_cons (Text.isWord_eq_false_of_isBlank first) other
    rw [List.cons_append, ends.marked_cons, ih others]

/-- The search finds the same with and without the blanks at the ends. The definition is made from
the stripped template, the helpers are found in the raw one. -/
theorem marked_strip (text : String) :
    marked Placeholder.id.text put (Text.strip text).toList =
      marked Placeholder.id.text put text.toList := by
  obtain ⟨front, back, whole, before, behind⟩ := Text.exists_trimWith_eq Text.isBlank text.toList
  rw [Text.strip, String.toList_ofList]
  conv_rhs => rw [whole, List.append_assoc, marked_blanks_append before]
  cases back with
  | nil => rw [List.append_nil]
  | cons c back =>
    obtain ⟨first, others⟩ := List.forall_mem_cons.mp behind
    have without := Placeholder.not_mem_of_isBlank first .id
    have nothing : marked Placeholder.id.text put back = [] := by
      rw [← List.append_nil back, marked_blanks_append others]
      exact marked_of_end rfl
    rw [marked_append_break (Text.isWord_eq_false_of_isBlank first) without (by decide), nothing,
      List.append_nil]

/-! ## Helpers -/

variable {k : Kind} {id : String}

/-- The definition of a block, every character with whether it was put for the id. -/
def traced (k : Kind) (id : String) : List (Char × Bool) :=
  Template.fillFrom (·, false) (tracedValue fun p => (Program.placeholderValue k id p).toList) 0
    (Text.strip k.template).toList

/-- A valid id makes a word: its hyphens are replaced, and its other characters are word
characters. -/
theorem isWord_of_mem_sanitize (valid : Block.ValidId id) {c : Char} (hc : c ∈ (sanitize id).toList) :
    Text.isWord c = true := by
  rcases alphanum_or_underscore_of_mem_sanitize valid hc with alphanumeric | rfl
  · have ascii : c.toNat < 128 := by
      simp only [Char.isAlphanum, Char.isAlpha, Char.isUpper, Char.isLower, Char.isDigit,
        Bool.or_eq_true, Bool.and_eq_true, decide_eq_true_eq, UInt32.le_iff_toNat_le,
        Char.reduceVal, UInt32.reduceToNat] at alphanumeric
      have code : c.toNat = c.val.toNat := rfl
      omega
    rw [Text.isWord, if_pos ascii, alphanumeric, Bool.true_or]
  · decide

/-- A valid id is not empty, so it can be seen where it was put. -/
theorem sanitize_toList_ne_nil (valid : Block.ValidId id) : (sanitize id).toList ≠ [] := by
  simp [sanitize, valid.1]

/-- Without the tracing a traced definition is the definition. The placeholders are filled one kind
after the other, and a name without a brace brings in no new ones. -/
theorem map_fst_traced (marked : WellMarked k.template.toList)
    (plain : '\x7b' ∉ (function k id).toList) :
    (traced k id).map Prod.fst = (Program.definition k id).toList := by
  rw [(Program.definition_eq_fill marked plain).1, Template.fill, String.toList_ofList, traced,
    Template.map_fillFrom]
  congr 1
  funext p
  simp [tracedValue, Function.comp_def]

/-- Helpers are listed in ascending order. -/
theorem pairwise_helpers (k : Kind) (id : String) : (helpers k id).Pairwise (· < ·) := by
  have sorted : (helpers k id).Pairwise (· ≤ ·) := List.pairwise_mergeSort' _ _
  exact (sorted.and (nodup_helpers k id)).imp fun both => lt_of_le_of_ne both.1 both.2

/-- The runs around the id in a definition are what the search finds in the raw template. The
stripped template has the same finds, and its tokens are stretches. -/
theorem runAround_traced_iff (valid : Block.ValidId id) (wellMarked : WellMarked k.template.toList)
    (separated : Template.Separated k.template.toList) {name : List Char} :
    RunAround (sanitize id).toList (traced k id) name ↔
      name ∈ marked Placeholder.id.text (sanitize id).toList k.template.toList := by
  obtain ⟨tokens, spelled, opened⟩ := Template.exists_tokens (Program.wellMarked_strip wellMarked)
  have spaced : Spaced tokens := by
    apply Template.spaced_of_separated
    rw [spelled, Text.strip, String.toList_ofList]
    exact separated.of_infix (Text.trimWith_infix _ _)
  rw [← marked_strip, traced, ← spelled, Template.fillFrom_spell opened]
  exact runAround_trace_iff (fun p => (Program.placeholderValue k id p).toList) spaced opened
    (fun c hc => isWord_of_mem_sanitize valid hc) (sanitize_toList_ne_nil valid)

/-- For every valid id, the helpers that a block declares are the identifiers of its definition in
which the id was put, in ascending order and each once. The template has to be well marked and its
placeholders apart, and the name of the function holds no opening brace. -/
theorem helpers_around_ids (k : Kind) (id : String) (valid : Block.ValidId id)
    (wellMarked : WellMarked k.template.toList)
    (separated : Template.Separated k.template.toList) (plain : '\x7b' ∉ (function k id).toList) :
    (traced k id).map Prod.fst = (Program.definition k id).toList ∧
      (∀ name, name ∈ (declared k id).drop 2 ↔
        RunAround (sanitize id).toList (traced k id) name.toList) ∧
      ((declared k id).drop 2).Pairwise (· < ·) := by
  refine ⟨map_fst_traced wellMarked plain, fun name => ?_, pairwise_helpers k id⟩
  rw [runAround_traced_iff valid wellMarked separated]
  exact mem_helpers_iff

/-- The helper's name goes on behind the id. The name of the function ends with the id as well, but
it was put in as a whole, so it is no name around an id. -/
theorem helpers_around_ids_hashed :
    RunAround (sanitize "b-1").toList (traced Sample.hashed "b-1") "h_b_1x".toList ∧
      ¬ RunAround (sanitize "b-1").toList (traced Sample.hashed "b-1") "hash_b_1".toList := by
  have same := (helpers_around_ids Sample.hashed "b-1" (by decide +kernel)
    (by decide +kernel) (by decide +kernel) (by decide +kernel)).2.1
  constructor
  · exact (same "h_b_1x").mp (mem_helpers_iff.mpr (by decide +kernel))
  · exact (same "hash_b_1").not.mp (mem_helpers_iff.not.mpr (by decide +kernel))

end Names

end ShaderGraph
