import Mathlib
import ShaderGraph.Text.Blank
import ShaderGraph.Text.Substitute

/-!
# Texts cut into lines, and texts with a pair of characters missing

Cutting a text at line breaks undoes joining lines, and a line without a break
is one piece (`pieces_join_lines`).

That two characters never stand side by side is said by `Apart`, which is how it
is used; `occurs_pair_eq_false_iff` ties it to the search for the pair. A
substitution that puts neither of the two characters in brings no such pair
about (`Apart.replaceFrom`).
-/

namespace ShaderGraph.Text

/-! ## Pieces -/

section Pieces

variable {mark : Char}

theorem pieces_ne_nil (mark : Char) (cs : List Char) : pieces mark cs ≠ [] := by
  cases cs with
  | nil => simp [pieces]
  | cons c cs =>
    unfold pieces
    split
    · simp
    · split <;> simp

theorem pieces_of_not_mem {cs : List Char} (none : mark ∉ cs) : pieces mark cs = [cs] := by
  induction cs with
  | nil => rfl
  | cons c cs ih =>
    rw [List.mem_cons, not_or] at none
    rw [pieces, if_neg (Ne.symm none.1), ih none.2]

/-- A mark parts the pieces in front of it from those behind it, so cutting can be done on both
sides apart. -/
theorem pieces_append_mark (mark : Char) (front back : List Char) :
    pieces mark (front ++ mark :: back) = pieces mark front ++ pieces mark back := by
  induction front with
  | nil => simp [pieces]
  | cons c front ih =>
    rw [List.cons_append, pieces, pieces, ih]
    split
    · rfl
    · obtain ⟨piece, rest, cut⟩ := List.exists_cons_of_ne_nil (pieces_ne_nil mark front)
      rw [cut]
      rfl

/-- A piece stands in the text as it is, so what is known of every part of the text is known of
its pieces. -/
theorem infix_of_mem_pieces {cs piece : List Char} (hpiece : piece ∈ pieces mark cs) :
    piece <:+: cs := by
  -- The first piece starts the text, and every other stands somewhere in it.
  have first_and_others : ∀ cs : List Char, ∃ first rest, pieces mark cs = first :: rest ∧
      first <+: cs ∧ ∀ other ∈ rest, other <:+: cs := by
    intro cs
    induction cs with
    | nil => exact ⟨[], [], rfl, List.prefix_refl _, by simp⟩
    | cons c cs ih =>
      obtain ⟨first, rest, cut, starts, others⟩ := ih
      have later : ∀ other ∈ rest, other <:+: c :: cs := fun other hother =>
        (others other hother).trans (List.suffix_cons c cs).isInfix
      by_cases h : c = mark
      · refine ⟨[], first :: rest, by rw [pieces, if_pos h, cut], List.nil_prefix, ?_⟩
        exact List.forall_mem_cons.mpr
          ⟨starts.isInfix.trans (List.suffix_cons c cs).isInfix, later⟩
      · refine ⟨c :: first, rest, by rw [pieces, if_neg h, cut], ?_, later⟩
        exact List.cons_prefix_cons.mpr ⟨rfl, starts⟩
  obtain ⟨first, rest, cut, starts, others⟩ := first_and_others cs
  rw [cut, List.mem_cons] at hpiece
  rcases hpiece with rfl | hpiece
  · exact starts.isInfix
  · exact others piece hpiece

/-- Lines that are joined are cut again, and behind the last break nothing is
left. -/
theorem pieces_join_lines (lines : List String) :
    pieces '\n' (String.join (lines.map (· ++ "\n"))).toList =
      lines.flatMap (fun line => pieces '\n' line.toList) ++ [[]] := by
  induction lines with
  | nil => rfl
  | cons line rest ih =>
    have broken : (String.join ((line :: rest).map (· ++ "\n"))).toList =
        line.toList ++ '\n' :: (String.join (rest.map (· ++ "\n"))).toList := by
      simp [String.join_cons]
    rw [broken, pieces_append_mark, ih, List.flatMap_cons, List.append_assoc]

end Pieces

/-! ## Pairs -/

/-- The first character never stands right before the second. -/
def Apart (a b : Char) (cs : List Char) : Prop := cs.IsChain fun x y => ¬ (x = a ∧ y = b)

section Pairs

variable {a b : Char} {cs : List Char}

/-- The search for a text inside another finds it exactly where it stands. -/
theorem occurs_iff_infix {target : List Char} : occurs target cs = true ↔ target <:+: cs := by
  induction cs with
  | nil => rw [occurs, List.isEmpty_iff, List.infix_nil]
  | cons c cs ih => rw [occurs, Bool.or_eq_true, ih, List.isPrefixOf_iff_prefix, List.infix_cons_iff]

theorem occurs_pair_eq_false_iff : occurs [a, b] cs = false ↔ Apart a b cs := by
  unfold Apart
  induction cs with
  | nil => simp [occurs]
  | cons c cs ih =>
    rw [occurs, Bool.or_eq_false_iff, ih, List.isChain_cons]
    refine and_congr_left fun _ => ?_
    cases cs with
    | nil => simp [List.isPrefixOf]
    | cons d cs =>
      simp only [List.isPrefixOf, Bool.and_true, List.head?_cons, Option.mem_some_iff, forall_eq']
      by_cases hc : a = c <;> by_cases hd : b = d <;> grind

theorem apart_of_not_mem_left (h : a ∉ cs) : Apart a b cs := by
  induction cs with
  | nil => exact .nil
  | cons c cs ih =>
    rw [List.mem_cons, not_or] at h
    exact List.isChain_cons.mpr ⟨fun _ _ pair => h.1 pair.1.symm, ih h.2⟩

/-- Texts put together around a separator that holds neither of the pair: the two characters come
together only inside of one of the texts. -/
theorem apart_append_append_iff {sep front back : List Char} (nonempty : sep ≠ []) (ha : a ∉ sep)
    (hb : b ∉ sep) : Apart a b (front ++ sep ++ back) ↔ Apart a b front ∧ Apart a b back := by
  unfold Apart
  rw [List.isChain_append, List.isChain_append]
  constructor
  · rintro ⟨⟨hfront, _, _⟩, hback, _⟩
    exact ⟨hfront, hback⟩
  · rintro ⟨hfront, hback⟩
    refine ⟨⟨hfront, apart_of_not_mem_left ha, ?_⟩, hback, ?_⟩
    · intro x _ y hy pair
      exact hb (pair.2 ▸ List.mem_of_head? hy)
    · intro x hx y _ pair
      rw [List.getLast?_append_of_ne_nil _ nonempty] at hx
      exact ha (pair.1 ▸ List.mem_of_getLast? hx)

/-- The same of any number of texts that are joined with such a separator. -/
theorem apart_intercalate_iff {sep : String} (nonempty : sep.toList ≠ []) (ha : a ∉ sep.toList)
    (hb : b ∉ sep.toList) (texts : List String) :
    Apart a b (String.intercalate sep texts).toList ↔ ∀ text ∈ texts, Apart a b text.toList := by
  induction texts with
  | nil => simp [Apart]
  | cons text rest ih =>
    cases rest with
    | nil => simp
    | cons next rest =>
      rw [String.intercalate_cons_cons, String.toList_append, String.toList_append,
        apart_append_append_iff nonempty ha hb, ih]
      simp only [List.forall_mem_cons]

/-- A substituted text starts as the text did, or as the replacement does, so only these two can
come next to what stands in front of it. -/
theorem head?_replaceFrom_zero {target replacement : List Char} (nonempty : replacement ≠ [])
    (cs : List Char) :
    (replaceFrom target replacement 0 cs).head? = cs.head? ∨
      (replaceFrom target replacement 0 cs).head? = replacement.head? := by
  cases cs with
  | nil => exact .inl rfl
  | cons c cs =>
    rw [replaceFrom]
    split
    · exact .inr (List.head?_append_of_ne_nil _ nonempty)
    · exact .inl rfl

/-- A substitution that puts in neither of two characters does not bring them together. The
replacement must not be empty, or its neighbours would come to stand side by side. -/
theorem Apart.replaceFrom {target replacement : List Char} (nonempty : replacement ≠ [])
    (ha : a ∉ replacement) (hb : b ∉ replacement) (apart : Apart a b cs) :
    ∀ skip, Apart a b (replaceFrom target replacement skip cs) := by
  induction cs with
  | nil => exact fun _ => .nil
  | cons c cs ih =>
    obtain ⟨next, rest⟩ := List.isChain_cons.mp apart
    intro skip
    cases skip with
    | succ skip => exact ih rest skip
    | zero =>
      rw [Text.replaceFrom]
      split
      · refine List.isChain_append.mpr ⟨apart_of_not_mem_left ha, ih rest _, ?_⟩
        intro x hx y _ pair
        exact ha (pair.1 ▸ List.mem_of_getLast? hx)
      · refine List.isChain_cons.mpr ⟨fun y hy pair => ?_, ih rest 0⟩
        -- What comes behind `c` now is what came behind it, or starts the replacement.
        rcases head?_replaceFrom_zero nonempty cs with same | new
        · exact next y (same ▸ hy) pair
        · rw [new] at hy
          exact hb (pair.2 ▸ List.mem_of_head? hy)

end Pairs

/-- Around what is left of a text after its ends are trimmed, only characters of the class stood.
This is all that is used about trimming. -/
theorem exists_trimWith_eq (p : Char → Bool) (cs : List Char) :
    ∃ front back, cs = front ++ trimWith p cs ++ back ∧
      (∀ c ∈ front, p c = true) ∧ ∀ c ∈ back, p c = true := by
  refine ⟨cs.takeWhile p, ((cs.dropWhile p).reverse.takeWhile p).reverse, ?_, ?_, ?_⟩
  · rw [trimWith, List.append_assoc, ← List.reverse_append, List.takeWhile_append_dropWhile,
      List.reverse_reverse, List.takeWhile_append_dropWhile]
  · exact fun c hc => List.mem_takeWhile_imp hc
  · exact fun c hc => List.mem_takeWhile_imp (List.mem_reverse.mp hc)

/-- What is left of a text after its ends are trimmed stands in it. -/
theorem trimWith_infix (p : Char → Bool) (cs : List Char) : trimWith p cs <:+: cs := by
  obtain ⟨front, back, whole, _, _⟩ := exists_trimWith_eq p cs
  exact ⟨front, back, whole.symm⟩

end ShaderGraph.Text
