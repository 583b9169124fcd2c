import Mathlib
import ShaderGraph.Proofs.Names.Helpers

/-!
# Blocks that declare the same identifier

An identifier holds the id of its block, and what stands around the id is given by the
kind (`frames`). Ids are arbitrary, so an identifier could in principle be put together
in more than one way. What settles it is the text in front of the first underscore, which
never reaches into the id: in the built-in catalog no two kinds share one, and within a kind
only the function and the result of a block do, if the name of the kind is one word
(`frames_builtin_told`).

So blocks of different kinds never declare the same identifier, and blocks of one kind do
only if their ids are the same once they are fit for an identifier, or if one of them is the
other with the ending of a result (`declared_overlap_iff`).
-/

namespace ShaderGraph

/-- The name of the kind has no blanks. -/
def Kind.OneWord (k : Kind) : Prop := ∀ ch ∈ k.name.toList, Text.isBlank ch = false

instance (k : Kind) : Decidable k.OneWord :=
  decidable_of_iff (k.name.toList.all fun ch => !Text.isBlank ch) (by simp [Kind.OneWord])

namespace Names

variable {k k' : Kind} {id name front rest : String}

/-! ## Frames -/

/-- The identifiers that a block of a kind declares: for each the text in front of the id and the
text behind it. -/
def frames (k : Kind) : List (String × String) :=
  (stem k "" ++ "_", "") :: (stem k "_" ++ "_", "_result") ::
    (helperStems k).map fun stem => (stem ++ "_", "")

/-- Every identifier of a block is its id in a frame, which depends on the kind alone. There are
frames for the function, the result and each helper. -/
theorem exists_frame_of_mem_declared (known : k ∈ Catalog.builtin.kinds)
    (declares : name ∈ declared k id) :
    ∃ frame ∈ frames k, name = frame.1 ++ sanitize id ++ frame.2 := by
  rcases List.mem_cons.mp declares with rfl | declares
  · exact ⟨_, List.mem_cons_self, by simp [function]⟩
  rcases List.mem_cons.mp declares with rfl | helper
  · exact ⟨_, List.mem_cons_of_mem _ List.mem_cons_self, rfl⟩
  · obtain ⟨stem, hstem, spelled⟩ := exists_helperStem known (mem_helpers_iff.mp helper)
    refine ⟨(stem ++ "_", ""), ?_, ?_⟩
    · exact List.mem_cons_of_mem _ (List.mem_cons_of_mem _ (List.mem_map.mpr ⟨stem, hstem, rfl⟩))
    · apply String.toList_injective
      simp [spelled]

/-! ## Heads -/

/-- What stands in front of the first underscore. -/
def head (name : String) : List Char := name.toList.takeWhile (· ≠ '_')

/-- Nothing behind an underscore changes the head, so the head of an identifier is that of its
frame. -/
theorem head_append (underscore : '_' ∈ front.toList) : head (front ++ rest) = head front := by
  have stops : (front.toList.takeWhile (· ≠ '_')).length ≠ front.toList.length := by
    intro whole
    have all := (List.takeWhile_prefix (· ≠ '_')).eq_of_length whole
    rw [← all] at underscore
    simpa using List.mem_takeWhile_imp underscore
  unfold head
  rw [String.toList_append, List.takeWhile_append, if_neg stops]

/-- Every frame has an underscore in front of the id, so no id is part of a head. -/
theorem underscore_mem_frames : ∀ frame ∈ frames k, '_' ∈ frame.1.toList := by
  simp [frames]

/-- In the built-in catalog a head belongs to one frame, or to the function and the result of a
kind whose name is one word. -/
theorem frames_builtin_told : ∀ k ∈ Catalog.builtin.kinds, ∀ k' ∈ Catalog.builtin.kinds,
    ∀ frame ∈ frames k, ∀ frame' ∈ frames k', head frame.1 = head frame'.1 →
      k.id = k'.id ∧ frame.1 = frame'.1 ∧
      (frame.2 = frame'.2 ∨ k.OneWord ∧
        (frame.2 = "" ∧ frame'.2 = "_result" ∨ frame.2 = "_result" ∧ frame'.2 = "")) := by
  decide +kernel

/-- A built-in kind is known by its id, since the built-in list repeats none. -/
theorem eq_of_id_eq (known : k ∈ Catalog.builtin.kinds) (known' : k' ∈ Catalog.builtin.kinds)
    (same : k.id = k'.id) : k = k' := by
  have distinct : (Catalog.builtin.kinds.map Kind.id).Nodup := by decide +kernel
  exact List.inj_on_of_nodup_map distinct known known' same

/-- If the name of a kind is one word, nothing in it is replaced. This is how the name of a result
can be that of a function, with another id. -/
theorem stem_eq_of_oneWord (known : k ∈ Catalog.builtin.kinds) (oneWord : k.OneWord) :
    stem k "_" = stem k "" := by
  have each : ∀ k ∈ Catalog.builtin.kinds, k.OneWord → stem k "_" = stem k "" := by decide +kernel
  exact each k known oneWord

/-! ## Shared identifiers -/

/-- Two ids give the same text with endings that a result has or has not. -/
theorem sanitize_of_append_eq {a b back back' : String}
    (same : sanitize a ++ back = sanitize b ++ back')
    (endings : back = back' ∨ k.OneWord ∧
      (back = "" ∧ back' = "_result" ∨ back = "_result" ∧ back' = "")) :
    sanitize a = sanitize b ∨ k.OneWord ∧
      (sanitize a = sanitize b ++ "_result" ∨ sanitize b = sanitize a ++ "_result") := by
  rcases endings with rfl | ⟨oneWord, ⟨rfl, rfl⟩ | ⟨rfl, rfl⟩⟩
  · exact .inl ((String.append_left_inj back).mp same)
  · rw [String.append_empty] at same
    exact .inr ⟨oneWord, .inl same⟩
  · rw [String.append_empty] at same
    exact .inr ⟨oneWord, .inr same.symm⟩

/-- A common identifier has the same head in both blocks, so the head tells that they are of one
kind and how their ids compare. -/
theorem alike_of_mem_declared (known : k ∈ Catalog.builtin.kinds)
    (known' : k' ∈ Catalog.builtin.kinds) {a b : String} (declares : name ∈ declared k a)
    (declares' : name ∈ declared k' b) :
    k = k' ∧ (sanitize a = sanitize b ∨ k.OneWord ∧
      (sanitize a = sanitize b ++ "_result" ∨ sanitize b = sanitize a ++ "_result")) := by
  obtain ⟨frame, hframe, rfl⟩ := exists_frame_of_mem_declared known declares
  obtain ⟨frame', hframe', same⟩ := exists_frame_of_mem_declared known' declares'
  rw [String.append_assoc, String.append_assoc] at same
  have heads := congrArg head same
  rw [head_append (underscore_mem_frames frame hframe),
    head_append (underscore_mem_frames frame' hframe')] at heads
  obtain ⟨ids, fronts, endings⟩ :=
    frames_builtin_told k known k' known' frame hframe frame' hframe' heads
  rw [fronts] at same
  exact ⟨eq_of_id_eq known known' ids,
    sanitize_of_append_eq ((String.append_right_inj _).mp same) endings⟩

/-- Blocks of one kind share an identifier if their ids are the same in an identifier, or if one
function is named like the other's result. -/
theorem exists_shared_of_sanitize (known : k ∈ Catalog.builtin.kinds) {a b : String}
    (alike : sanitize a = sanitize b ∨ k.OneWord ∧ sanitize a = sanitize b ++ "_result") :
    ∃ name, name ∈ declared k a ∧ name ∈ declared k b := by
  refine ⟨function k a, List.mem_cons_self, ?_⟩
  rcases alike with same | ⟨oneWord, same⟩
  · rw [function, same]
    exact List.mem_cons_self
  · have named : function k a = result k b := by
      rw [function, result, stem_eq_of_oneWord known oneWord, same, String.append_assoc,
        String.append_assoc, String.append_assoc]
    rw [named]
    exact List.mem_cons_of_mem _ List.mem_cons_self

/-- **Blocks of built-in kinds declare a common identifier exactly when they are of one kind and
their ids are the same once they are fit for an identifier, or, for a kind whose name is one word,
one of them is the other with the ending of a result.** Blocks of different kinds never do,
whatever their ids. -/
theorem declared_overlap_iff (known : k ∈ Catalog.builtin.kinds)
    (known' : k' ∈ Catalog.builtin.kinds) (a b : String) :
    ((∃ name, name ∈ declared k a ∧ name ∈ declared k' b) ↔
      k = k' ∧ (sanitize a = sanitize b ∨ k.OneWord ∧
        (sanitize a = sanitize b ++ "_result" ∨ sanitize b = sanitize a ++ "_result"))) ∧
    (k ≠ k' → (declared k a).Disjoint (declared k' b)) := by
  refine ⟨⟨?_, ?_⟩, ?_⟩
  · rintro ⟨name, declares, declares'⟩
    exact alike_of_mem_declared known known' declares declares'
  · rintro ⟨rfl, same | ⟨oneWord, longer | longer⟩⟩
    · exact exists_shared_of_sanitize known (.inl same)
    · exact exists_shared_of_sanitize known (.inr ⟨oneWord, longer⟩)
    · obtain ⟨name, declares, declares'⟩ :=
        exists_shared_of_sanitize (a := b) (b := a) known (.inr ⟨oneWord, longer⟩)
      exact ⟨name, declares', declares⟩
  · intro different name declares declares'
    exact different (alike_of_mem_declared known known' declares declares').1

/-- The function of one circle can be named like the result of another. For colors, whose kind has
a name of two words, that cannot happen; and a circle and a color have nothing in common. -/
theorem declared_overlap_iff_circle :
    ∃ circle ∈ Catalog.builtin.kinds, ∃ color ∈ Catalog.builtin.kinds,
      circle.name = "Circle" ∧ color.name = "Solid Color" ∧
      (∃ name, name ∈ declared circle "x" ∧ name ∈ declared circle "x-result") ∧
      (¬ ∃ name, name ∈ declared color "x" ∧ name ∈ declared color "x-result") ∧
      (declared circle "x").Disjoint (declared color "x") := by
  have kinds : ∃ circle ∈ Catalog.builtin.kinds, ∃ color ∈ Catalog.builtin.kinds,
      circle.name = "Circle" ∧ color.name = "Solid Color" ∧ circle.OneWord ∧ ¬ color.OneWord := by
    decide +kernel
  obtain ⟨circle, known, color, known', isCircle, isColor, oneWord, twoWords⟩ := kinds
  have longer : sanitize "x-result" = sanitize "x" ++ "_result" := by decide +kernel
  have different : sanitize "x" ≠ sanitize "x-result" := by decide +kernel
  refine ⟨circle, known, color, known', isCircle, isColor, ?_, ?_, ?_⟩
  · exact (declared_overlap_iff known known "x" "x-result").1.mpr
      ⟨rfl, .inr ⟨oneWord, .inr longer⟩⟩
  · intro shared
    rcases ((declared_overlap_iff known' known' "x" "x-result").1.mp shared).2 with same | ⟨one, _⟩
    · exact different same
    · exact twoWords one
  · apply (declared_overlap_iff known known' "x" "x").2
    rintro rfl
    exact twoWords oneWord

end Names

end ShaderGraph
