import Mathlib
import ShaderGraph.Kind.Builtin
import ShaderGraph.Proofs.Names.Basic

/-!
# The helpers of one block

The helpers of a block are found in the template of its kind. What stands around the
block's id in the name of a helper does not depend on the id
(`exists_of_mem_marked`), so the templates can be searched once for all blocks. A
helper stands on one line, so they can be searched line by line
(`mem_marked_template_iff`).

In the built-in templates the name of every helper ends with an underscore and the id
(`exists_helperStem`), and none is as long as the function of its block
(`Catalog.helpersApart_builtin`).
-/

namespace ShaderGraph

namespace Names

variable {mark replacement cs : List Char} {c : Char} {rest : List Char}

/-! ## The search -/

/-- Where the word that comes first is all there is, nothing is found. -/
theorem marked_of_end (behind : cs.dropWhile Text.isWord = []) : marked mark replacement cs = [] := by
  rw [marked]
  split
  · rfl
  next found => rw [behind] at found; cases found

/-- A mark behind the word that comes first: the two words around it are found with the
replacement between them, and the search goes on behind the second. -/
theorem marked_of_mark (behind : cs.dropWhile Text.isWord = c :: rest)
    (isMark : mark.isPrefixOf (c :: rest) = true) :
    marked mark replacement cs =
      (cs.takeWhile Text.isWord ++ replacement
          ++ (rest.drop (mark.length - 1)).takeWhile Text.isWord)
        :: marked mark replacement ((rest.drop (mark.length - 1)).dropWhile Text.isWord) := by
  rw [marked]
  split
  next found => rw [behind] at found; cases found
  next found =>
    rw [behind] at found
    cases found
    exact if_pos isMark

/-- Anything else behind the word that comes first is passed over, and the word with it. -/
theorem marked_of_not_mark (behind : cs.dropWhile Text.isWord = c :: rest)
    (isOther : ¬ mark.isPrefixOf (c :: rest) = true) :
    marked mark replacement cs = marked mark replacement rest := by
  rw [marked]
  split
  next found => rw [behind] at found; cases found
  next found =>
    rw [behind] at found
    cases found
    exact if_neg isOther

/-- What is found is the replacement between two words that do not depend on it. By induction
along the search, which looks at the text only and never at the replacement. -/
theorem exists_of_mem_marked {found : List Char} (hfound : found ∈ marked mark replacement cs) :
    ∃ front back, (∀ c ∈ front ++ back, Text.isWord c = true) ∧
      (∀ other, front ++ other ++ back ∈ marked mark other cs) ∧
      found = front ++ replacement ++ back := by
  fun_induction marked mark replacement cs with
  | case1 => cases hfound
  | case2 cs run c rest split isMark behind ih =>
    rcases List.mem_cons.mp hfound with rfl | later
    · refine ⟨run, behind.takeWhile Text.isWord, ?_, ?_, rfl⟩
      · intro c hc
        rcases List.mem_append.mp hc with front | back
        · exact List.mem_takeWhile_imp front
        · exact List.mem_takeWhile_imp back
      · intro other
        rw [marked_of_mark split isMark]
        exact List.mem_cons_self
    · obtain ⟨front, back, words, among, same⟩ := ih later
      refine ⟨front, back, words, fun other => ?_, same⟩
      rw [marked_of_mark split isMark]
      exact List.mem_cons_of_mem _ (among other)
  | case3 cs c rest split isOther ih =>
    obtain ⟨front, back, words, among, same⟩ := ih hfound
    refine ⟨front, back, words, fun other => ?_, same⟩
    rw [marked_of_not_mark split isOther]
    exact among other

/-! ## Line by line -/

theorem takeWhile_dropWhile_append_break {p : Char → Bool} {stop : Char} (stops : p stop = false)
    (cs after : List Char) :
    (cs ++ stop :: after).takeWhile p = cs.takeWhile p ∧
      (cs ++ stop :: after).dropWhile p = cs.dropWhile p ++ stop :: after := by
  induction cs with
  | nil => simp [stops]
  | cons c cs ih =>
    cases holds : p c
    · simp [holds]
    · simp [holds, ih]

/-- Whether a mark comes next can be told in front of a character that the mark does not
hold. -/
theorem isPrefixOf_append_break {stop : Char} (without : stop ∉ mark) (cs after : List Char) :
    mark.isPrefixOf (cs ++ stop :: after) = mark.isPrefixOf cs := by
  induction mark generalizing cs with
  | nil => simp
  | cons m mark ih =>
    rw [List.mem_cons, not_or] at without
    cases cs with
    | nil => simp [List.isPrefixOf, Ne.symm without.1]
    | cons c cs => simp only [List.cons_append, List.isPrefixOf, ih without.2]

/-- Behind a character that neither a word nor the mark holds, the search starts anew. Line ends
are such characters. -/
theorem marked_append_break {stop : Char} (stops : Text.isWord stop = false) (without : stop ∉ mark)
    (nonempty : mark ≠ []) (after : List Char) :
    marked mark replacement (cs ++ stop :: after) =
      marked mark replacement cs ++ marked mark replacement after := by
  have apart := fun cs => takeWhile_dropWhile_append_break stops cs after
  fun_induction marked mark replacement cs with
  | case1 cs split =>
    have behind : (cs ++ stop :: after).dropWhile Text.isWord = stop :: after := by
      rw [(apart cs).2, split, List.nil_append]
    refine marked_of_not_mark behind ?_
    rw [← List.nil_append (stop :: after), isPrefixOf_append_break without]
    simpa using nonempty
  | case2 cs run c rest split isMark behind ih =>
    have split' : (cs ++ stop :: after).dropWhile Text.isWord = c :: (rest ++ stop :: after) := by
      rw [(apart cs).2, split, List.cons_append]
    have isMark' : mark.isPrefixOf (c :: (rest ++ stop :: after)) = true := by
      rw [← List.cons_append, isPrefixOf_append_break without, isMark]
    have short : mark.length - 1 ≤ rest.length := by
      have := (List.isPrefixOf_iff_prefix.mp isMark).length_le
      simp only [List.length_cons] at this
      omega
    have dropped : (rest ++ stop :: after).drop (mark.length - 1) = behind ++ stop :: after :=
      List.drop_append_of_le_length short
    rw [marked_of_mark split' isMark', dropped, (apart cs).1, (apart behind).1, (apart behind).2, ih,
      List.cons_append]
  | case3 cs c rest split isOther ih =>
    have split' : (cs ++ stop :: after).dropWhile Text.isWord = c :: (rest ++ stop :: after) := by
      rw [(apart cs).2, split, List.cons_append]
    have isOther' : ¬ mark.isPrefixOf (c :: (rest ++ stop :: after)) = true := by
      rw [← List.cons_append, isPrefixOf_append_break without]
      exact isOther
    rw [marked_of_not_mark split' isOther', ih]

/-- What is found in a template is found on one of its lines, so lines can be evaluated one at a
time. -/
theorem mem_marked_template_iff (without : '\n' ∉ mark) (nonempty : mark ≠ []) {found : List Char}
    (lines : List String) :
    found ∈ marked mark replacement (Shaders.template lines).toList ↔
      ∃ line ∈ lines, found ∈ marked mark replacement line.toList := by
  have broken : ∀ cs after, marked mark replacement (cs ++ '\n' :: after) =
      marked mark replacement cs ++ marked mark replacement after := fun cs after =>
    marked_append_break (by decide) without nonempty after
  have blank : marked mark replacement [] = [] := marked_of_end rfl
  have joined : found ∈ marked mark replacement (String.intercalate "\n" lines).toList ↔
      ∃ line ∈ lines, found ∈ marked mark replacement line.toList := by
    induction lines with
    | nil => simp [blank]
    | cons line rest ih =>
      cases rest with
      | nil => simp
      | cons next rest =>
        have cut : (String.intercalate "\n" (line :: next :: rest)).toList =
            line.toList ++ '\n' :: (String.intercalate "\n" (next :: rest)).toList := by
          simp [String.intercalate_cons_cons]
        simp only [cut, broken, List.mem_append, ih, List.exists_mem_cons_iff]
  have framed : (Shaders.template lines).toList =
      [] ++ '\n' :: ((String.intercalate "\n" lines).toList ++ '\n' :: []) := by
    simp [Shaders.template]
  rw [framed, broken, broken, blank, List.nil_append, List.append_nil, joined]

/-- All that is found in a template has a property just if all that is found on each line has
it. -/
theorem forall_mem_marked_template_iff (without : '\n' ∉ mark) (nonempty : mark ≠ [])
    {P : List Char → Prop} (lines : List String) :
    (∀ found ∈ marked mark replacement (Shaders.template lines).toList, P found) ↔
      ∀ line ∈ lines, ∀ found ∈ marked mark replacement line.toList, P found := by
  simp only [mem_marked_template_iff without nonempty]
  constructor
  · exact fun each line hline found hfound => each found ⟨line, hline, hfound⟩
  · rintro each found ⟨line, hline, hfound⟩
    exact each line hline found hfound

end Names

/-! ## The built-in templates -/

/-- The helpers that a built-in template declares, each without the underscore and the id that
stand behind. -/
def Names.helperStems (k : Kind) : List String :=
  if k.id = "color-hsv-adjust" then ["rgb2hsv", "hsv2rgb"] else []

/-- A line spelled out as its characters is searched for helpers. A hyphen, which no word
holds, stands for the id. -/
theorem Shaders.helpers_ofList {cs : List Char} {stems : List String}
    (each : (Names.marked Kind.idPlaceholder.toList ['-'] cs).all fun found =>
      stems.any fun stem => found == stem.toList ++ ['_', '-']) :
    ∀ found ∈ Names.marked Kind.idPlaceholder.toList ['-'] (String.ofList cs).toList,
      ∃ stem ∈ stems, found = stem.toList ++ ['_', '-'] := by
  rw [String.toList_ofList]
  intro found hfound
  simpa using List.all_eq_true.mp each found hfound

/-- In the built-in templates all that is found, with a hyphen put for the id, is a listed stem,
an underscore and the hyphen. Each line is evaluated by itself. -/
theorem Catalog.hyphened_helpers_builtin : ∀ k ∈ Catalog.builtin.kinds,
    ∀ found ∈ Names.marked Kind.idPlaceholder.toList ['-'] k.template.toList,
      ∃ stem ∈ Names.helperStems k, found = stem.toList ++ ['_', '-'] := by
  unfold Catalog.builtin builtinKinds
  simp only [List.forall_mem_cons, List.not_mem_nil, false_imp_iff, implies_true, and_true]
  simp only [Shaders.circle, Shaders.rectangle, Shaders.ring, Shaders.star, Shaders.wave,
    Shaders.grid, Shaders.checkerboard, Shaders.solidColor, Shaders.gradient, Shaders.rainbow,
    Shaders.hsvAdjust, Shaders.move, Shaders.rotate, Shaders.scale, Shaders.distort, Shaders.mix,
    Shaders.multiply, Shaders.add, Shaders.overlay, Shaders.glow, Shaders.noise, Shaders.ripple,
    Names.forall_mem_marked_template_iff (show '\n' ∉ Kind.idPlaceholder.toList by decide)
      (show Kind.idPlaceholder.toList ≠ [] by decide)]
  simp only [List.forall_mem_cons, List.not_mem_nil, false_imp_iff, implies_true, and_true]
  -- Line by line: a template is too long a literal to be searched as a whole.
  repeat' apply And.intro
  all_goals
    apply Shaders.helpers_ofList
    decide +kernel

/-- What is found in a built-in template is the stem of a helper, an underscore and what was put
for the id. No word holds a hyphen, so the hyphen shows where any other text is put. -/
theorem Names.exists_helperStem {k : Kind} (known : k ∈ Catalog.builtin.kinds)
    {replacement found : List Char}
    (hfound : found ∈ marked Kind.idPlaceholder.toList replacement k.template.toList) :
    ∃ stem ∈ helperStems k, found = stem.toList ++ '_' :: replacement := by
  obtain ⟨front, back, words, among, rfl⟩ := exists_of_mem_marked hfound
  obtain ⟨stem, hstem, spelled⟩ := Catalog.hyphened_helpers_builtin k known _ (among ['-'])
  have no_hyphen : '-' ∉ front ++ back := by
    intro hyphen
    exact absurd (words '-' hyphen) (by decide)
  rw [List.mem_append, not_or] at no_hyphen
  have cut : front ++ '-' :: back = (stem.toList ++ ['_']) ++ '-' :: [] := by simpa using spelled
  obtain ⟨rfl, _, rfl⟩ := (List.append_cons_inj_of_notMem no_hyphen.1 no_hyphen.2).mp cut
  exact ⟨stem, hstem, by simp⟩

/-! ## Helpers and functions -/

/-- In every template the names of helpers hold an underscore and are not as long as the
name of the function. The id of the block is left out of both. -/
def Catalog.HelpersApart (c : Catalog) : Prop :=
  ∀ k ∈ c.kinds, ∀ found ∈ Names.marked Kind.idPlaceholder.toList [] k.template.toList,
    '_' ∈ found ∧ found.length ≠ (Names.stem k "").length + 1

/-- Helpers of the built-in kinds have an underscore, and none is as long as the function of its
kind. -/
theorem Catalog.helpersApart_builtin : Catalog.builtin.HelpersApart := by
  have lengths : ∀ k ∈ Catalog.builtin.kinds, ∀ stem ∈ Names.helperStems k,
      stem.length ≠ (Names.stem k "").length := by decide +kernel
  intro k known found hfound
  obtain ⟨stem, hstem, rfl⟩ := Names.exists_helperStem known hfound
  have length := lengths k known stem hstem
  rw [← String.length_toList] at length
  refine ⟨by simp, ?_⟩
  simpa using length

namespace Names

variable {c : Catalog} {k : Kind} {id name : String}

/-- The helpers of a block are what is found in its template with the block's id put for the
mark; sorting and leaving out repetitions change nothing about which they are. -/
theorem mem_helpers_iff : name ∈ helpers k id ↔
    name.toList ∈ marked Kind.idPlaceholder.toList (sanitize id).toList k.template.toList := by
  simp only [helpers, (List.mergeSort_perm _ _).mem_iff, List.mem_eraseDups, List.mem_map]
  constructor
  · rintro ⟨found, hfound, rfl⟩
    rwa [String.toList_ofList]
  · exact fun hname => ⟨name.toList, hname, String.ofList_toList⟩

theorem nodup_eraseDups (names : List String) : names.eraseDups.Nodup := by
  cases names with
  | nil => exact List.nodup_nil
  | cons name rest =>
    rw [List.eraseDups_cons]
    apply List.nodup_cons.mpr
    exact ⟨by simp [List.mem_eraseDups], nodup_eraseDups _⟩
termination_by names.length
decreasing_by exact Nat.lt_succ_of_le (List.length_filter_le _ _)

/-- A helper is listed once, however often the template mentions it. -/
theorem nodup_helpers (k : Kind) (id : String) : (helpers k id).Nodup :=
  (List.mergeSort_perm _ _).nodup_iff.mpr (nodup_eraseDups _)

/-- The name of a function holds an underscore, in front of the id. -/
theorem underscore_mem_function (k : Kind) (id : String) : '_' ∈ (function k id).toList := by
  simp [function]

/-- The name of a helper holds an underscore as well, where the catalog keeps helpers apart. -/
theorem underscore_mem_of_mem_helpers (apart : c.HelpersApart) (known : k ∈ c.kinds)
    (helper : name ∈ helpers k id) : '_' ∈ name.toList := by
  obtain ⟨front, back, _, among, spelled⟩ := exists_of_mem_marked (mem_helpers_iff.mp helper)
  have underscore := (apart k known _ (among [])).1
  rw [spelled]
  simp only [List.append_nil, List.mem_append] at underscore ⊢
  tauto

/-- No helper of a block is named like its function: around the id of the block the one
name has more characters than the other. -/
theorem function_not_mem_helpers (apart : c.HelpersApart) (known : k ∈ c.kinds) :
    function k id ∉ helpers k id := by
  intro helper
  obtain ⟨front, back, _, among, spelled⟩ := exists_of_mem_marked (mem_helpers_iff.mp helper)
  have lengths := congrArg List.length spelled
  have different := (apart k known _ (among [])).2
  have underscore : "_".length = 1 := rfl
  simp only [function, String.toList_append, List.append_nil, List.length_append,
    String.length_toList] at lengths different
  omega

end Names

end ShaderGraph
