import Mathlib
import ShaderGraph.Proofs.Text.Substitute

/-!
# Brackets, and the arguments between them

The `depth` of a text is the number of brackets it opens less those it closes.
A text is `Balanced` if it closes no bracket it has not opened and leaves none
open. The commas at depth zero cut it into its arguments (`topPieces`).

Arguments joined by commas are found again exactly when each of them is balanced
and opens no comment (`selfContained_intercalate_iff`). That holds of arguments
that hold no comma outside of brackets: a bracket left open would hide the commas
behind it, and one too many would show at once.
-/

namespace ShaderGraph.Text

/-! ## Depth -/

/-- The brackets a text opens, less those it closes. -/
def depth (cs : List Char) : Int := (cs.count '(' : Int) - cs.count ')'

/-- A text that starts at a depth never goes below zero. -/
def Above (start : Int) (cs : List Char) : Prop := ∀ front, front <+: cs → 0 ≤ start + depth front

/-- A text closes what it opens, and nothing else. -/
def Balanced (cs : List Char) : Prop := Above 0 cs ∧ depth cs = 0

instance (start : Int) : DecidablePred (Above start) := fun cs =>
  decidable_of_iff (∀ front ∈ cs.inits, 0 ≤ start + depth front) (by simp [Above, List.mem_inits])

instance : DecidablePred Balanced := fun cs => inferInstanceAs (Decidable (Above 0 cs ∧ depth cs = 0))

/-- A text cut at the commas of depth zero, if it starts at a depth. -/
def topPieces (start : Int) : List Char → List (List Char)
  | [] => [[]]
  | c :: cs =>
    if c = ',' ∧ start = 0 then [] :: topPieces start cs
    else
      match topPieces (start + depth [c]) cs with
      | [] => [[c]]
      | piece :: rest => (c :: piece) :: rest

/-- The number of commas of depth zero. -/
def topCommas (start : Int) : List Char → Nat
  | [] => 0
  | c :: cs => (if c = ',' ∧ start = 0 then 1 else 0) + topCommas (start + depth [c]) cs

section Depth

variable {start : Int} {c : Char} {cs front back : List Char}

@[simp] theorem depth_nil : depth [] = 0 := rfl

@[simp] theorem depth_append (front back : List Char) :
    depth (front ++ back) = depth front + depth back := by
  simp only [depth, List.count_append]
  omega

theorem depth_cons (c : Char) (cs : List Char) : depth (c :: cs) = depth [c] + depth cs :=
  depth_append [c] cs

theorem depth_eq_zero (opening : '(' ∉ cs) (closing : ')' ∉ cs) : depth cs = 0 := by
  simp [depth, List.count_eq_zero_of_not_mem opening, List.count_eq_zero_of_not_mem closing]

theorem above_nil : Above start [] ↔ 0 ≤ start := by
  simp [Above]

theorem above_cons : Above start (c :: cs) ↔ 0 ≤ start ∧ Above (start + depth [c]) cs := by
  constructor
  · intro above
    refine ⟨by simpa using above [] List.nil_prefix, fun front hfront => ?_⟩
    have h := above (c :: front) (List.cons_prefix_cons.mpr ⟨rfl, hfront⟩)
    rw [depth_cons] at h
    omega
  · rintro ⟨here, above⟩ front hfront
    cases front with
    | nil => simpa using here
    | cons d front =>
      obtain ⟨rfl, hrest⟩ := List.cons_prefix_cons.mp hfront
      have h := above front hrest
      rw [depth_cons]
      omega

/-- A text stays above zero if its front does, and its back does from the depth
where the front has left it. -/
theorem above_append : Above start (front ++ back) ↔
    Above start front ∧ Above (start + depth front) back := by
  induction front generalizing start with
  | nil =>
    have here : Above start back → 0 ≤ start := fun above => by
      simpa using above [] List.nil_prefix
    simpa [above_nil] using here
  | cons c front ih =>
    rw [List.cons_append, above_cons, above_cons, ih, depth_cons c front, and_assoc, add_assoc]

theorem above_of_no_brackets (nonneg : 0 ≤ start) (opening : '(' ∉ cs) (closing : ')' ∉ cs) :
    Above start cs := by
  intro front hfront
  rw [depth_eq_zero (fun h => opening (hfront.subset h)) (fun h => closing (hfront.subset h))]
  omega

theorem topPieces_ne_nil (start : Int) (cs : List Char) : topPieces start cs ≠ [] := by
  cases cs with
  | nil => simp [topPieces]
  | cons c cs =>
    unfold topPieces
    split
    · simp
    · split <;> simp

/-- There is one piece more than there are commas at depth zero, for each of these
starts a new piece. -/
theorem length_topPieces (start : Int) (cs : List Char) :
    (topPieces start cs).length = topCommas start cs + 1 := by
  induction cs generalizing start with
  | nil => rfl
  | cons c cs ih =>
    rw [topPieces, topCommas]
    split
    next comma =>
      have level : start + depth [c] = start := by
        rw [comma.1]
        exact Int.add_zero start
      rw [List.length_cons, ih, level]
      omega
    next =>
      obtain ⟨piece, rest, cut⟩ :=
        List.exists_cons_of_ne_nil (topPieces_ne_nil (start + depth [c]) cs)
      have counted := ih (start + depth [c])
      rw [cut] at counted ⊢
      simp only [List.length_cons] at counted ⊢
      omega

/-- The commas of a text are those of its front and those of its back, the latter
counted from the depth where the front has left it. -/
theorem topCommas_append (start : Int) (front back : List Char) :
    topCommas start (front ++ back) =
      topCommas start front + topCommas (start + depth front) back := by
  induction front generalizing start with
  | nil => simp [topCommas]
  | cons c front ih =>
    rw [List.cons_append, topCommas, topCommas, ih, depth_cons c front, add_assoc, add_assoc]

theorem topCommas_of_not_mem (none : ',' ∉ cs) : topCommas start cs = 0 := by
  induction cs generalizing start with
  | nil => rfl
  | cons c cs ih =>
    rw [List.mem_cons, not_or] at none
    rw [topCommas, if_neg (fun comma => none.1 comma.1.symm), ih none.2]

/-- Inside of brackets no comma is at depth zero, if the text has no brackets of its
own. -/
theorem topCommas_of_above (positive : 0 < start) (opening : '(' ∉ cs) (closing : ')' ∉ cs) :
    topCommas start cs = 0 := by
  induction cs with
  | nil => rfl
  | cons c cs ih =>
    rw [List.mem_cons, not_or] at opening closing
    have level : depth [c] = 0 :=
      depth_eq_zero (by simpa using opening.1) (by simpa using closing.1)
    rw [topCommas, if_neg (fun comma => by omega), level, Int.add_zero, ih opening.2 closing.2]

end Depth

/-! ## Arguments -/

/-- A text that can stand among arguments: it opens no comment, and it is
balanced. -/
structure SelfContained (cs : List Char) : Prop where
  no_line_comment : occurs "//".toList cs = false
  no_block_comment : occurs "/*".toList cs = false
  balanced : Balanced cs

instance : DecidablePred SelfContained := fun cs =>
  decidable_of_iff
    (occurs "//".toList cs = false ∧ occurs "/*".toList cs = false ∧ Balanced cs)
    ⟨fun ⟨line, block, balanced⟩ => ⟨line, block, balanced⟩,
      fun ⟨line, block, balanced⟩ => ⟨line, block, balanced⟩⟩

/-- Without a slash there is no comment, so a balanced text is self-contained. -/
theorem Balanced.selfContained {cs : List Char} (balanced : Balanced cs) (slash : '/' ∉ cs) :
    SelfContained cs where
  no_line_comment := occurs_pair_eq_false_iff.mpr (apart_of_not_mem_left slash)
  no_block_comment := occurs_pair_eq_false_iff.mpr (apart_of_not_mem_left slash)
  balanced := balanced

section Arguments

variable {start : Int} {args : List String}

theorem depth_intercalate_cons (arg next : String) (rest : List String) :
    depth (String.intercalate ", " (arg :: next :: rest)).toList =
      depth arg.toList + depth (String.intercalate ", " (next :: rest)).toList := by
  have flat : depth ", ".toList = 0 := rfl
  rw [String.intercalate_cons_cons, String.toList_append, String.toList_append, depth_append,
    depth_append, flat, Int.add_zero]

theorem above_intercalate_cons (arg next : String) (rest : List String) :
    Above start (String.intercalate ", " (arg :: next :: rest)).toList ↔
      Above start arg.toList ∧
        Above (start + depth arg.toList) (String.intercalate ", " (next :: rest)).toList := by
  have flat : depth ", ".toList = 0 := rfl
  have level : ∀ {cs : List Char}, Above start cs → Above (start + depth cs) ", ".toList :=
    fun {cs} above => above_of_no_brackets (above cs (List.prefix_refl cs)) (by decide) (by decide)
  rw [String.intercalate_cons_cons, String.toList_append, String.toList_append, above_append,
    above_append, depth_append, flat, Int.add_zero]
  exact and_congr_left fun _ => and_iff_left_of_imp level

/-- The comma behind an argument counts if the argument leaves no bracket open;
otherwise it is inside of what the argument has opened. -/
theorem topCommas_intercalate_cons {arg : String} (inward : topCommas start arg.toList = 0)
    (next : String) (rest : List String) :
    topCommas start (String.intercalate ", " (arg :: next :: rest)).toList =
      (if start + depth arg.toList = 0 then 1 else 0) +
        topCommas (start + depth arg.toList) (String.intercalate ", " (next :: rest)).toList := by
  have flat : depth ", ".toList = 0 := rfl
  have separator : ∀ level : Int, topCommas level ", ".toList = if level = 0 then 1 else 0 := by
    intro level
    simp [topCommas]
  rw [String.intercalate_cons_cons, String.toList_append, String.toList_append, topCommas_append,
    topCommas_append, inward, separator, depth_append, flat, Int.add_zero, Nat.zero_add]

/-- Joined arguments show fewer commas than there are arguments. By induction on the
arguments, from any depth. -/
theorem topCommas_lt_length (nonempty : args ≠ [])
    (inward : ∀ arg ∈ args, ∀ level, 0 ≤ level → topCommas level arg.toList = 0)
    (above : Above start (String.intercalate ", " args).toList) :
    topCommas start (String.intercalate ", " args).toList < args.length := by
  induction args generalizing start with
  | nil => exact absurd rfl nonempty
  | cons arg rest ih =>
    have nonneg : 0 ≤ start := by simpa using above [] List.nil_prefix
    rw [List.forall_mem_cons] at inward
    cases rest with
    | nil => simp [inward.1 start nonneg]
    | cons next rest =>
      have shorter := ih (by simp) inward.2 ((above_intercalate_cons arg next rest).mp above).2
      rw [topCommas_intercalate_cons (inward.1 start nonneg)]
      simp only [List.length_cons] at shorter ⊢
      split <;> omega

/-- Arguments that hold no comma outside of brackets are as many as the joined text
shows, and that text is balanced, exactly when each of them is. An argument that
opens a bracket for another one to close would hide the comma between them. -/
theorem balanced_intercalate_iff (nonempty : args ≠ [])
    (inward : ∀ arg ∈ args, ∀ level, 0 ≤ level → topCommas level arg.toList = 0) :
    Balanced (String.intercalate ", " args).toList ∧
        topCommas 0 (String.intercalate ", " args).toList + 1 = args.length ↔
      ∀ arg ∈ args, Balanced arg.toList := by
  induction args with
  | nil => exact absurd rfl nonempty
  | cons arg rest ih =>
    rw [List.forall_mem_cons] at inward
    cases rest with
    | nil => simp [inward.1 0 le_rfl]
    | cons next rest =>
      have rest_iff := ih (by simp) inward.2
      rw [List.forall_mem_cons, ← rest_iff, topCommas_intercalate_cons (inward.1 0 le_rfl)]
      unfold Balanced
      rw [above_intercalate_cons, depth_intercalate_cons, Int.zero_add]
      constructor
      · rintro ⟨⟨⟨above, behind⟩, level⟩, count⟩
        -- The commas behind are too few to make up for one that does not count.
        have few := topCommas_lt_length (by simp) inward.2 behind
        have closed : depth arg.toList = 0 := by
          by_contra hidden
          rw [if_neg hidden] at count
          simp only [List.length_cons] at few count
          omega
        rw [closed, Int.zero_add] at level
        rw [closed, if_pos rfl] at count
        rw [closed] at behind
        simp only [List.length_cons] at count ⊢
        exact ⟨⟨above, closed⟩, ⟨behind, level⟩, by omega⟩
      · rintro ⟨⟨above, closed⟩, ⟨behind, level⟩, count⟩
        rw [closed, if_pos rfl]
        simp only [List.length_cons] at count ⊢
        exact ⟨⟨⟨above, behind⟩, by omega⟩, by omega⟩

/-- Arguments that hold no comma outside of brackets are found again in the
joined text exactly when each of them is self-contained. -/
theorem selfContained_intercalate_iff (nonempty : args ≠ [])
    (inward : ∀ arg ∈ args, ∀ level, 0 ≤ level → topCommas level arg.toList = 0) :
    SelfContained (String.intercalate ", " args).toList ∧
        (topPieces 0 (String.intercalate ", " args).toList).length = args.length ↔
      ∀ arg ∈ args, SelfContained arg.toList := by
  have pairs : ∀ b : Char, b ∉ ", ".toList →
      (occurs ['/', b] (String.intercalate ", " args).toList = false ↔
        ∀ arg ∈ args, occurs ['/', b] arg.toList = false) := by
    intro b hb
    simp only [occurs_pair_eq_false_iff]
    exact apart_intercalate_iff (by decide) (by decide) hb args
  have nested := balanced_intercalate_iff nonempty inward
  have line := pairs '/' (by decide)
  have block := pairs '*' (by decide)
  rw [length_topPieces]
  constructor
  · rintro ⟨⟨noLine, noBlock, balanced⟩, count⟩ arg harg
    exact ⟨line.mp noLine arg harg, block.mp noBlock arg harg,
      nested.mp ⟨balanced, count⟩ arg harg⟩
  · intro each
    obtain ⟨balanced, count⟩ := nested.mpr fun arg harg => (each arg harg).balanced
    exact ⟨⟨line.mpr fun arg harg => (each arg harg).no_line_comment,
      block.mpr fun arg harg => (each arg harg).no_block_comment, balanced⟩, count⟩

end Arguments

end ShaderGraph.Text
