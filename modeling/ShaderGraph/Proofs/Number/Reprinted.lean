import Mathlib
import ShaderGraph.Graph.Value
import ShaderGraph.Json.Reader
import ShaderGraph.Proofs.Number.Nearest
import ShaderGraph.Proofs.Schema.Rereading

/-!
# Printed numbers are read and printed again

The text of a printed number is itself a number, and it is printed as the same text
(`Program.number_reprinted`). So is the text of a number whose sign is all that is left of it.

No look at how numbers lie next to one another is needed for this. What is read is at least as near
to the text as the number that was printed, since no number is nearer, and the printed number is half
a hundredth away at most. Only a tie is left, and there both would be half a hundredth away on different
sides; but then they would be one hundredth apart, which no two binary64 values are
(`Magnitude.hundredth_apart`).
-/

namespace ShaderGraph

/-! ## Hundredths -/

/-- No two magnitudes are one hundredth apart: both are fractions over powers of two, and a
hundredth is none. -/
theorem Magnitude.hundredth_apart (x y : Magnitude) : y.value * 100 ≠ x.value * 100 + 1 := by
  intro apart
  have unit : (0 : ℚ) < Magnitude.unitsPerOne := Nat.cast_pos.mpr (twoTo_pos 1074)
  have units : y.units * 100 = x.units * 100 + Magnitude.unitsPerOne := by
    rw [Magnitude.value, Magnitude.value, div_mul_eq_mul_div, div_mul_eq_mul_div,
      div_eq_iff unit.ne', add_mul, div_mul_cancel₀ _ unit.ne', one_mul] at apart
    exact_mod_cast apart
  have divides : 5 ∣ Magnitude.unitsPerOne := by omega
  rw [Magnitude.unitsPerOne, twoTo_eq_pow] at divides
  exact absurd (Nat.Prime.dvd_of_dvd_pow (by norm_num) divides) (by norm_num)

/-- A magnitude that is as near to the hundredths of another as that one itself has the same
hundredths. It could only fall on a tie with the next hundredth, and then the two would be a
hundredth apart. -/
theorem Magnitude.steps_eq_of_closer {x y : Magnitude}
    (closer : |y.value - x.steps 2 / 10 ^ 2| ≤ |x.value - x.steps 2 / 10 ^ 2|) :
    y.steps 2 = x.steps 2 := by
  obtain ⟨close, tie⟩ := x.nearestAway_steps_iff.mpr rfl
  have scaled : ∀ z : Magnitude,
      |(x.steps 2 : ℚ) - z.value * 100| = |z.value - x.steps 2 / 10 ^ 2| * 100 := by
    intro z
    rw [abs_sub_comm, ← abs_of_pos (show (0 : ℚ) < 100 by norm_num), ← abs_mul]
    norm_num [sub_mul]
  have closer' : |(x.steps 2 : ℚ) - y.value * 100| ≤ |(x.steps 2 : ℚ) - x.value * 100| := by
    rw [scaled, scaled]
    linarith
  symm
  rw [← y.nearestAway_steps_iff]
  refine ⟨closer'.trans close, fun half => ?_⟩
  by_contra above
  -- Both are half a hundredth away, the one below and the other above.
  have half' : |(x.steps 2 : ℚ) - x.value * 100| = 1 / 2 := le_antisymm close (half ▸ closer')
  have below := tie half'
  rw [abs_of_nonneg (by linarith)] at half'
  rw [abs_of_neg (by linarith)] at half
  exact Magnitude.hundredth_apart x y (by linarith)

/-! ## Digits -/

section Digits

variable {whole fraction : List Char}

/-- The digits of a count of `10 ^ -places`: those in front of the point, without superfluous
zeros, and those behind it. -/
structure SpellsPlaces (places n : ℕ) (whole fraction : List Char) : Prop where
  whole : Spells whole (n / 10 ^ places)
  digits : ∀ c ∈ fraction, c.isDigit = true
  length : fraction.length = places
  value : digitsValue fraction = n % 10 ^ places

variable {places n : ℕ}

/-- Without the point, the digits spell the count. This is how the text is read: all digits as one
number, and the places as an exponent. -/
theorem SpellsPlaces.digitsValue_append (spelled : SpellsPlaces places n whole fraction) :
    digitsValue (whole ++ fraction) = n := by
  rw [digitsValue_eq_ofDigitChars, Nat.ofDigitChars_append, Nat.ofDigitChars_eq_ofDigitChars_zero,
    ← digitsValue_eq_ofDigitChars, ← digitsValue_eq_ofDigitChars, spelled.length, spelled.value,
    spelled.whole.value, Nat.div_add_mod]

/-- The text of a count with places spells it: the digits of the whole part, a point and the
places. -/
theorem exists_spellsPlaces (n : ℕ) (some_places : 0 < places) :
    ∃ fraction, SpellsPlaces places n (Nat.toDigits 10 (n / 10 ^ places)) fraction ∧
      (fixedText places n).toList = Nat.toDigits 10 (n / 10 ^ places) ++ '.' :: fraction := by
  obtain ⟨fraction, spelled, length, digits, value⟩ := exists_fractionDigits places n some_places
  refine ⟨fraction, ⟨spells_toDigits _, digits, length, value⟩, ?_⟩
  rw [fixedText, spelled, tenTo_eq_pow, Nat.toString_eq_ofList_toDigits, String.toList_append,
    String.toList_append, String.toList_ofList, String.toList_ofList, List.append_assoc]
  simp

/-- The digits in front of the point are taken, and the point is left. -/
theorem spanDigits_append_point (digits : ∀ c ∈ whole, c.isDigit = true) :
    spanDigits (whole ++ '.' :: fraction) = (whole, '.' :: fraction) := by
  rw [spanDigits, List.takeWhile_append_of_pos digits, List.dropWhile_append_of_pos digits,
    List.takeWhile_cons_of_neg (by decide), List.dropWhile_cons_of_neg (by decide), List.append_nil]

theorem spanDigits_of_digits (digits : ∀ c ∈ fraction, c.isDigit = true) :
    spanDigits fraction = (fraction, []) := by
  rw [spanDigits, List.takeWhile_eq_self_iff.mpr digits, List.dropWhile_eq_nil_iff.mpr digits]

theorem ne_of_isDigit {c other : Char} (digit : c.isDigit = true)
    (no_digit : other.isDigit = false) : c ≠ other := by
  rintro rfl
  rw [digit] at no_digit
  cases no_digit

/-! ## Number fields -/

/-- A minus sign, or nothing. -/
def signText (negative : Bool) : List Char := if negative then ['-'] else []

/-- The sign of a number whose digits follow: a minus sign is taken off, and a digit is left where
it is. -/
theorem spanSign_signText (negative : Bool) {first : Char} {rest : List Char}
    (digit : first.isDigit = true) :
    spanSign (signText negative ++ first :: rest) = (negative, first :: rest) := by
  cases negative with
  | true => rfl
  | false =>
    show spanSign (first :: rest) = _
    unfold spanSign
    split
    next same => exact absurd (List.cons.inj same).1 (ne_of_isDigit digit (by decide))
    next same => exact absurd (List.cons.inj same).1 (ne_of_isDigit digit (by decide))
    next => rfl

/-- The digits of a printed number are read as the decimal that they spell. -/
theorem readUnsigned?_of_spelled (spelled : SpellsPlaces places n whole fraction)
    (negative : Bool) :
    Decimal.readUnsigned? negative (whole ++ '.' :: fraction) = some ⟨negative, n, -places⟩ := by
  unfold Decimal.readUnsigned?
  rw [spanDigits_append_point spelled.whole.digits]
  simp only [spanDigits_of_digits spelled.digits, List.isEmpty_eq_false_iff.mpr spelled.whole.nonempty,
    Bool.false_and, Bool.false_eq_true, if_false, Decimal.readExponent?, Option.map_some,
    spelled.digitsValue_append, spelled.length, zero_sub]

/-- A printed number is read as the value of its decimal, with the sign in front. -/
theorem readNumber?_of_spelled (spelled : SpellsPlaces places n whole fraction) (negative : Bool) :
    Decimal.readNumber? (signText negative ++ (whole ++ '.' :: fraction)) =
      some (Decimal.value ⟨negative, n, -places⟩) := by
  obtain ⟨first, rest, cut⟩ := List.exists_cons_of_ne_nil spelled.whole.nonempty
  have digit : first.isDigit = true := spelled.whole.digits first (by simp [cut])
  have sign : spanSign (signText negative ++ (whole ++ '.' :: fraction)) =
      (negative, whole ++ '.' :: fraction) := by
    rw [cut, List.cons_append]
    exact spanSign_signText negative digit
  -- The names of the infinities and of NaN hold no point.
  have point : '.' ∈ (String.ofList ((whole ++ '.' :: fraction).map Char.toLower)).toList := by
    rw [String.toList_ofList]
    exact List.mem_map.mpr ⟨'.', by simp, by decide⟩
  have named : ∀ word : String, '.' ∉ word.toList →
      String.ofList ((whole ++ '.' :: fraction).map Char.toLower) ≠ word := by
    rintro _ without rfl
    exact without point
  unfold Decimal.readNumber?
  rw [sign]
  dsimp only
  rw [if_neg (not_or.mpr ⟨named "inf" (by decide), named "infinity" (by decide)⟩),
    if_neg (named "nan" (by decide)), readUnsigned?_of_spelled spelled, Option.map_some]

/-- Nothing is trimmed from a text without blanks, such as a printed number. -/
theorem trimWith_eq_self {p : Char → Bool} {cs : List Char} (none : ∀ c ∈ cs, p c = false) :
    Text.trimWith p cs = cs := by
  have kept : ∀ {cs : List Char}, (∀ c ∈ cs, p c = false) → cs.dropWhile p = cs := by
    intro cs none
    cases cs with
    | nil => rfl
    | cons c cs => exact List.dropWhile_cons_of_neg (by simp [none c])
  rw [Text.trimWith, kept none, kept (by simpa using none), List.reverse_reverse]

theorem isSpace_eq_false_of_isDigit {c : Char} (digit : c.isDigit = true) :
    Text.isSpace c = false := by
  have range : 48 ≤ c.toNat ∧ c.toNat ≤ 57 := Char.isDigit_iff_toNat.mp digit
  simp only [Text.isSpace, Bool.or_eq_false_iff, Bool.and_eq_false_iff, decide_eq_false_iff_not,
    beq_eq_false_iff_ne, ne_eq]
  omega

/-- A number field that holds the printed text reads the value of its decimal. -/
theorem readField?_of_spelled (spelled : SpellsPlaces places n whole fraction) (negative : Bool)
    {text : String} (written : text.toList = signText negative ++ (whole ++ '.' :: fraction)) :
    Decimal.readField? text = some (Decimal.value ⟨negative, n, -places⟩) := by
  have blank : ∀ c ∈ text.toList, Text.isSpace c = false := by
    rw [written, List.forall_mem_append, List.forall_mem_append, List.forall_mem_cons]
    refine ⟨?_, fun c hc => isSpace_eq_false_of_isDigit (spelled.whole.digits c hc), by decide,
      fun c hc => isSpace_eq_false_of_isDigit (spelled.digits c hc)⟩
    cases negative with
    | true => exact List.forall_mem_singleton.mpr (by decide)
    | false => exact List.forall_mem_nil _
  unfold Decimal.readField?
  dsimp only
  rw [trimWith_eq_self blank, written, readNumber?_of_spelled spelled]

/-! ## Numbers in a document -/

namespace Json

variable {d : Dialect}

theorem after?_eq_none {word : String} {c first : Char} {rest : List Char}
    (starts : word.toList.head? = some c) (differs : first ≠ c) :
    after? word (first :: rest) = none := by
  obtain ⟨cs, spelled⟩ := List.head?_eq_some_iff.mp starts
  rw [after?, spelled, List.isPrefixOf, beq_false_of_ne (Ne.symm differs)]
  rfl

/-- A document's reader takes the digits of a printed number for a number with a point. Its whole
part must not have more digits than the reader allows. -/
theorem readUnsigned_of_spelled (spelled : SpellsPlaces places n whole fraction)
    (some_places : 0 < places) (short : whole.length ≤ Whole.maxDigits) (negative : Bool) :
    readUnsigned d negative (whole ++ '.' :: fraction) =
      .ok (.float (Decimal.value ⟨negative, n, -places⟩), []) := by
  have trim : (whole.head? = some '0' && decide (1 < whole.length)) = false := by
    by_cases zero : whole.head? = some '0'
    · simp [spelled.whole.trim zero]
    · simp [zero]
  have placed : fraction ≠ [] := by
    rintro rfl
    exact absurd spelled.length (by simpa using some_places.ne)
  have scale : readScale? ('.' :: fraction) = some (some (fraction, 0), []) := by
    simp [readScale?, readFraction?, readPower?, spanDigits_of_digits spelled.digits, placed]
  unfold readUnsigned
  rw [spanDigits_append_point spelled.whole.digits]
  simp only [List.isEmpty_eq_false_iff.mpr spelled.whole.nonempty, Bool.false_or, trim, scale,
    decide_eq_false (Nat.not_lt.mpr short), Bool.false_and, Bool.false_eq_true, if_false,
    spelled.digitsValue_append, spelled.length, zero_sub]

/-- The same with the sign in front, which is read before the digits. -/
theorem readNumber_of_spelled (spelled : SpellsPlaces places n whole fraction)
    (some_places : 0 < places) (short : whole.length ≤ Whole.maxDigits) (negative : Bool) :
    readNumber d (signText negative ++ (whole ++ '.' :: fraction)) =
      .ok (.float (Decimal.value ⟨negative, n, -places⟩), []) := by
  have unsigned := readUnsigned_of_spelled (d := d) spelled some_places short negative
  obtain ⟨first, rest, cut⟩ := List.exists_cons_of_ne_nil spelled.whole.nonempty
  have digit : first.isDigit = true := spelled.whole.digits first (by simp [cut])
  cases negative with
  | true =>
    have finite : after? "Infinity" (whole ++ '.' :: fraction) = none := by
      rw [cut]
      exact after?_eq_none (c := 'I') (by decide) (ne_of_isDigit digit (by decide))
    show readNumber d ('-' :: (whole ++ '.' :: fraction)) = _
    unfold readNumber
    split
    next same =>
      rw [← (List.cons.inj same).2, finite]
      exact unsigned
    next other => exact absurd rfl (other _)
  | false =>
    show readNumber d (whole ++ '.' :: fraction) = _
    unfold readNumber
    split
    next same =>
      rw [cut] at same
      exact absurd (List.cons.inj same).1 (ne_of_isDigit digit (by decide))
    next => exact unsigned

/-- The characters of atoms, which the reader tells by their code points: letters, digits, signs
and the point. -/
theorem isAtomPoint_toNat (c : Char) :
    isAtomPoint c.toNat = (c.isAlphanum || c == '+' || c == '-' || c == '.') := by
  rw [isAtomPoint, Char.ofNat_toNat]

/-- An atom that starts like a number is read as one: it is none of the words, all of which start
with a letter. -/
theorem readAtom_of_head {first : Char} (starts : first = '-' ∨ first.isDigit = true)
    (rest : List Char) : readAtom d (first :: rest) = readNumber d (first :: rest) := by
  have differs : ∀ other : Char, other ≠ '-' → other.isDigit = false → first ≠ other := by
    intro other no_sign no_digit
    rcases starts with rfl | digit
    · exact no_sign.symm
    · exact ne_of_isDigit digit no_digit
  unfold readAtom
  dsimp only
  rw [List.findSome?_eq_none_iff.mpr]
  intro word hword
  rw [Option.map_eq_none_iff]
  simp only [List.mem_cons, List.not_mem_nil, or_false] at hword
  rcases hword with rfl | rfl | rfl | rfl | rfl
  · exact after?_eq_none (c := 'n') (by decide) (differs _ (by decide) (by decide))
  · exact after?_eq_none (c := 't') (by decide) (differs _ (by decide) (by decide))
  · exact after?_eq_none (c := 'f') (by decide) (differs _ (by decide) (by decide))
  · exact after?_eq_none (c := 'N') (by decide) (differs _ (by decide) (by decide))
  · exact after?_eq_none (c := 'I') (by decide) (differs _ (by decide) (by decide))

/-- A text that is an atom from end to end is read as the atom, whichever list, object or text
it might have been: its first character opens none of them. -/
theorem readValue_of_atom {first : Char} {rest : List Char} {value : Json}
    (atomic : ∀ c ∈ first :: rest, isAtomPoint c.toNat = true)
    (read : readAtom d (first :: rest) = .ok (value, [])) (fuel room : ℕ) :
    readValue d (fuel + 1) room ((first :: rest).map Char.toNat) = .ok (value, []) := by
  have within : ∀ n ∈ (first :: rest).map Char.toNat, isAtomPoint n = true := by
    simpa only [List.forall_mem_map] using atomic
  have head : isAtomPoint first.toNat = true := atomic first List.mem_cons_self
  have differs : ∀ n : ℕ, isAtomPoint n = false → first.toNat ≠ n := by
    rintro n outside rfl
    exact Bool.false_ne_true (outside.symm.trans head)
  have gap : skipGap ((first :: rest).map Char.toNat) = (first :: rest).map Char.toNat := by
    apply List.dropWhile_cons_of_neg
    simp [isGap, differs 32 (by decide), differs 9 (by decide), differs 10 (by decide),
      differs 13 (by decide)]
  have spelled : ((first :: rest).map Char.toNat).map Char.ofNat = first :: rest := by
    simp [Function.comp_def]
  rw [readValue, gap]
  split
  next same => exact absurd (List.cons.inj same).1 (differs Mark.openList (by decide))
  next same => exact absurd (List.cons.inj same).1 (differs Mark.openObject (by decide))
  next same => exact absurd (List.cons.inj same).1 (differs Mark.quote (by decide))
  next =>
    dsimp only
    rw [List.takeWhile_eq_self_iff.mpr within, List.dropWhile_eq_nil_iff.mpr within, spelled, read]
    rfl

/-- A printed number is read as a number of a document, in every dialect. It is an atom from end
to end, so nothing is left behind it. -/
theorem read_of_spelled (spelled : SpellsPlaces places n whole fraction)
    (some_places : 0 < places) (short : whole.length ≤ Whole.maxDigits) (negative : Bool)
    {text : String} (written : text.toList = signText negative ++ (whole ++ '.' :: fraction)) :
    Json.read d text = .ok (.float (Decimal.value ⟨negative, n, -places⟩)) := by
  have number := readNumber_of_spelled (d := d) spelled some_places short negative
  rw [← written] at number
  have digit_atomic : ∀ c : Char, c.isDigit = true → isAtomPoint c.toNat = true := by
    intro c digit
    rw [isAtomPoint_toNat, Char.isAlphanum, digit]
    simp
  have atomic : ∀ c ∈ text.toList, isAtomPoint c.toNat = true := by
    intro c hc
    rw [written] at hc
    simp only [List.mem_append, List.mem_cons] at hc
    rcases hc with sign | whole_digit | rfl | place
    · cases negative with
      | true =>
        rw [List.mem_singleton.mp sign]
        decide
      | false => cases sign
    · exact digit_atomic c (spelled.whole.digits c whole_digit)
    · decide
    · exact digit_atomic c (spelled.digits c place)
  obtain ⟨first, rest, cut, starts⟩ :
      ∃ first rest, text.toList = first :: rest ∧ (first = '-' ∨ first.isDigit = true) := by
    obtain ⟨first, rest, cut⟩ := List.exists_cons_of_ne_nil spelled.whole.nonempty
    have digit : first.isDigit = true := spelled.whole.digits first (by simp [cut])
    rw [written, cut]
    cases negative with
    | true => exact ⟨'-', _, rfl, .inl rfl⟩
    | false => exact ⟨first, _, rfl, .inr digit⟩
  rw [cut] at atomic number
  have atom := (readAtom_of_head starts rest).trans number
  rw [Json.read, readPoints, Text.codePoints, cut, readValue_of_atom atomic atom]
  rfl

end Json

end Digits

/-! ## Printed numbers -/

/-- A number far from zero, where neighbours are more than a hundredth apart. -/
def Sample.sparse : Binary64 := Decimal.value ⟨true, 70368744177664015625, -6⟩

/-- A number is read from the document of a literal that holds it, whether as a number or as a
text. -/
theorem PortValue.read_literal {origin : Origin} {value : Json} {x : Binary64}
    (number : Read.finiteNumber origin value = .accepted x) :
    PortValue.read origin (.object [(tagField, .text "literal"), ("value", value)]) =
      .accepted (.literal x) :=
  Checked.under_eq_accepted_iff.mpr (Read.model_eq_accepted_iff.mpr
    ⟨_, rfl, Checked.seq_accepted (Checked.map_accepted _ rfl)
      (Record.requiredAs_of_find? rfl number)⟩)

namespace Program

variable {negative : Bool} {m : Magnitude} {text : String}

/-- A finite number is printed when its hundredths have at most 28 digits, and the text is its
sign with their text. -/
theorem number_finite_eq_ok_iff : number (.finite negative m) = .ok text ↔
    m.steps 2 < 10 ^ 28 ∧ text.toList = signText negative ++ (fixedText 2 (m.steps 2)).toList := by
  have sign : (if negative then "-" else "").toList = signText negative := by
    cases negative <;> rfl
  rw [number, Binary64.fixed?, tenTo_eq_pow, ← sign, ← String.toList_append, String.toList_inj]
  by_cases narrow : m.steps 2 < 10 ^ 28
  · rw [if_pos narrow, and_iff_right narrow, Except.ok.injEq, eq_comm]
  · rw [if_neg narrow]
    simp only [reduceCtorEq, narrow, false_and]

/-- **A printed number can be read, and what is read is printed the same.** The text of a finite
number is read as a finite number of the same sign, by a number field that holds it as text and as a
number of a document alike, and that number has the same text. -/
theorem number_reprinted (x : Binary64) (finite : x.isFinite = true) (text : String)
    (printed : number x = .ok text) :
    ∃ y : Binary64, y.isFinite = true ∧ number y = .ok text ∧
      y.bits.testBit 63 = x.bits.testBit 63 ∧
      (∀ origin, PortValue.read origin
        (.object [(PortValue.tagField, .text "literal"), ("value", .text text)]) =
          .accepted (.literal y)) ∧
      (∀ dialect, Json.read dialect text = .ok (.float y)) ∧
      ∀ origin, PortValue.read origin
        (.object [(PortValue.tagField, .text "literal"), ("value", .float y)]) =
          .accepted (.literal y) := by
  cases x with
  | nan => cases finite
  | infinite negative => cases finite
  | finite negative m =>
    obtain ⟨narrow, written⟩ := number_finite_eq_ok_iff.mp printed
    obtain ⟨fraction, spelled, digits⟩ := exists_spellsPlaces (m.steps 2) (show 0 < 2 by omega)
    rw [digits] at written
    have wide : m.steps 2 < 2 ^ 94 := narrow.trans_le (by norm_num)
    obtain ⟨nearest, value, closer⟩ :=
      Decimal.exists_value_nearest negative wide (by omega) (show 0 < 2 by omega) (by omega)
    have short : (Nat.toDigits 10 (m.steps 2 / 10 ^ 2)).length ≤ Whole.maxDigits := by
      have : (Nat.toDigits 10 (m.steps 2 / 10 ^ 2)).length ≤ 26 :=
        (Nat.length_toDigits_le_iff (by omega) (by omega)).mpr (by omega)
      exact this.trans (by decide)
    have field := readField?_of_spelled spelled negative written
    have document := fun dialect =>
      Json.read_of_spelled (d := dialect) spelled (by omega) short negative written
    have same : nearest.steps 2 = m.steps 2 := Magnitude.steps_eq_of_closer (closer m)
    rw [value] at field document
    refine ⟨.finite negative nearest, rfl, ?_, ?_, fun origin => ?_, document, fun origin => ?_⟩
    · rw [number_finite_eq_ok_iff, same, digits]
      exact ⟨narrow, written⟩
    · rw [testBit_bits, testBit_bits]
    · apply PortValue.read_literal
      rw [Read.finiteNumber, Read.number, field]
      rfl
    · exact PortValue.read_literal rfl

/-- Neighbours of this number are more than a hundredth apart, and still its text of two places is
read as a number with that text. -/
theorem number_reprinted_sparse :
    Sample.sparse.isFinite = true ∧ number Sample.sparse = .ok "-70368744177664.02" ∧
      ∃ y : Binary64, y.isFinite = true ∧ number y = .ok "-70368744177664.02" ∧
        y.bits.testBit 63 = true ∧ Json.read .strict "-70368744177664.02" = .ok (.float y) := by
  have finite : Sample.sparse.isFinite = true := by decide +kernel
  have printed : number Sample.sparse = .ok "-70368744177664.02" := by decide +kernel
  have sign : Sample.sparse.bits.testBit 63 = true := by decide +kernel
  obtain ⟨y, again, same, signs, _, document, _⟩ := number_reprinted Sample.sparse finite _ printed
  exact ⟨finite, printed, y, again, same, signs.trans sign, document .strict⟩

example : Decimal.readField? "-0.00" = some (.finite true .zero) := by decide +kernel

end Program

end ShaderGraph
