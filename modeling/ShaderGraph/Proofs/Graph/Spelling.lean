import Mathlib
import ShaderGraph.Proofs.Graph.Block

/-!
# Values spelled as texts

A text given for a port is a connection or an expression, and which of them is a matter of its
spelling alone. `SpellsConnection` and `SpellsExpression` say what the spellings are, without a word
on how a text is cut. A document may spell a text with halves of pairs that stand alone, so a
spelling is a list of code points (`Text.Spelled`), and the names in it are texts without halves.

A text means what it spells and nothing else (`PortValue.means_toJson_iff`). A block is read with
the value that the text means, or refused if it means none (`Block.reads_spelled`).
-/

namespace ShaderGraph

/-! ## Code points -/

namespace Text

/-- A text as a document can give it: its code points, of which some may be halves. -/
structure Spelled where
  points : List Nat
  bounded : ∀ n ∈ points, n < 0x110000

theorem toNat_lt (c : Char) : c.toNat < 0x110000 := by
  have valid : c.toNat.isValidChar := c.valid
  unfold Nat.isValidChar at valid
  omega

/-- No character is half of one, so a text has no halves among its code points. -/
theorem isHalf_toNat (c : Char) : isHalf c.toNat = false := by
  have valid : c.toNat.isValidChar := c.valid
  unfold Nat.isValidChar at valid
  simp [isHalf, isHighHalf, isLowHalf]
  omega

/-- A code point that is no half is the code point of a character. The halves are the only gap in
the range. -/
theorem toNat_ofNat_of_whole {n : Nat} (bounded : n < 0x110000) (whole : isHalf n = false) :
    (Char.ofNat n).toNat = n := by
  have valid : n.isValidChar := by
    simp [isHalf, isHighHalf, isLowHalf] at whole
    unfold Nat.isValidChar
    omega
  rw [Char.toNat_ofNat, if_pos valid]

/-- Code points without a half are kept when they are made into a text. -/
theorem codePoints_ofPoints {points : List Nat} (bounded : ∀ n ∈ points, n < 0x110000)
    (whole : isWellFormed points = true) : codePoints (ofPoints points) = points := by
  have each : ∀ n ∈ points, (Char.toNat ∘ Char.ofNat) n = n := by
    intro n mem
    apply toNat_ofNat_of_whole (bounded n mem)
    simpa using List.all_eq_true.mp whole n mem
  rw [codePoints, ofPoints, String.toList_ofList, List.map_map, List.map_congr_left each, List.map_id']

/-- A character is in a text exactly when its code point is among those of the text, for no two
characters share one. -/
theorem mem_codePoints_iff {c : Char} {text : String} :
    c.toNat ∈ codePoints text ↔ c ∈ text.toList := by
  rw [codePoints, List.mem_map]
  constructor
  · intro found
    obtain ⟨other, mem, same⟩ := found
    rwa [← Char.toNat_inj.mp same]
  · intro mem
    exact ⟨c, mem, rfl⟩

/-! ## First marks -/

section Mark

variable {α : Type} [DecidableEq α] {mark : α} {front rest : List α}

/-- What follows is nothing, or begins with the mark. -/
def StopsAt (mark : α) (rest : List α) : Prop := rest = [] ∨ ∃ more, rest = mark :: more

theorem decide_ne_of_notMem (free : mark ∉ front) : ∀ a ∈ front, decide (a ≠ mark) = true := by
  intro a mem
  exact decide_eq_true (ne_of_mem_of_not_mem mem free)

/-- What stands in front of the first mark is taken, and no more; the mark may be missing if nothing
else follows. -/
theorem takeWhile_ne_append (free : mark ∉ front) (stops : StopsAt mark rest) :
    (front ++ rest).takeWhile (· ≠ mark) = front := by
  rw [List.takeWhile_append_of_pos (decide_ne_of_notMem free)]
  rcases stops with rfl | ⟨more, rfl⟩
  · exact List.append_nil front
  · rw [List.takeWhile_cons_of_neg (by simp), List.append_nil]

/-- What is left begins with the first mark, or is nothing at all. -/
theorem dropWhile_ne_append (free : mark ∉ front) (stops : StopsAt mark rest) :
    (front ++ rest).dropWhile (· ≠ mark) = rest := by
  rw [List.dropWhile_append_of_pos (decide_ne_of_notMem free)]
  rcases stops with rfl | ⟨more, rfl⟩
  · rfl
  · rw [List.dropWhile_cons_of_neg (by simp)]

theorem dropWhile_ne_of_notMem (free : mark ∉ front) : front.dropWhile (· ≠ mark) = [] := by
  simpa using dropWhile_ne_append free (.inl rfl)

theorem notMem_takeWhile_ne (xs : List α) : mark ∉ xs.takeWhile (· ≠ mark) := by
  intro mem
  simpa using List.mem_takeWhile_imp mem

theorem stopsAt_dropWhile_ne (xs : List α) : StopsAt mark (xs.dropWhile (· ≠ mark)) := by
  induction xs with
  | nil => exact .inl rfl
  | cons x rest ih =>
    by_cases same : x = mark
    · rw [List.dropWhile_cons_of_neg (by simpa using same), same]
      exact .inr ⟨rest, rfl⟩
    · rw [List.dropWhile_cons_of_pos (by simpa using same)]
      exact ih

end Mark

/-- A text is cut at the first mark into what stands in front of it and what stands behind. -/
theorem cut?_append_cons {mark : Char} {front behind : List Char} (free : mark ∉ front) :
    cut? mark (front ++ mark :: behind) = some (front, behind) := by
  have stops : StopsAt mark (mark :: behind) := .inr ⟨behind, rfl⟩
  simp only [cut?, dropWhile_ne_append free stops, takeWhile_ne_append free stops]

theorem cut?_of_notMem {mark : Char} {cs : List Char} (free : mark ∉ cs) : cut? mark cs = none := by
  simp only [cut?, dropWhile_ne_of_notMem free]

end Text

namespace Json

open Text

/-- The code points of characters make the text of these characters, since none of them is a
half. -/
theorem ofPoints_map_toNat (cs : List Char) : ofPoints (cs.map Char.toNat) = .text (String.ofList cs) := by
  have whole : isWellFormed (cs.map Char.toNat) = true := by simp [isWellFormed, isHalf_toNat]
  rw [ofPoints, if_pos whole, Text.ofPoints, List.map_map]
  simp [Function.comp_def]

/-- Code points make a text exactly when they are those of the text; with a half among them they
make no text at all. -/
theorem ofPoints_eq_text_iff {points : List Nat} (bounded : ∀ n ∈ points, n < 0x110000) {text : String} :
    ofPoints points = .text text ↔ points = codePoints text := by
  constructor
  · intro same
    unfold ofPoints at same
    split at same
    next whole =>
      cases same
      exact (codePoints_ofPoints bounded whole).symm
    next => cases same
  · rintro rfl
    rw [codePoints, ofPoints_map_toNat, String.ofList_toList]

/-- Code points are accepted as a name exactly when they are those of a text that is not empty. -/
theorem nonEmptyText_ofPoints_iff {points : List Nat} (bounded : ∀ n ∈ points, n < 0x110000)
    {text : String} :
    Read.nonEmptyText (ofPoints points) = .accepted text ↔ points = codePoints text ∧ text ≠ "" := by
  rw [Read.nonEmptyText_eq_accepted_iff, ofPoints_eq_text_iff bounded]

end Json

namespace Text.Spelled

/-- The document of a spelled text. -/
def toJson (s : Spelled) : Json := .ofPoints s.points

/-- A text without halves, spelled. -/
def ofText (text : String) : Spelled where
  points := codePoints text
  bounded := by
    intro n mem
    obtain ⟨c, _, rfl⟩ := List.mem_map.mp mem
    exact toNat_lt c

theorem toJson_ofText (text : String) : (ofText text).toJson = .text text :=
  (Json.ofPoints_eq_text_iff (ofText text).bounded).mpr rfl

end Text.Spelled

/-! ## Spellings -/

namespace PortValue

open Text

/-- The code point of the mark. -/
def markPoint : Nat := connectionMark.toNat

/-- The code points are `source:port`. A second mark may follow, and then anything. -/
structure SpellsConnection (points : List Nat) (source port : String) : Prop where
  source_ne_empty : source ≠ ""
  port_ne_empty : port ≠ ""
  source_free : connectionMark ∉ source.toList
  port_free : connectionMark ∉ port.toList
  spelled : ∃ rest, points = codePoints source ++ markPoint :: (codePoints port ++ rest) ∧
    StopsAt markPoint rest

/-- The code points are those of an expression. -/
structure SpellsExpression (points : List Nat) (name : String) : Prop where
  name_ne_empty : name ≠ ""
  allowed : name.toList.all isExpressionChar = true
  spelled : points = codePoints name

variable {points front behind : List Nat} {value : PortValue} {source port name : String}

/-- The mark is looked for among code points in a spelled text and among characters in a text, to
the same effect. -/
theorem markPoint_mem_codePoints_iff {text : String} :
    markPoint ∈ codePoints text ↔ connectionMark ∈ text.toList := mem_codePoints_iff

/-- An expression holds no mark, for the mark is not among the characters of expressions. So no text
spells both an expression and a connection. -/
theorem SpellsExpression.free (spells : SpellsExpression points name) : markPoint ∉ points := by
  rw [spells.spelled, markPoint_mem_codePoints_iff]
  intro mem
  have allowed : isExpressionChar connectionMark = true :=
    List.all_eq_true.mp spells.allowed _ mem
  exact absurd allowed (by decide)

/-- A text that spells a connection holds a mark. -/
theorem SpellsConnection.markPoint_mem (spells : SpellsConnection points source port) :
    markPoint ∈ points := by
  obtain ⟨rest, rfl, -⟩ := spells.spelled
  simp

/-- The names are what stands in front of the first mark, and from there to the second. What follows
the second mark is not asked about. -/
theorem spellsConnection_append_iff (free : markPoint ∉ front) :
    SpellsConnection (front ++ markPoint :: behind) source port ↔
      (front = codePoints source ∧ source ≠ "") ∧
        (behind.takeWhile (· ≠ markPoint) = codePoints port ∧ port ≠ "") := by
  constructor
  · intro spells
    obtain ⟨rest, same, stops⟩ := spells.spelled
    have source_free : markPoint ∉ codePoints source :=
      fun mem => spells.source_free (markPoint_mem_codePoints_iff.mp mem)
    have port_free : markPoint ∉ codePoints port :=
      fun mem => spells.port_free (markPoint_mem_codePoints_iff.mp mem)
    have first (more : List Nat) : StopsAt markPoint (markPoint :: more) := .inr ⟨more, rfl⟩
    have at_source : front = codePoints source := by
      rw [← takeWhile_ne_append free (first behind), same, takeWhile_ne_append source_free (first _)]
    rw [at_source, List.append_cancel_left_eq, List.cons.injEq] at same
    rw [same.2, takeWhile_ne_append port_free stops]
    exact ⟨⟨at_source, spells.source_ne_empty⟩, rfl, spells.port_ne_empty⟩
  · intro names
    obtain ⟨⟨rfl, source_ne⟩, at_port, port_ne⟩ := names
    constructor
    · exact source_ne
    · exact port_ne
    · exact fun mem => free (markPoint_mem_codePoints_iff.mpr mem)
    · intro mem
      apply notMem_takeWhile_ne behind
      rw [at_port]
      exact markPoint_mem_codePoints_iff.mpr mem
    · refine ⟨behind.dropWhile (· ≠ markPoint), ?_, stopsAt_dropWhile_ne behind⟩
      rw [← at_port, List.takeWhile_append_dropWhile]

/-! ## Tagged forms -/

/-- A connection in tagged form, whatever its names are. -/
def connectionForm (source port : Json) : Json :=
  .object [(tagField, .text "connection"), ("source_instance_id", source), ("source_port_id", port)]

/-- An expression in tagged form, whatever it is. -/
def expressionForm (name : Json) : Json := .object [(tagField, .text "variable"), ("name", name)]

/-- The tagged form of a connection is read as one when both its names are texts that are not
empty. -/
theorem read_connectionForm {origin : Origin} {source port : Json} :
    PortValue.read origin (connectionForm source port) = .accepted value ↔
      ∃ s p, value = .connection s p ∧
        Read.nonEmptyText source = .accepted s ∧ Read.nonEmptyText port = .accepted p := by
  have tagged : PortValue.read origin (connectionForm source port) =
      (readConnection (connectionForm source port)).under (.name "connection") := rfl
  rw [tagged, Checked.under_eq_accepted_iff]
  simp only [readConnection, connectionForm, Read.model_eq_accepted_iff, Json.object.injEq,
    exists_eq_left', Checked.seq_eq_accepted_iff, Checked.map_eq_accepted_iff, Record.required,
    Record.requiredAs_eq_accepted_iff_value?]
  constructor
  · intro accepted
    obtain ⟨_, p, ⟨_, s, ⟨_, _, rfl⟩, ⟨_, found, at_source⟩, rfl⟩, ⟨_, other, at_port⟩, rfl⟩ := accepted
    cases found
    cases other
    exact ⟨s, p, rfl, at_source, at_port⟩
  · intro names
    obtain ⟨s, p, rfl, at_source, at_port⟩ := names
    exact ⟨_, p, ⟨_, s, ⟨(), rfl, rfl⟩, ⟨source, rfl, at_source⟩, rfl⟩, ⟨port, rfl, at_port⟩, rfl⟩

/-- The tagged form of an expression is read as one when its name is made of the characters of
expressions. -/
theorem read_expressionForm {origin : Origin} {name : Json} :
    PortValue.read origin (expressionForm name) = .accepted value ↔
      ∃ n, value = .variable n ∧ Read.patternText expressionPattern name = .accepted n := by
  have tagged : PortValue.read origin (expressionForm name) =
      (readVariable (expressionForm name)).under (.name "variable") := rfl
  rw [tagged, Checked.under_eq_accepted_iff]
  simp only [readVariable, expressionForm, Read.model_eq_accepted_iff, Json.object.injEq,
    exists_eq_left', Checked.seq_eq_accepted_iff, Checked.map_eq_accepted_iff, Record.required,
    Record.requiredAs_eq_accepted_iff_value?]
  constructor
  · intro accepted
    obtain ⟨_, n, ⟨_, _, rfl⟩, ⟨_, found, at_name⟩, rfl⟩ := accepted
    cases found
    exact ⟨n, rfl, at_name⟩
  · intro named
    obtain ⟨n, rfl, at_name⟩ := named
    exact ⟨_, n, ⟨(), rfl, rfl⟩, ⟨name, rfl, at_name⟩, rfl⟩

/-- Code points without a half are those of characters, so for them cutting a list of code points is
cutting a text. -/
theorem exists_map_toNat (bounded : ∀ n ∈ points, n < 0x110000) (whole : isWellFormed points = true) :
    ∃ cs : List Char, points = cs.map Char.toNat :=
  ⟨_, (codePoints_ofPoints bounded whole).symm⟩

/-- A character is the mark exactly when its code point is that of the mark. -/
theorem ne_markPoint_comp_toNat :
    (fun n => decide (n ≠ markPoint)) ∘ Char.toNat = fun c => decide (c ≠ connectionMark) := by
  funext c
  simp [markPoint, Char.toNat_inj]

theorem not_beq_markPoint :
    (fun n => !(n == connectionMark.toNat)) = fun n => decide (n ≠ markPoint) := by
  funext n
  by_cases same : n = connectionMark.toNat <;> simp [markPoint, same]

/-- A text with a mark is tagged as a connection, and is cut at the marks. This holds whether or not
there are halves in it, in which case the parts may be texts although the whole is none. -/
theorem tag?_ofPoints_append (bounded : ∀ n ∈ front ++ markPoint :: behind, n < 0x110000)
    (free : markPoint ∉ front) :
    tag? (.ofPoints (front ++ markPoint :: behind)) =
      some (connectionForm (.ofPoints front) (.ofPoints (behind.takeWhile (· ≠ markPoint)))) := by
  by_cases whole : isWellFormed (front ++ markPoint :: behind) = true
  · -- The text is well-formed, so it is cut as a list of characters.
    obtain ⟨cs, same⟩ := exists_map_toNat bounded whole
    obtain ⟨xs, rest, rfl, rfl, at_rest⟩ := List.map_eq_append_iff.mp same.symm
    obtain ⟨mark, ys, rfl, at_mark, rfl⟩ := List.map_eq_cons_iff.mp at_rest
    obtain rfl : mark = connectionMark := Char.toNat_inj.mp at_mark
    have free : connectionMark ∉ xs := fun mem => free (List.mem_map_of_mem mem)
    rw [same, List.takeWhile_map, ne_markPoint_comp_toNat,
      Json.ofPoints_map_toNat, Json.ofPoints_map_toNat, Json.ofPoints_map_toNat, tag?, tagText,
      String.toList_ofList, cut?_append_cons free]
    rfl
  · have stops : StopsAt markPoint (markPoint :: behind) := .inr ⟨behind, rfl⟩
    rw [Json.ofPoints, if_neg whole, tag?, tagPoints]
    simp only [not_beq_markPoint, dropWhile_ne_append free stops, takeWhile_ne_append free stops]
    rfl

/-- A text without a mark is tagged as an expression, which is refused later if it is none. -/
theorem tag?_ofPoints_of_notMem (bounded : ∀ n ∈ points, n < 0x110000) (free : markPoint ∉ points) :
    tag? (.ofPoints points) = some (expressionForm (.ofPoints points)) := by
  by_cases whole : isWellFormed points = true
  · obtain ⟨cs, rfl⟩ := exists_map_toNat bounded whole
    have free : connectionMark ∉ cs := fun mem => free (List.mem_map_of_mem mem)
    rw [Json.ofPoints_map_toNat, tag?, tagText, String.toList_ofList, cut?_of_notMem free]
    rfl
  · rw [Json.ofPoints, if_neg whole, tag?, tagPoints]
    simp only [not_beq_markPoint, dropWhile_ne_of_notMem free]
    rfl

/-- A text means what it spells, and nothing if it spells neither a connection nor an expression. -/
theorem means_toJson_iff (s : Spelled) :
    Means s.toJson value ↔
      (∃ source port, value = .connection source port ∧ SpellsConnection s.points source port) ∨
        ∃ name, value = .variable name ∧ SpellsExpression s.points name := by
  obtain ⟨points, bounded⟩ := s
  unfold Means Spelled.toJson
  dsimp only
  by_cases marked : markPoint ∈ points
  · obtain ⟨front, behind, rfl, free⟩ := List.eq_append_cons_of_mem marked
    have not_expression : ¬∃ name, value = .variable name ∧
        SpellsExpression (front ++ markPoint :: behind) name := by
      intro named
      obtain ⟨_, _, spells⟩ := named
      exact spells.free marked
    have front_bounded : ∀ n ∈ front, n < 0x110000 := by
      intro n mem
      exact bounded n (List.mem_append_left _ mem)
    have port_bounded : ∀ n ∈ behind.takeWhile (· ≠ markPoint), n < 0x110000 := by
      intro n mem
      have mem : n ∈ behind := (List.takeWhile_prefix _).subset mem
      exact bounded n (List.mem_append_right _ (List.mem_cons_of_mem _ mem))
    rw [or_iff_left not_expression, tag?_ofPoints_append bounded free]
    simp only [Option.some.injEq, exists_eq_left', read_connectionForm,
      Json.nonEmptyText_ofPoints_iff front_bounded, Json.nonEmptyText_ofPoints_iff port_bounded,
      spellsConnection_append_iff free]
  · have not_connection : ¬∃ source port, value = .connection source port ∧
        SpellsConnection points source port := by
      intro named
      obtain ⟨_, _, _, spells⟩ := named
      exact marked spells.markPoint_mem
    rw [or_iff_right not_connection, tag?_ofPoints_of_notMem bounded marked]
    simp only [Option.some.injEq, exists_eq_left', read_expressionForm,
      Read.patternText_eq_accepted_iff, Json.ofPoints_eq_text_iff bounded]
    constructor
    · intro named
      obtain ⟨name, same, spelled, nonempty, allowed⟩ := named
      exact ⟨name, same, nonempty, allowed, spelled⟩
    · intro named
      obtain ⟨name, same, spells⟩ := named
      exact ⟨name, same, spells.spelled, spells.name_ne_empty, spells.allowed⟩

/-- A document means one value at most, since it is tagged in one way and a tagged value is read in
one way. -/
theorem Means.unique {document : Json} {v w : PortValue} (first : Means document v)
    (second : Means document w) : v = w := by
  obtain ⟨tagged, tags, accepted⟩ := first
  obtain ⟨other, again, other_accepted⟩ := second
  rw [tags] at again
  cases again
  rw [accepted] at other_accepted
  cases other_accepted
  rfl

end PortValue

/-! ## A block around a value -/

namespace Block

/-- The document of a block without the value of one of its ports. Its values are given under a name
that is read, and there may be anything else beside them. -/
structure Frame where
  before : List (GivenText × Json)
  name : String
  front : List (GivenText × Json)
  port : GivenText
  back : List (GivenText × Json)
  after : List (GivenText × Json)
  known : name ∈ ["input_values", "inputValues"]
  reads : ∀ values, Record.value? ⟨before ++ (.text name, values) :: after⟩
    ["input_values", "inputValues"] = some values

namespace Frame

/-- The fields of the block, with some document for its values. -/
def fields (f : Frame) (values : Json) : List (GivenText × Json) :=
  f.before ++ (.text f.name, values) :: f.after

/-- The values of the block, with some document for the one that is left out. -/
def values (f : Frame) (value : Json) : List (GivenText × Json) :=
  f.front ++ (f.port, value) :: f.back

/-- The document of the block, with some document for the value that is left out. -/
def fill (f : Frame) (value : Json) : Json := .object (f.fields (.object (f.values value)))

/-- The block with another value in the place that was left out. -/
def put (f : Frame) (b : Block) (value : PortValue) : Block :=
  { b with inputs := b.inputs.set f.front.length (f.port, value) }

variable {f : Frame} {origin : Origin} {document other : Json} {b c : Block}

/-- Fields of other names do not depend on the values that are filled in. -/
theorem lookup?_fields_of_ne {key : String} (different : key ≠ f.name) (v w : Json) :
    Json.lookup? (f.fields v) key = Json.lookup? (f.fields w) key := by
  unfold fields
  induction f.before with
  | nil =>
    have different : GivenText.text f.name ≠ .text key := by simpa using different.symm
    rw [List.nil_append, List.nil_append, Json.lookup?_cons, Json.lookup?_cons, if_neg different,
      if_neg different]
  | cons field rest ih =>
    rw [List.cons_append, List.cons_append, Json.lookup?_cons, Json.lookup?_cons, ih]

/-- The values are given apart from the other fields, so these are read in the same way whatever is
filled in. -/
theorem value?_fields_of_notMem {names : List String} (apart : f.name ∉ names) (v w : Json) :
    Record.value? ⟨f.fields v⟩ names = Record.value? ⟨f.fields w⟩ names := by
  induction names with
  | nil => rfl
  | cons name rest ih =>
    rw [List.mem_cons, not_or] at apart
    rw [Record.value?_cons, Record.value?_cons, ih apart.2,
      lookup?_fields_of_ne (Ne.symm apart.1) v w]

/-- One pair of related lists tells what the others are that differ in one place: the image of that
place is replaced and the rest is the same, if everything has one image at most. -/
theorem forall₂_replace_iff {α β : Type} {R : α → β → Prop} (unique : Relator.RightUnique R)
    {x y : α} {front back : List α} {xs ys : List β} (related : List.Forall₂ R (front ++ x :: back) xs) :
    List.Forall₂ R (front ++ y :: back) ys ↔ ∃ image, R y image ∧ ys = xs.set front.length image := by
  induction front generalizing xs ys with
  | nil =>
    obtain ⟨first, rest, _, at_back, rfl⟩ := List.forall₂_cons_left_iff.mp related
    rw [List.nil_append, List.forall₂_cons_left_iff]
    constructor
    · intro again
      obtain ⟨image, others, at_y, again, rfl⟩ := again
      rw [unique.forall₂ again at_back]
      exact ⟨image, at_y, rfl⟩
    · intro image
      obtain ⟨image, at_y, rfl⟩ := image
      exact ⟨image, rest, at_y, at_back, rfl⟩
  | cons z front ih =>
    obtain ⟨first, rest, at_z, more, rfl⟩ := List.forall₂_cons_left_iff.mp related
    rw [List.cons_append, List.forall₂_cons_left_iff]
    constructor
    · intro again
      obtain ⟨same, others, again_z, again, rfl⟩ := again
      obtain ⟨image, at_y, rfl⟩ := (ih more).mp again
      rw [unique again_z at_z]
      exact ⟨image, at_y, rfl⟩
    · intro image
      obtain ⟨image, at_y, rfl⟩ := image
      exact ⟨first, _, at_z, (ih more).mpr ⟨image, at_y, rfl⟩, rfl⟩

/-- The values are read from the field that holds them, under whichever of its two names the frame
gives it. -/
theorem optionalAs_fields_iff {values : Json} {inputs : List (GivenText × PortValue)} :
    Record.optionalAs ⟨f.fields values⟩ ["input_values", "inputValues"] [] readInputs =
      .accepted inputs ↔ readInputs values = .accepted inputs := by
  rw [Record.optionalAs_eq_accepted_iff_value?, fields, f.reads]
  simp

/-- If the values are read with some document in the open place, then with another one only the
value of that place is another. -/
theorem readInputs_values_iff {inputs others : List (GivenText × PortValue)}
    (valid : readInputs (.object (f.values other)) = .accepted inputs) :
    readInputs (.object (f.values document)) = .accepted others ↔
      ∃ value, PortValue.Means document value ∧
        others = inputs.set f.front.length (f.port, value) := by
  have unique : Relator.RightUnique fun (field : GivenText × Json) (input : GivenText × PortValue) =>
      input.1 = field.1 ∧ PortValue.Means field.2 input.2 := by
    intro field first second at_first at_second
    exact Prod.ext (at_first.1.trans at_second.1.symm) (at_first.2.unique at_second.2)
  rw [readInputs_eq_accepted_iff] at valid ⊢
  simp only [Json.object.injEq, exists_eq_left', values] at valid ⊢
  rw [forall₂_replace_iff unique valid]
  constructor
  · intro image
    obtain ⟨⟨port, value⟩, ⟨rfl, means⟩, same⟩ := image
    exact ⟨value, means, same⟩
  · intro means
    obtain ⟨value, means, same⟩ := means
    exact ⟨(f.port, value), ⟨rfl, means⟩, same⟩

/-- A filled block is read with the value that was filled in. That it is read with some value says
that everything around the open place is in order. -/
theorem read_fill_iff (valid : Block.read origin (f.fill other) = .accepted b) :
    Block.read origin (f.fill document) = .accepted c ↔
      ∃ value, PortValue.Means document value ∧ c = f.put b value := by
  have beside {names : List String} (h : ∀ name ∈ names, name ∉ ["input_values", "inputValues"]) :
      Record.value? ⟨f.fields (.object (f.values document))⟩ names =
        Record.value? ⟨f.fields (.object (f.values other))⟩ names :=
    value?_fields_of_notMem (fun mem => h _ mem f.known) _ _
  rw [fill, read_eq_accepted_iff] at valid ⊢
  simp only [Json.object.injEq, exists_eq_left'] at valid ⊢
  obtain ⟨at_id, at_kind, at_inputs, at_position⟩ := valid
  rw [Record.required, Record.requiredAs_congr (beside (by decide)), ← Record.required, at_id,
    Record.requiredAs_congr (beside (by decide)), at_kind, optionalAs_fields_iff,
    readInputs_values_iff (optionalAs_fields_iff.mp at_inputs), Record.optional,
    Record.optionalAs_congr (beside (by decide)), ← Record.optional, at_position]
  simp only [Checked.accepted.injEq]
  constructor
  · intro parts
    obtain ⟨same_id, same_kind, ⟨value, means, at_inputs⟩, same_position⟩ := parts
    refine ⟨value, means, ?_⟩
    cases c
    cases same_id
    cases same_kind
    cases same_position
    cases at_inputs
    rfl
  · intro means
    obtain ⟨value, means, rfl⟩ := means
    exact ⟨rfl, rfl, ⟨value, means, rfl⟩, rfl⟩

/-- The place that was left out is one of the block's, so putting a value there is seen. -/
theorem front_length_lt (valid : Block.read origin (f.fill other) = .accepted b) :
    f.front.length < b.inputs.length := by
  obtain ⟨_, same, _, _, at_inputs, _⟩ := read_eq_accepted_iff.mp valid
  cases same
  obtain ⟨_, same, each⟩ := readInputs_eq_accepted_iff.mp (optionalAs_fields_iff.mp at_inputs)
  cases same
  rw [← each.length_eq, values, List.length_append, List.length_cons]
  omega

/-- A filled block holds a value exactly if the document that was filled in means it. Different
values make different blocks, so the value can be told from the block. -/
theorem read_fill_eq_put_iff (valid : Block.read origin (f.fill other) = .accepted b)
    {value : PortValue} :
    Block.read origin (f.fill document) = .accepted (f.put b value) ↔ PortValue.Means document value := by
  rw [read_fill_iff valid]
  constructor
  · intro filled
    obtain ⟨held, means, same⟩ := filled
    have at_place := congrArg (fun block : Block => block.inputs[f.front.length]?) same
    simp only [put, List.getElem?_set_self (front_length_lt valid), Option.some.injEq,
      Prod.mk.injEq, true_and] at at_place
    rwa [at_place]
  · intro means
    exact ⟨value, means, rfl⟩

end Frame

/-- An id holds no mark, so an id in front of a mark is all that stands in front of the first
one. -/
theorem ValidId.free {id : String} (valid : ValidId id) : PortValue.connectionMark ∉ id.toList := by
  intro mem
  have allowed : isIdChar PortValue.connectionMark = true := List.all_eq_true.mp valid.2 _ mem
  exact absurd allowed (by decide)

/-- An id and a port without a mark are spelled with a mark between them. This is the way
connections are usually written. -/
theorem ValidId.spellsConnection {id port : String} (valid : ValidId id) (nonempty : port ≠ "")
    (free : PortValue.connectionMark ∉ port.toList) :
    PortValue.SpellsConnection (Text.codePoints (id ++ ":" ++ port)) id port where
  source_ne_empty := valid.1
  port_ne_empty := nonempty
  source_free := valid.free
  port_free := free
  spelled := by
    refine ⟨[], ?_, .inl rfl⟩
    simp [Text.codePoints, PortValue.markPoint, PortValue.connectionMark]

end Block

namespace Sample

/-- A block with one value given and another left out. -/
def around : Block.Frame where
  before := [("id", .text "far"), ("kind_id", .text "mix")]
  name := "input_values"
  front := [("a", .text "near:total")]
  port := "b"
  back := []
  after := []
  known := by decide
  reads := by
    intro values
    rfl

/-- The text `near:total:`, with a half behind it. -/
def halfBehind : Text.Spelled where
  points := [110, 101, 97, 114, 58, 116, 111, 116, 97, 108, 58, 0xD800]
  bounded := by decide

/-- The text `near:`, with a half for the port. -/
def halfPort : Text.Spelled where
  points := [110, 101, 97, 114, 58, 0xD800]
  bounded := by decide

end Sample

namespace Block

/-- **A text is read as what it spells.** A text given for a port of a block that is read otherwise
is a connection exactly if it spells one, and an expression exactly if it spells one; if it spells
neither, the block is refused. An id and a port without a mark, with a mark between them, are the
connection to that port. -/
theorem reads_spelled (f : Frame) {origin : Origin} {other : Json} {b : Block}
    (valid : Block.read origin (f.fill other) = .accepted b) (s : Text.Spelled) :
    (∀ source port,
      Block.read origin (f.fill s.toJson) = .accepted (f.put b (.connection source port)) ↔
        PortValue.SpellsConnection s.points source port) ∧
    (∀ name,
      Block.read origin (f.fill s.toJson) = .accepted (f.put b (.variable name)) ↔
        PortValue.SpellsExpression s.points name) ∧
    ((∀ source port, ¬PortValue.SpellsConnection s.points source port) →
      (∀ name, ¬PortValue.SpellsExpression s.points name) →
      ∃ faults, Block.read origin (f.fill s.toJson) = .refused faults) ∧
    ∀ id port, ValidId id → port ≠ "" → ':' ∉ port.toList →
      Block.read origin (f.fill (.text (id ++ ":" ++ port))) =
        .accepted (f.put b (.connection id port)) := by
  have connection (t : Text.Spelled) (source port : String) :
      Block.read origin (f.fill t.toJson) = .accepted (f.put b (.connection source port)) ↔
        PortValue.SpellsConnection t.points source port := by
    rw [Frame.read_fill_eq_put_iff valid, PortValue.means_toJson_iff]
    simp
  refine ⟨connection s, ?_, ?_, ?_⟩
  · intro name
    rw [Frame.read_fill_eq_put_iff valid, PortValue.means_toJson_iff]
    simp
  · intro no_connection no_expression
    cases read : Block.read origin (f.fill s.toJson) with
    | refused faults => exact ⟨faults, rfl⟩
    | accepted c =>
      obtain ⟨value, means, _⟩ := (Frame.read_fill_iff valid).mp read
      rcases (PortValue.means_toJson_iff s).mp means with ⟨source, port, _, spells⟩ | ⟨name, _, spells⟩
      · exact absurd spells (no_connection source port)
      · exact absurd spells (no_expression name)
  · intro id port id_valid nonempty free
    rw [← Text.Spelled.toJson_ofText, connection]
    exact id_valid.spellsConnection nonempty free

/-- What stands behind a second mark may be no text at all: it is dropped before anyone looks at
it. -/
theorem reads_spelled_trailing :
    Block.read .value (Sample.around.fill (.text "1.0")) = .accepted
      ⟨"far", "mix", [("a", .connection "near" "total"), ("b", .variable "1.0")], .zero⟩ ∧
    Block.read .value (Sample.around.fill Sample.halfBehind.toJson) = .accepted
      ⟨"far", "mix", [("a", .connection "near" "total"), ("b", .connection "near" "total")], .zero⟩ := by
  have valid : Block.read .value (Sample.around.fill (.text "1.0")) = .accepted
      ⟨"far", "mix", [("a", .connection "near" "total"), ("b", .variable "1.0")], .zero⟩ := rfl
  have spells : PortValue.SpellsConnection Sample.halfBehind.points "near" "total" := by
    constructor
    · decide
    · decide
    · decide
    · decide
    · exact ⟨[58, 0xD800], by decide, .inr ⟨[0xD800], rfl⟩⟩
  exact ⟨valid, ((reads_spelled Sample.around valid Sample.halfBehind).1 "near" "total").mpr spells⟩

/-- A port that is a half has no mark in it and is not empty, but is no text either, and the block
is refused for it. -/
theorem halved_port_refused :
    Sample.halfPort.points = Text.codePoints "near" ++ PortValue.markPoint :: [0xD800] ∧
    PortValue.connectionMark ∉ "near".toList ∧ PortValue.markPoint ∉ [0xD800] ∧
    ∃ faults, Block.read .value (Sample.around.fill Sample.halfPort.toJson) = .refused faults := by
  refine ⟨by decide, by decide, by decide, ?_⟩
  exact ⟨_, rfl⟩

end Block

end ShaderGraph
