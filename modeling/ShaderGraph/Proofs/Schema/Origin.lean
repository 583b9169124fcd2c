import ShaderGraph.Graph.Basic
import ShaderGraph.Proofs.Json.Reader
import ShaderGraph.Proofs.Schema.Checked

/-!
# Where a document comes from

A graph is read in one way wherever its document comes from, apart from whole
numbers beyond binary64: these are infinite in the text of a document and refused in
the body of a request. So two readings of a plain document are *alike*: they give the
same value or the same faults, and the values at fault are plain again, since they are
parts of the document (`Graph.alike_readFields`).

Being alike goes from the readings of parts to the reading of the whole, combinator by
combinator.
-/

namespace ShaderGraph

/-! ## Results -/

namespace Checked

variable {α β : Type}

/-- All values at fault are plain. -/
def Plain : Checked α → Prop
  | .accepted _ => True
  | .refused faults => ∀ fault ∈ faults, fault.value.isPlain = true

/-- Two results are the same, with plain values at fault. -/
structure Alike (x y : Checked α) : Prop where
  same : x = y
  plain : x.Plain

variable {x y : Checked α}

theorem alike_accepted (a : α) : (Checked.accepted a).Alike (.accepted a) := ⟨rfl, trivial⟩

/-- A refusal of a plain value is alike to itself; the value is shown with the fault,
which is why it has to be plain. -/
theorem alike_fail (cause : Cause) {value : Json} (plain : value.isPlain = true) :
    (Checked.fail cause value : Checked α).Alike (.fail cause value) :=
  ⟨rfl, List.forall_mem_singleton.mpr plain⟩

/-- Alike results are alike when they are mapped, since faults are not touched. -/
theorem Alike.map (alike : x.Alike y) (f : α → β) : (f <$> x).Alike (f <$> y) := by
  obtain ⟨rfl, plain⟩ := alike
  refine ⟨rfl, ?_⟩
  show (x.map f).Plain
  cases x with
  | accepted a => trivial
  | refused faults => exact plain

/-- Parts that are alike one by one are alike side by side: accepted together, or
refused with the same faults, all of them plain. -/
theorem Alike.seq {f g : Checked (α → β)} (functions : f.Alike g) (alike : x.Alike y) :
    (f <*> x).Alike (g <*> y) := by
  obtain ⟨rfl, plain⟩ := functions
  obtain ⟨rfl, more⟩ := alike
  refine ⟨rfl, ?_⟩
  show (f.seq fun _ => x).Plain
  cases f with
  | accepted f =>
    cases x with
    | accepted a => trivial
    | refused faults => exact more
  | refused faults =>
    cases x with
    | accepted a => exact plain
    | refused others => exact List.forall_mem_append.mpr ⟨plain, more⟩

/-- Alike results are alike below a field or an index, for this changes the places of
faults and not their values. -/
theorem Alike.under (alike : x.Alike y) (step : Step) : (x.under step).Alike (y.under step) := by
  obtain ⟨rfl, plain⟩ := alike
  refine ⟨rfl, ?_⟩
  cases x with
  | accepted a => trivial
  | refused faults =>
    intro fault hfault
    obtain ⟨inner, hinner, rfl⟩ := List.mem_map.mp hfault
    exact plain inner hinner

/-- A check that follows on alike results is made of the same value on both sides, and
has to be alike for it. -/
theorem Alike.andThen (alike : x.Alike y) {f g : α → Checked β} (next : ∀ a, (f a).Alike (g a)) :
    (x.andThen f).Alike (y.andThen g) := by
  obtain ⟨rfl, plain⟩ := alike
  cases x with
  | accepted a => exact next a
  | refused faults => exact ⟨rfl, plain⟩

end Checked

/-! ## Readings -/

namespace Read

variable {α : Type} {read read' : Json → Checked α}

/-- Two readings of plain values are alike. -/
def Alike (read read' : Json → Checked α) : Prop :=
  ∀ value : Json, value.isPlain = true → (read value).Alike (read' value)

theorem alike_text : Alike text text := by
  intro value plain
  unfold text
  split
  · exact Checked.alike_accepted _
  · exact Checked.alike_accepted _
  · exact Checked.alike_fail _ plain

theorem alike_nonEmptyText : Alike nonEmptyText nonEmptyText := by
  intro value plain
  unfold nonEmptyText
  split
  · split
    · exact Checked.alike_fail _ plain
    · exact Checked.alike_accepted _
  · exact Checked.alike_fail _ plain
  · exact Checked.alike_fail _ plain

theorem alike_patternText (pattern : Pattern) :
    Alike (patternText pattern) (patternText pattern) := by
  intro value plain
  refine (alike_nonEmptyText value plain).andThen fun s => ?_
  split
  · exact Checked.alike_accepted _
  · exact Checked.alike_fail _ plain

/-- This is where origins differ: whole numbers that are too large are infinite in a
text and refused elsewhere. A number in range is finite in each of them. -/
theorem alike_number (origin origin' : Origin) : Alike (number origin) (number origin') := by
  intro value plain
  cases value with
  | int n =>
    have finite : (Binary64.ofInt n).isFinite = true := plain
    simp only [number, finite, Bool.true_or, if_true]
    exact Checked.alike_accepted _
  | text s =>
    simp only [number]
    split
    · exact Checked.alike_accepted _
    · exact Checked.alike_fail _ plain
  | float x => exact Checked.alike_accepted _
  | bool b => exact Checked.alike_accepted _
  | illFormedText points => exact Checked.alike_fail _ plain
  | null | list _ | object _ => exact Checked.alike_fail _ plain

theorem alike_finiteNumber (origin origin' : Origin) :
    Alike (finiteNumber origin) (finiteNumber origin') := by
  intro value plain
  refine (alike_number origin origin' value plain).andThen fun x => ?_
  split
  · exact Checked.alike_accepted _
  · exact Checked.alike_fail _ plain

theorem alike_choice (cause : List String → Cause) (choices : List (String × α)) :
    Alike (choice cause choices) (choice cause choices) := by
  intro value plain
  unfold choice
  dsimp only
  split
  · split
    · exact Checked.alike_accepted _
    · exact Checked.alike_fail _ plain
  · exact Checked.alike_fail _ plain
  · exact Checked.alike_fail _ plain

/-- Items that are read alike at their indices make lists that are read alike. By
induction on the items, each of which is plain. -/
theorem alike_itemsFrom {read read' : Nat → Json → Checked α} (alike : ∀ n, Alike (read n) (read' n)) :
    ∀ {items : List Json} (index : Nat), (∀ item ∈ items, item.isPlain = true) →
      (itemsFrom read index items).Alike (itemsFrom read' index items)
  | [], _, _ => Checked.alike_accepted _
  | item :: rest, index, plain => by
    rw [List.forall_mem_cons] at plain
    exact (((alike index item plain.1).under _).map _).seq (alike_itemsFrom alike (index + 1) plain.2)

/-- A list of plain items is read alike where the items are; what is no list is plain,
and is refused on both sides. -/
theorem alike_indexedList {read read' : Nat → Json → Checked α}
    (alike : ∀ n, Alike (read n) (read' n)) : Alike (indexedList read) (indexedList read') := by
  intro value plain
  cases value with
  | list items => exact alike_itemsFrom alike 0 (Json.all_list_iff.mp plain)
  | _ => exact Checked.alike_fail _ plain

/-- Where the index says nothing, it is enough that the items are read alike. -/
theorem Alike.list (alike : Alike read read') : Alike (list read) (list read') :=
  alike_indexedList fun _ => alike

theorem Alike.listOfAtLeast (alike : Alike read read') (least : Nat) :
    Alike (listOfAtLeast least read) (listOfAtLeast least read') := by
  intro value plain
  refine (alike.list value plain).andThen fun items => ?_
  split
  · exact Checked.alike_fail _ plain
  · exact Checked.alike_accepted _

theorem Alike.listWithin (alike : Alike read read') (least most : Nat) :
    Alike (listWithin least most read) (listWithin least most read') := by
  intro value plain
  cases value with
  | list items =>
    simp only [Read.listWithin]
    split
    · exact Checked.alike_fail _ plain
    · exact alike.listOfAtLeast least _ plain
  | _ => exact alike.listOfAtLeast least _ plain

theorem alike_model {name : String} {fields fields' : Record → Checked α}
    (alike : ∀ r : Record, r.value.isPlain = true → (fields r).Alike (fields' r)) :
    Alike (model name fields) (model name fields') := by
  intro value plain
  cases value with
  | object entries => exact alike ⟨entries⟩ plain
  | _ => exact Checked.alike_fail _ plain

end Read

namespace Record

variable {α : Type} {r : Record} {names : List String} {read read' : Json → Checked α}

theorem isPlain_of_find? (plain : r.value.isPlain = true) {field : String × Json}
    (found : r.find? names = some field) : field.2.isPlain = true := by
  obtain ⟨name, _, found⟩ := List.exists_of_findSome?_eq_some found
  obtain ⟨value, held, rfl⟩ := Option.map_eq_some_iff.mp found
  obtain ⟨entry, hentry, rfl⟩ := Json.lookup?_mem held
  exact (Json.all_object_iff.mp plain entry hentry).2

/-- A field that must be there is read alike. If it is missing, the object itself is at
fault, and it is plain. -/
theorem alike_requiredAs (plain : r.value.isPlain = true) (alike : Read.Alike read read') :
    (r.requiredAs names read).Alike (r.requiredAs names read') := by
  unfold requiredAs
  split
  next name value found => exact (alike value (isPlain_of_find? plain found)).under _
  next => exact (Checked.alike_fail _ plain).under _

/-- A field that may be missing is read alike; the default is the same on both
sides. -/
theorem alike_optionalAs (plain : r.value.isPlain = true) (default : α)
    (alike : Read.Alike read read') :
    (r.optionalAs names default read).Alike (r.optionalAs names default read') := by
  unfold optionalAs
  split
  next name value found => exact (alike value (isPlain_of_find? plain found)).under _
  next => exact Checked.alike_accepted _

end Record

/-! ## Values of blocks -/

namespace PortValue

open Read Record

theorem alike_tagged {r : Record} (plain : r.value.isPlain = true) (tag : String) :
    (tagged tag r).Alike (tagged tag r) :=
  alike_optionalAs plain _ (alike_choice _ _)

theorem alike_readLiteral (origin : Origin) : Alike (readLiteral origin) (readLiteral origin) :=
  alike_model fun _ plain => ((alike_tagged plain _).map _).seq
    (alike_requiredAs plain (alike_finiteNumber origin origin))

theorem alike_readVector (origin : Origin) : Alike (readVector origin) (readVector origin) :=
  alike_model fun _ plain => ((alike_tagged plain _).map _).seq
    (alike_requiredAs plain ((alike_finiteNumber origin origin).listWithin 2 4))

theorem alike_readVariable : Alike readVariable readVariable :=
  alike_model fun _ plain => ((alike_tagged plain _).map _).seq
    (alike_requiredAs plain (alike_patternText _))

theorem alike_readConnection : Alike readConnection readConnection :=
  alike_model fun _ plain => (((alike_tagged plain _).map _).seq
    (alike_requiredAs plain alike_nonEmptyText)).seq (alike_requiredAs plain alike_nonEmptyText)

/-- A port value is read alike, whichever form its tag announces. A tag that is missing
or unknown is a fault of the plain value. -/
theorem alike_read (origin : Origin) : Alike (PortValue.read origin) (PortValue.read origin) := by
  intro value plain
  unfold PortValue.read
  split
  · split
    · exact Checked.alike_fail _ plain
    · exact (alike_readLiteral origin _ plain).under _
    · exact (alike_readVector origin _ plain).under _
    · exact (alike_readVariable _ plain).under _
    · exact (alike_readConnection _ plain).under _
    · exact Checked.alike_fail _ plain
  · exact Checked.alike_fail _ plain

theorem isPlain_object_cons {name : String} {value : Json} {fields : List (GivenText × Json)}
    (plain : value.isPlain = true) (others : (Json.object fields).isPlain = true) :
    (Json.object ((.text name, value) :: fields)).isPlain = true :=
  Json.all_object_iff.mpr (List.forall_mem_cons.mpr ⟨⟨rfl, plain⟩, Json.all_object_iff.mp others⟩)

/-- The tagged form of a plain value is plain, for tagging only puts names and parts of
the value around it. -/
theorem isPlain_of_tag? {value tagged : Json} (plain : value.isPlain = true)
    (tag : tag? value = some tagged) : tagged.isPlain = true := by
  cases value with
  | null => cases tag
  | bool b =>
    cases tag
    have finite : (Binary64.ofBool b).isFinite = true := by cases b <;> decide +kernel
    exact isPlain_object_cons rfl (isPlain_object_cons finite rfl)
  | int _ | float _ | list _ =>
    cases tag
    exact isPlain_object_cons rfl (isPlain_object_cons plain rfl)
  | text s =>
    cases tag
    unfold tagText
    split
    · exact isPlain_object_cons rfl (isPlain_object_cons rfl (isPlain_object_cons rfl rfl))
    · exact isPlain_object_cons rfl (isPlain_object_cons rfl rfl)
  | illFormedText points => cases plain
  | object fields =>
    cases tag
    exact plain

end PortValue

namespace Block

open Read Record

theorem isPlain_of_tagAll? : ∀ {fields tagged : List (GivenText × Json)},
    (Json.object fields).isPlain = true → tagAll? fields = some tagged →
      (Json.object tagged).isPlain = true
  | [], _, _, tag => by
    cases tag
    rfl
  | (port, value) :: rest, _, plain, tag => by
    obtain ⟨⟨named, value_plain⟩, others⟩ := List.forall_mem_cons.mp (Json.all_object_iff.mp plain)
    unfold tagAll? at tag
    split at tag
    next first more tag_first tag_rest =>
      cases tag
      have rest_plain := isPlain_of_tagAll? (Json.all_object_iff.mpr others) tag_rest
      exact Json.all_object_iff.mpr (List.forall_mem_cons.mpr
        ⟨⟨named, PortValue.isPlain_of_tag? value_plain tag_first⟩, Json.all_object_iff.mp rest_plain⟩)
    next => cases tag

theorem alike_readTagged : ∀ {fields : List (GivenText × Json)},
    (Json.object fields).isPlain = true → (readTagged fields).Alike (readTagged fields)
  | [], _ => Checked.alike_accepted _
  | (port, value) :: rest, plain => by
    have parts := List.forall_mem_cons.mp (Json.all_object_iff.mp plain)
    exact (((PortValue.alike_read .value value parts.1.2).under _).map _).seq
      (alike_readTagged (Json.all_object_iff.mpr parts.2))

/-- The values of a block are read alike: what cannot be tagged is at fault itself, and
the others are plain in tagged form. -/
theorem alike_readInputs : Alike readInputs readInputs := by
  intro value plain
  unfold readInputs
  split
  · split
    next tagged tag => exact alike_readTagged (isPlain_of_tagAll? plain tag)
    next => exact Checked.alike_fail _ plain
  · exact Checked.alike_fail _ plain

end Block

/-! ## Graphs -/

open Read Record

variable (origin origin' : Origin)

theorem Position.alike_read : Alike (Position.read origin) (Position.read origin') :=
  alike_model fun _ plain =>
    ((alike_optionalAs plain _ (alike_number origin origin')).map _).seq
      (alike_optionalAs plain _ (alike_number origin origin'))

/-- A block is read alike wherever its document comes from, field by field. -/
theorem Block.alike_read : Alike (Block.read origin) (Block.read origin') :=
  alike_model fun _ plain =>
    ((((alike_requiredAs plain (alike_patternText _)).map _).seq
      (alike_requiredAs plain alike_nonEmptyText)).seq
      (alike_optionalAs plain _ Block.alike_readInputs)).seq
      (alike_optionalAs plain _ (Position.alike_read origin origin'))

/-- The value of a uniform is read alike as a number or as a list of numbers. Where
neither will do, the faults of both are given. -/
theorem UniformValue.alike_read : Alike (UniformValue.read origin) (UniformValue.read origin') := by
  intro value plain
  have single := (alike_number origin origin' value plain).under (.name "float")
  have several := ((alike_number origin origin').list value plain).under (.name "list[float]")
  unfold UniformValue.read
  rw [← single.same, ← several.same]
  refine ⟨rfl, ?_⟩
  split
  · trivial
  · trivial
  next one others first second =>
    have ones := single.plain
    have more := several.plain
    rw [first] at ones
    rw [second] at more
    exact List.forall_mem_append.mpr ⟨ones, more⟩

/-- A uniform is read alike wherever its document comes from, with the same id waiting
for it. -/
theorem Uniform.alike_read (id : String) :
    Alike (Uniform.read id origin) (Uniform.read id origin') :=
  alike_model fun _ plain =>
    (((((((alike_optionalAs plain _ alike_text).map _).seq
      (alike_requiredAs plain (alike_patternText _))).seq
      (alike_optionalAs plain _ (alike_choice _ _))).seq
      (alike_optionalAs plain _ (UniformValue.alike_read origin origin'))).seq
      (alike_optionalAs plain _ (alike_number origin origin'))).seq
      (alike_optionalAs plain _ (alike_number origin origin'))).seq
      (alike_optionalAs plain _ (alike_number origin origin'))

end ShaderGraph
