import Mathlib.Data.List.Forall2
import ShaderGraph.Proofs.Keyed
import ShaderGraph.Schema.Checked

/-!
# What an accepted document says

A reading is put together from readings of parts. These laws take it apart
again: each says of one combinator which readings of the parts stand behind an
accepted value. With them a fact about a model is a fact about its fields, and
no proof has to look into the combinators.
-/

namespace ShaderGraph

namespace Checked

variable {α β : Type}

@[simp] theorem map_eq_accepted_iff {f : α → β} {x : Checked α} {b : β} :
    f <$> x = .accepted b ↔ ∃ a, x = .accepted a ∧ f a = b := by
  show x.map f = .accepted b ↔ _
  cases x <;> simp [map]

/-- Parts that are read side by side are accepted together when each of them is; faults of one
do not keep the others from being read. -/
@[simp] theorem seq_eq_accepted_iff {f : Checked (α → β)} {x : Checked α} {b : β} :
    f <*> x = .accepted b ↔ ∃ g a, f = .accepted g ∧ x = .accepted a ∧ g a = b := by
  show f.seq (fun _ => x) = .accepted b ↔ _
  cases f <;> cases x <;> simp [seq, map]

/-- Where a result is found changes the place of its faults and nothing else. -/
@[simp] theorem under_eq_accepted_iff {step : Step} {x : Checked α} {a : α} :
    x.under step = .accepted a ↔ x = .accepted a := by
  cases x <;> simp [under]

/-- A check that follows on a result is made of its value, and both have to be passed. -/
@[simp] theorem andThen_eq_accepted_iff {x : Checked α} {f : α → Checked β} {b : β} :
    x.andThen f = .accepted b ↔ ∃ a, x = .accepted a ∧ f a = .accepted b := by
  cases x <;> simp [andThen]

/-- A result is accepted just if its value is there once the faults are forgotten. The faults
have no decidable equality, so this is how a reading is evaluated. -/
theorem toOption_toExcept_eq_some_iff {title : String} {origin : Origin} {x : Checked α} {a : α} :
    (x.toExcept title origin).toOption = some a ↔ x = .accepted a := by
  cases x <;> simp [toExcept, Except.toOption]

@[simp] theorem fail_ne_accepted {cause : Cause} {value : Json} {a : α} :
    Checked.fail cause value ≠ .accepted a := by
  simp [fail]

end Checked

/-! ## Scalars and lists -/

namespace Read

variable {α : Type} {read : Json → Checked α} {value : Json} {text : String}

/-- A name is a text with something in it, and is taken as it is. -/
theorem nonEmptyText_eq_accepted_iff :
    nonEmptyText value = .accepted text ↔ value = .text text ∧ text ≠ "" := by
  unfold nonEmptyText
  split
  next s =>
    by_cases empty : s = ""
    · rw [if_pos (by simp [empty])]
      constructor
      · exact fun h => absurd h Checked.fail_ne_accepted
      · rintro ⟨same, nonempty⟩
        cases same
        exact absurd empty nonempty
    · rw [if_neg (by simp [empty])]
      constructor
      · intro h
        cases h
        exact ⟨rfl, empty⟩
      · rintro ⟨same, _⟩
        cases same
        rfl
  next => simp
  next other _ =>
    constructor
    · exact fun h => absurd h Checked.fail_ne_accepted
    · rintro ⟨rfl, _⟩
      exact absurd rfl (other text)

/-- A text with a pattern must not be empty, and the pattern has to accept all its
characters. -/
theorem patternText_eq_accepted_iff {pattern : Pattern} :
    patternText pattern value = .accepted text ↔
      value = .text text ∧ text ≠ "" ∧ pattern.accepts text.toList = true := by
  simp only [patternText, Checked.andThen_eq_accepted_iff, nonEmptyText_eq_accepted_iff]
  constructor
  · rintro ⟨s, ⟨rfl, nonempty⟩, matched⟩
    split at matched
    next accepted => cases matched; exact ⟨rfl, nonempty, accepted⟩
    next => exact absurd matched Checked.fail_ne_accepted
  · rintro ⟨rfl, nonempty, accepted⟩
    exact ⟨text, ⟨rfl, nonempty⟩, if_pos accepted⟩

/-- A number that had to be finite is finite, however it was given. -/
theorem isFinite_of_finiteNumber {origin : Origin} {x : Binary64}
    (accepted : finiteNumber origin value = .accepted x) : x.isFinite = true := by
  simp only [finiteNumber, Checked.andThen_eq_accepted_iff] at accepted
  obtain ⟨y, _, checked⟩ := accepted
  split at checked
  next finite => cases checked; exact finite
  next => exact absurd checked Checked.fail_ne_accepted

/-- The items of a list are read one by one, each with its index. By induction on the items,
with the index of the first of them going up. -/
theorem itemsFrom_eq_accepted_iff {read : Nat → Json → Checked α} :
    ∀ {items : List Json} {index : Nat} {xs : List α},
      itemsFrom read index items = .accepted xs ↔
        List.Forall₂ (fun item x => read item.2 item.1 = .accepted x) (items.zipIdx index) xs
  | [], index, xs => by
    rw [itemsFrom, List.zipIdx_nil, List.forall₂_nil_left_iff]
    constructor
    · intro h
      cases h
      rfl
    · rintro rfl
      rfl
  | item :: items, index, xs => by
    simp only [itemsFrom, Checked.seq_eq_accepted_iff, Checked.map_eq_accepted_iff,
      Checked.under_eq_accepted_iff, itemsFrom_eq_accepted_iff, List.zipIdx_cons,
      List.forall₂_cons_left_iff]
    constructor
    · rintro ⟨_, rest, ⟨first, head, rfl⟩, tail, rfl⟩
      exact ⟨first, rest, head, tail, rfl⟩
    · rintro ⟨first, rest, head, tail, rfl⟩
      exact ⟨_, rest, ⟨first, head, rfl⟩, tail, rfl⟩

/-- A list is accepted if it is one and each of its items is accepted at its index, so one
refused item refuses the list. -/
theorem indexedList_eq_accepted_iff {read : Nat → Json → Checked α} {xs : List α} :
    indexedList read value = .accepted xs ↔
      ∃ items, value = .list items ∧
        List.Forall₂ (fun item x => read item.2 item.1 = .accepted x) items.zipIdx xs := by
  unfold indexedList
  split
  next items => simp [itemsFrom_eq_accepted_iff]
  next other =>
    constructor
    · exact fun h => absurd h Checked.fail_ne_accepted
    · rintro ⟨items, rfl, _⟩
      exact absurd rfl (other items)

/-- Where the index says nothing, the items alone decide. -/
theorem list_eq_accepted_iff {xs : List α} :
    list read value = .accepted xs ↔
      ∃ items, value = .list items ∧ List.Forall₂ (fun item x => read item = .accepted x) items xs := by
  rw [list, indexedList_eq_accepted_iff]
  refine exists_congr fun items => and_congr_right fun _ => ?_
  nth_rewrite 2 [← List.zipIdx_map_fst 0 items]
  rw [List.forall₂_map_left_iff]

/-- What holds of everything that can be read holds of the items of a list, whichever index each
of them was read with. -/
theorem forall_mem_of_indexedList {read : Nat → Json → Checked α} {xs : List α}
    (listed : indexedList read value = .accepted xs) {P : α → Prop}
    (holds : ∀ n item x, read n item = .accepted x → P x) : ∀ x ∈ xs, P x := by
  obtain ⟨items, -, each⟩ := indexedList_eq_accepted_iff.mp listed
  clear listed
  generalize items.zipIdx = places at each
  induction each with
  | nil => simp
  | cons head _ ih => exact List.forall_mem_cons.mpr ⟨holds _ _ _ head, ih⟩

/-- What holds of everything that can be read holds of the items of a list. -/
theorem forall_mem_of_list {xs : List α} (listed : list read value = .accepted xs) {P : α → Prop}
    (holds : ∀ item x, read item = .accepted x → P x) : ∀ x ∈ xs, P x :=
  forall_mem_of_indexedList listed fun _ => holds

/-- There is one value for each item, so places in the list are places among the items. -/
theorem length_of_list {items : List Json} {xs : List α}
    (listed : list read (.list items) = .accepted xs) : items.length = xs.length := by
  obtain ⟨_, same, each⟩ := list_eq_accepted_iff.mp listed
  cases same
  exact each.length_eq

/-- A list within bounds is a list, and keeps to the bounds. -/
theorem listWithin_eq_accepted_iff {least most : Nat} {xs : List α} :
    listWithin least most read value = .accepted xs ↔
      list read value = .accepted xs ∧ least ≤ xs.length ∧ xs.length ≤ most := by
  have atLeast : listOfAtLeast least read value = .accepted xs ↔
      list read value = .accepted xs ∧ least ≤ xs.length := by
    simp only [listOfAtLeast, Checked.andThen_eq_accepted_iff]
    constructor
    · rintro ⟨ys, listed, checked⟩
      split at checked
      next => exact absurd checked Checked.fail_ne_accepted
      next enough => cases checked; exact ⟨listed, Nat.le_of_not_lt enough⟩
    · rintro ⟨listed, enough⟩
      exact ⟨xs, listed, if_neg (Nat.not_lt.mpr enough)⟩
  unfold listWithin
  split
  next items =>
    split
    next long =>
      constructor
      · exact fun h => absurd h Checked.fail_ne_accepted
      · rintro ⟨listed, _, short⟩
        have length := length_of_list listed
        omega
    next short =>
      rw [atLeast]
      constructor
      · rintro ⟨listed, enough⟩
        have length := length_of_list listed
        exact ⟨listed, enough, by omega⟩
      · rintro ⟨listed, enough, _⟩
        exact ⟨listed, enough⟩
  next other =>
    rw [atLeast]
    constructor
    · rintro ⟨listed, _⟩
      obtain ⟨items, rfl, _⟩ := list_eq_accepted_iff.mp listed
      exact absurd rfl (other items)
    · rintro ⟨listed, enough, _⟩
      exact ⟨listed, enough⟩

end Read

/-! ## Records -/

/-- A model is read from an object. -/
theorem Read.model_eq_accepted_iff {α : Type} {name : String} {read : Record → Checked α}
    {value : Json} {a : α} :
    Read.model name read value = .accepted a ↔
      ∃ fields, value = .object fields ∧ read ⟨fields⟩ = .accepted a := by
  unfold Read.model
  split
  next fields => simp
  next other =>
    constructor
    · exact fun h => absurd h Checked.fail_ne_accepted
    · rintro ⟨fields, rfl, _⟩
      exact absurd rfl (other fields)

/-- A field the object must have is read from it, under the first of its names that the object
has. -/
theorem Record.requiredAs_eq_accepted_iff {α : Type} {r : Record} {names : List String}
    {read : Json → Checked α} {a : α} :
    r.requiredAs names read = .accepted a ↔
      ∃ field, r.find? names = some field ∧ read field.2 = .accepted a := by
  unfold Record.requiredAs
  split
  next name value found => simp [found]
  next missing => simp [missing]

/-- A field the object may have is read from it, or has its default. The default is not read,
and so is not checked either. -/
theorem Record.optionalAs_eq_accepted_iff {α : Type} {r : Record} {names : List String} {default : α}
    {read : Json → Checked α} {a : α} :
    r.optionalAs names default read = .accepted a ↔
      (r.find? names = none ∧ default = a) ∨
        ∃ field, r.find? names = some field ∧ read field.2 = .accepted a := by
  unfold Record.optionalAs
  split
  next name value found => simp [found]
  next missing => simp [missing]

/-! ## Values of a record -/

theorem Json.lookup?_cons (field : GivenText × Json) (rest : List (GivenText × Json)) (name : String) :
    lookup? (field :: rest) name =
      if field.1 = .text name then some field.2 else lookup? rest name :=
  Keyed.find?_cons field rest (.text name)

namespace Record

variable {α : Type} {r r' : Record} {names : List String} {read : Json → Checked α} {a default : α}

/-- The value of the first of several names that the object has. -/
def value? (r : Record) (names : List String) : Option Json := (r.find? names).map Prod.snd

theorem value?_cons (fields : List (GivenText × Json)) (name : String) (names : List String) :
    value? ⟨fields⟩ (name :: names) = (Json.lookup? fields name).or (value? ⟨fields⟩ names) := by
  unfold value? find?
  cases found : Json.lookup? fields name <;> simp [found]

theorem value?_singleton (fields : List (GivenText × Json)) (name : String) :
    value? ⟨fields⟩ [name] = Json.lookup? fields name := by
  rw [value?_cons]
  exact Option.or_none

theorem value?_pair (fields : List (GivenText × Json)) (first second : String) :
    value? ⟨fields⟩ [first, second] =
      (Json.lookup? fields first).or (Json.lookup? fields second) := by
  rw [value?_cons, value?_singleton]

/-- What a field is read as depends on its value alone; the name it was found under is only for
its faults. -/
theorem requiredAs_eq_accepted_iff_value? :
    r.requiredAs names read = .accepted a ↔
      ∃ value, r.value? names = some value ∧ read value = .accepted a := by
  rw [requiredAs_eq_accepted_iff]
  unfold value?
  cases r.find? names <;> simp

theorem optionalAs_eq_accepted_iff_value? :
    r.optionalAs names default read = .accepted a ↔
      (r.value? names = none ∧ default = a) ∨
        ∃ value, r.value? names = some value ∧ read value = .accepted a := by
  rw [optionalAs_eq_accepted_iff]
  unfold value?
  cases r.find? names <;> simp

theorem requiredAs_congr (same : r'.value? names = r.value? names) :
    r'.requiredAs names read = .accepted a ↔ r.requiredAs names read = .accepted a := by
  rw [requiredAs_eq_accepted_iff_value?, requiredAs_eq_accepted_iff_value?, same]

theorem optionalAs_congr (same : r'.value? names = r.value? names) :
    r'.optionalAs names default read = .accepted a ↔
      r.optionalAs names default read = .accepted a := by
  rw [optionalAs_eq_accepted_iff_value?, optionalAs_eq_accepted_iff_value?, same]

/-- A field whose value was rewritten is read as before if the value is. What is rewritten is
there, so the default is used for both or for neither. -/
theorem optionalAs_map {f : Json → Json} (mapped : r'.value? names = (r.value? names).map f)
    (agree : ∀ value, read (f value) = .accepted a ↔ read value = .accepted a) :
    r'.optionalAs names default read = .accepted a ↔
      r.optionalAs names default read = .accepted a := by
  rw [optionalAs_eq_accepted_iff_value?, optionalAs_eq_accepted_iff_value?, mapped]
  cases r.value? names with
  | none => simp
  | some value => simp [agree]

end Record

end ShaderGraph
