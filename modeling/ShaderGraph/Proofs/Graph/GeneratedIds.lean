import Mathlib.Data.List.Forall2
import ShaderGraph.Compile
import ShaderGraph.Proofs.Program.Uniforms

/-!
# Generated ids

A uniform whose document gives no id gets one when it is read, and the next reading
of the same document gives it another. `Graph.SameButIds` relates what two readings
with different supplies of ids give: the same blocks, and the same uniforms in the
same places, apart from ids that were generated in both.

Two readings of one document are related in that way or are refused with the same
faults (`Graph.related_readFields`), and related graphs have the same answers
(`Graph.SameButIds.compile_eq`): an id is a label that nothing looks at.
-/

namespace ShaderGraph

/-! ## Results that differ in their values only -/

namespace Checked

variable {α β γ δ : Type}

/-- Two results are the same faults, or values that a relation holds of. -/
inductive Related (R : α → β → Prop) : Checked α → Checked β → Prop
  | accepted {a : α} {b : β} (related : R a b) : Related R (.accepted a) (.accepted b)
  | refused (faults : List Fault) : Related R (.refused faults) (.refused faults)

namespace Related

variable {R : α → β → Prop} {S : γ → δ → Prop} {x : Checked α} {y : Checked β}

/-- A result is related to itself when its value is, whatever that value may be. -/
theorem refl {R : α → α → Prop} (same : ∀ a, R a a) (x : Checked α) : Related R x x := by
  cases x with
  | accepted a => exact .accepted (same a)
  | refused faults => exact .refused faults

/-- Related results are related below a field or an index as well, for the faults on both sides
get the same step. -/
theorem under (related : Related R x y) (step : Step) : Related R (x.under step) (y.under step) := by
  cases related with
  | accepted related => exact .accepted related
  | refused faults => exact .refused _

/-- Functions that take related values to related ones take related results to related ones;
faults are passed on as they are. -/
theorem map {f : α → γ} {g : β → δ} (related : Related R x y)
    (mapped : ∀ {a b}, R a b → S (f a) (g b)) : Related S (x.map f) (y.map g) := by
  cases related with
  | accepted related => exact .accepted (mapped related)
  | refused faults => exact .refused faults

/-- Two readings side by side are related when the functions in front take related values
to related ones; the faults of both sides are the same and add up to the same. -/
theorem seq {f : Checked (α → γ)} {g : Checked (β → δ)}
    (functions : Related (fun f g => ∀ {a b}, R a b → S (f a) (g b)) f g) (values : Related R x y) :
    Related S (f.seq fun _ => x) (g.seq fun _ => y) := by
  cases functions with
  | accepted functions => exact values.map functions
  | refused faults =>
    cases values with
    | accepted _ => exact .refused faults
    | refused more => exact .refused (faults ++ more)

/-- A further part that is read in one way on both sides. Of the fields of a uniform all but the
id are of this kind. -/
theorem seq_same {f : Checked (α → γ)} {g : Checked (α → δ)}
    (functions : Related (fun f g => ∀ a, S (f a) (g a)) f g) (x : Checked α) :
    Related S (f.seq fun _ => x) (g.seq fun _ => x) := by
  refine Related.seq (R := Eq) ?_ (.refl (fun _ => rfl) x)
  cases functions with
  | accepted functions =>
    refine .accepted fun {a b} same => ?_
    rw [← same]
    exact functions a
  | refused faults => exact .refused faults

end Related

end Checked

namespace Read

open Checked

variable {α β : Type} {R : Nat → α → β → Prop} {read : Nat → Json → Checked α}
  {read' : Nat → Json → Checked β}

/-- Items that are related by their places make lists that are related place by place. The
induction is on the items, with the index of the first of them going up. -/
theorem related_itemsFrom (related : ∀ n item, Related (R n) (read n item) (read' n item)) :
    ∀ (index : Nat) (items : List Json),
      Related (fun xs ys => List.Forall₂ (fun x y => R x.2 x.1 y) (xs.zipIdx index) ys)
        (itemsFrom read index items) (itemsFrom read' index items)
  | _, [] => .accepted .nil
  | index, item :: rest =>
    (((related index item).under (.index index)).map fun first _ _ others => .cons first others).seq
      (related_itemsFrom related (index + 1) rest)

/-- A list read with the places of its items is related place by place. What is no list is
refused in the same way on both sides. -/
theorem related_indexedList (related : ∀ n item, Related (R n) (read n item) (read' n item))
    (document : Json) :
    Related (fun xs ys => List.Forall₂ (fun x y => R x.2 x.1 y) xs.zipIdx ys)
      (indexedList read document) (indexedList read' document) := by
  cases document with
  | list items => exact related_itemsFrom related 0 items
  | _ => exact .refused _

end Read

/-! ## Uniforms -/

namespace Uniform

/-- Two uniforms are the same, apart from ids that were generated for both. -/
def SameButId (id id' : String) (u u' : Uniform) : Prop :=
  u' = u ∨ u.id = .text id ∧ u' = { u with id := .text id' }

/-- Two lists of uniforms are the same, apart from ids that were generated for uniforms in the
same place. -/
def SameButIds (idAt idAt' : Nat → String) (us us' : List Uniform) : Prop :=
  List.Forall₂ (fun u u' => SameButId (idAt u.2) (idAt' u.2) u.1 u') us.zipIdx us'

variable {id id' : String} {idAt idAt' : Nat → String} {u u' : Uniform} {us us' : List Uniform}

/-- A program declares a uniform by its type and name, which no generated id touches. -/
theorem SameButId.declaration_eq (same : SameButId id id' u u') : u'.declaration = u.declaration := by
  rcases same with rfl | ⟨_, rfl⟩
  · rfl
  · rfl

/-- Uniforms that differ in generated ids have the same declarations, one after the other. -/
theorem SameButIds.declarations_eq (same : SameButIds idAt idAt' us us') :
    us'.map declaration = us.map declaration := by
  have places : us.zipIdx.map (declaration ∘ Prod.fst) = us'.map declaration := by
    rw [← List.forall₂_eq_eq_eq, List.forall₂_map_left_iff, List.forall₂_map_right_iff]
    exact same.imp fun _ _ same => same.declaration_eq.symm
  rw [← places, ← List.map_map, List.zipIdx_map_fst]

/-- A uniform is read in the same way whatever id waits for it: where the document gives an id
the readings are one and the same, and elsewhere they differ in that field. -/
theorem related_read (id id' : String) (origin : Origin) (document : Json) :
    Checked.Related (SameButId id id') (read id origin document) (read id' origin document) := by
  cases document with
  | object fields =>
    have given : ∀ u : Uniform, SameButId id id' u u := fun u => .inl rfl
    cases found : Record.find? ⟨fields⟩ ["id"] with
    | some field =>
      have same : Uniform.read id origin (.object fields) = Uniform.read id' origin (.object fields) := by
        simp only [Uniform.read, Read.model, Record.optional, Record.optionalAs, found]
      rw [same]
      exact .refl given _
    | none =>
      have generated : ∀ id, Record.optional ⟨fields⟩ "id" (.text id) Read.text = .accepted (.text id) := by
        intro id
        rw [Record.optional, Record.optionalAs, found]
      refine .seq_same (.seq_same (.seq_same (.seq_same (.seq_same (.seq_same ?_ _) _) _) _) _) _
      rw [generated, generated]
      exact .accepted fun _ _ _ _ _ _ => .inr ⟨rfl, rfl⟩
  | _ => exact .refused _

/-- Uniforms are read in the same way whatever ids wait for them, each at its own place in the
list. -/
theorem related_readAll (idAt idAt' : Nat → String) (origin : Origin) (document : Json) :
    Checked.Related (SameButIds idAt idAt') (readAll idAt origin document)
      (readAll idAt' origin document) :=
  Read.related_indexedList (fun n => related_read (idAt n) (idAt' n) origin) document

end Uniform

/-! ## Graphs -/

namespace Graph

/-- Two graphs are the same, apart from ids that were generated for uniforms in the same
place. -/
structure SameButIds (idAt idAt' : Nat → String) (g g' : Graph) : Prop where
  blocks : g'.blocks = g.blocks
  uniforms : Uniform.SameButIds idAt idAt' g.uniforms g'.uniforms

variable {idAt idAt' : Nat → String} {g g' : Graph}

/-- **Two readings of one document differ in generated ids only.** Whether it is read, and with
which faults it is refused, does not depend on the ids that wait for its uniforms. -/
theorem related_readFields (idAt idAt' : Nat → String) (origin : Origin) (r : Record) :
    Checked.Related (SameButIds idAt idAt') (readFields idAt origin r)
      (readFields idAt' origin r) := by
  have uniforms : Checked.Related (Uniform.SameButIds idAt idAt')
      (r.optional "uniforms" [] (Uniform.readAll idAt origin))
      (r.optional "uniforms" [] (Uniform.readAll idAt' origin)) := by
    unfold Record.optional Record.optionalAs
    split
    next name value found => exact (Uniform.related_readAll idAt idAt' origin value).under _
    next absent => exact .accepted .nil
  refine .seq ?_ uniforms
  exact .map (.refl (fun _ => rfl) _) fun {a b} (same : a = b) _ _ uniforms => ⟨same.symm, uniforms⟩

/-- The same for a whole document, which must be an object before its fields can be read. -/
theorem related_read (idAt idAt' : Nat → String) (origin : Origin) (document : Json) :
    Checked.Related (SameButIds idAt idAt') (Graph.read idAt origin document)
      (Graph.read idAt' origin document) := by
  cases document with
  | object fields => exact related_readFields idAt idAt' origin ⟨fields⟩
  | _ => exact .refused _

namespace SameButIds

/-- Graphs that differ in generated ids have one program: it declares uniforms by type and name,
and everything else in it comes from the blocks. -/
theorem compile_eq (same : SameButIds idAt idAt' g g') (c : Catalog) (precision : Precision) :
    g'.compile c precision = g.compile c precision := by
  have declared : Program.declareUniforms g'.uniforms = Program.declareUniforms g.uniforms := by
    rw [Program.declareUniforms_eq_foldl, Program.declareUniforms_eq_foldl,
      same.uniforms.declarations_eq]
  simp only [compile, Program.generate, same.blocks, declared]

/-- The check looks at blocks only, and so finds the same problems in graphs that differ in
generated ids. -/
theorem check_eq (same : SameButIds idAt idAt' g g') (c : Catalog) : g'.check c = g.check c := by
  simp only [check, same.blocks]

/-- Sorting looks at blocks only, and so gives the same order for graphs that differ in
generated ids. -/
theorem order_eq (same : SameButIds idAt idAt' g g') (c : Catalog) : g'.order c = g.order c := by
  simp only [order, same.blocks]

end SameButIds

end Graph

end ShaderGraph
