import Mathlib
import ShaderGraph.Proofs.Order.Final
import ShaderGraph.Proofs.Program.Repetition
import ShaderGraph.Proofs.Program.Statements

/-!
# The block that gives the color

The color of a fragment is the result of the block that is sorted last. Which one
that is can be told without sorting: it is the last block, in the order the ids first
occur, that no block in front of it depends on, directly or through others
(`Program.last_unled_gives_color`).
-/

namespace ShaderGraph

open Relation

namespace Sample

/-- A block that reads from `painted`. -/
def cover : Block := ⟨"cover", "tone", [("base", .connection "painted" "total")], .zero⟩

/-- Blocks of which the middle one comes last when they are sorted. -/
def layered : List Block := [painted, cover, primed]

end Sample

namespace Block

variable {c : Catalog} {blocks ordered : List Block} {b : Block} {i : Nat}

/-- The first block of an id in its place among the first blocks, and no first block in front
of it depends on it in one or more steps. -/
def Unled (c : Catalog) (blocks : List Block) (i : Nat) (b : Block) : Prop :=
  (firstOccurrences blocks)[i]? = some b ∧
    ∀ j earlier, j < i → (firstOccurrences blocks)[j]? = some earlier →
      ¬ TransGen (Depends c blocks) earlier.id b.id

/-- A first block has the place of its id, since the nodes of the network are the ids of the
first blocks in their order. -/
theorem getElem?_nodes_iff (first : Block.find? blocks b.id = some b) :
    (Dependencies.network c blocks).nodes[i]? = some b.id ↔
      (firstOccurrences blocks)[i]? = some b := by
  rw [Dependencies.nodes_network, firstOccurrences_eq_firsts, List.getElem?_map]
  constructor
  · intro placed
    obtain ⟨b', at_i, same⟩ := Option.map_eq_some_iff.mp placed
    have first' := mem_firsts_iff.mp (List.mem_of_getElem? at_i)
    rw [same, first] at first'
    cases first'
    exact at_i
  · intro at_i
    rw [at_i]
    rfl

/-- Nothing in front leads to a block when nothing in front leads to its id, so what is known
of walks can be said of blocks. -/
theorem unled_iff (first : Block.find? blocks b.id = some b) :
    Unled c blocks i b ↔
      (Dependencies.network c blocks).Unled (Dependencies.network c blocks).nodes i b.id := by
  rw [Unled, Network.Unled, getElem?_nodes_iff first, Dependencies.edge_eq_depends,
    Dependencies.nodes_network, firstOccurrences_eq_firsts]
  apply and_congr_right
  intro _
  constructor
  · intro unled j y before at_j
    rw [List.getElem?_map] at at_j
    obtain ⟨earlier, placed, rfl⟩ := Option.map_eq_some_iff.mp at_j
    exact unled j earlier before placed
  · intro unled j earlier before at_j
    exact unled j earlier.id before (by rw [List.getElem?_map, at_j]; rfl)

/-- The block that is sorted last is the last one to which nothing in front leads, by what is
known of walks in any network. -/
theorem exists_unled_of_getLast (sorted : Block.sort c blocks = .ok ordered)
    (last : ordered.getLast? = some b) :
    ∃ i, Unled c blocks i b ∧ ∀ k b', i < k → ¬ Unled c blocks k b' := by
  have first := (mem_iff_of_sort sorted).mp (List.mem_of_getLast? last)
  obtain ⟨order, walked, rfl⟩ := walk_of_sort sorted
  have ids := map_id_filterMap_find? blocks order fun x hx =>
    Dependencies.mem_nodes_iff.mp (((Network.walk_ok walked).mem_iff x).mp hx)
  have lastId : order.getLast? = some b.id := by
    rw [← ids, List.getLast?_map, last]
    rfl
  obtain ⟨i, unled, latest⟩ :=
    Network.walk_getLast (Dependencies.nodup_nodes c blocks) walked lastId
  refine ⟨i, (unled_iff first).mpr unled, ?_⟩
  intro k b' behind later
  have first' := List.mem_of_getElem? later.1
  rw [firstOccurrences_eq_firsts, mem_firsts_iff] at first'
  exact latest k b'.id behind ((unled_iff first').mp later)

/-- Nobody reads from the block that is sorted last, or it would stand in front of its
reader. -/
theorem not_reads_getLast (sorted : Block.sort c blocks = .ok ordered) {last : Block}
    (at_end : ordered.getLast? = some last) (hb : b ∈ ordered) : ¬ b.Reads c last.id := by
  intro reads
  have occurs : last.id ∈ blocks.map Block.id :=
    List.mem_map_of_mem (mem_of_mem_sort sorted (List.mem_of_getLast? at_end))
  have depends : Depends c blocks b.id last.id := ⟨⟨b, (mem_iff_of_sort sorted).mp hb, reads⟩, occurs⟩
  have lastId : (ordered.map Block.id).getLast? = some last.id := by
    rw [List.getLast?_map, at_end]
    rfl
  exact (inOrder_of_sort sorted).not_edge_getLast lastId b.id (Dependencies.edge_iff.mpr depends)

end Block

namespace Program

/-- **The block that is sorted last is the last one, in the order the ids first occur, to which
no block in front of it leads**, and no sorted block reads from it. If there is a program, this
block gives the color. -/
theorem last_unled_gives_color (c : Catalog) {blocks ordered : List Block} (nonempty : blocks ≠ [])
    (sorted : Block.sort c blocks = .ok ordered) :
    ∃ (i : Nat) (last : Block), ordered.getLast? = some last ∧ Block.Unled c blocks i last ∧
      (∀ k b, i < k → ¬ Block.Unled c blocks k b) ∧
      (∀ b ∈ ordered, ¬ b.Reads c last.id) ∧
      ∀ context p, generate c context blocks = .ok p →
        ∃ kind front, c.find? last.kindId = some kind ∧
          p.mainLines = front ++ ["  " ++ colorVariable ++ " = " ++
            kind.outputType.toColor (Names.result kind last.id) ++ ";", "\x7d"] := by
  have some_block := Block.sort_ne_nil sorted nonempty
  have at_end := List.getLast?_eq_some_getLast some_block
  obtain ⟨i, unled, latest⟩ := Block.exists_unled_of_getLast sorted at_end
  refine ⟨i, _, at_end, unled, latest, fun b hb => Block.not_reads_getLast sorted at_end hb, ?_⟩
  intro context p generated
  obtain ⟨last, kind, at_end', known, type_eq, output_eq⟩ := exists_last_of_generate generated sorted
  cases at_end.symm.trans at_end'
  rw [mainLines, type_eq, output_eq]
  exact ⟨kind, _, known, rfl⟩

/-- The block in the middle gives the color: the one behind it is read from in front. So it is
not simply the last block that counts. -/
theorem last_unled_gives_color_layered :
    Block.sort Sample.palette Sample.layered = .ok [Sample.primed, Sample.painted, Sample.cover] ∧
    (∃ i, Block.Unled Sample.palette Sample.layered i Sample.cover ∧
      ∀ k b, i < k → ¬ Block.Unled Sample.palette Sample.layered k b) ∧
    ∃ p front, generate Sample.palette .usual Sample.layered = .ok p ∧
      p.mainLines = front ++ ["  gl_FragColor = vec4(vec3(tone_cover_result), 1.0);", "\x7d"] := by
  have sorted : Block.sort Sample.palette Sample.layered =
      .ok [Sample.primed, Sample.painted, Sample.cover] := by cbv
  have accepted : (generate Sample.palette .usual Sample.layered).isOk = true := by decide +kernel
  have known : Sample.palette.find? Sample.cover.kindId = some Sample.tone := by cbv
  have color : "  " ++ colorVariable ++ " = " ++
      Sample.tone.outputType.toColor (Names.result Sample.tone Sample.cover.id) ++ ";" =
        "  gl_FragColor = vec4(vec3(tone_cover_result), 1.0);" := by decide +kernel
  obtain ⟨i, last, at_end, unled, latest, _, colored⟩ :=
    last_unled_gives_color Sample.palette (by simp [Sample.layered]) sorted
  have same : Sample.cover = last := Option.some.inj at_end
  subst same
  refine ⟨sorted, ⟨i, unled, latest⟩, ?_⟩
  cases generated : generate Sample.palette .usual Sample.layered with
  | error refusal => rw [generated] at accepted; cases accepted
  | ok p =>
    obtain ⟨kind, front, known', lines⟩ := colored .usual p generated
    cases known.symm.trans known'
    rw [color] at lines
    exact ⟨p, front, rfl, lines⟩

end Program

end ShaderGraph
