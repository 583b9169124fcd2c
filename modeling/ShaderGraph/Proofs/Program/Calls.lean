import Mathlib
import ShaderGraph.Proofs.Names.Basic
import ShaderGraph.Proofs.Names.Collision
import ShaderGraph.Proofs.Program.Acceptance

/-!
# The calls of a program

The main function of a program calls one function for each sorted block. Its
calls set variables of different names, to what functions of different names
return; and where a block holds a connection, its call reads the variable of the
block the connection comes from, which an earlier call has set
(`Program.generate_reads_earlier_results`).

Nothing is asked of the catalog or of the blocks beyond that they have a program.
-/

namespace ShaderGraph

/-- A call is that of a block of a kind: it sets the block's variable to what the
block's function returns, and passes one argument for each input. -/
structure Call.IsOf (call : Call) (kind : Kind) (id : String) : Prop where
  type : call.type = kind.outputType
  result : call.result = Names.result kind id
  function : call.function = Names.function kind id
  arguments : call.arguments.length = kind.inputs.length

/-! ## A small program -/

namespace Sample

/-- The call of `painted`. -/
def paintedCall : Call :=
  ⟨.float, "sum_painted_result", "sum_painted", ["tone_primed_result", "vec2(0.00, 0.00)"]⟩

/-- The program of `painting`. -/
def picture : Program where
  precision := .mediump
  uniforms := Program.standardUniforms
  definitions := ["tone_primed", "sum_painted"]
  calls := [⟨.float, "tone_primed_result", "tone_primed", ["iTime", "0.00"]⟩, paintedCall]
  outputType := .float
  output := "sum_painted_result"

end Sample

namespace Program

open Attempt

/-! ## Lists side by side -/

section SideBySide

variable {α β : Type} {R : α → β → Prop} {xs : List α} {ys : List β}

/-- What stands beside the item at a position stands at the same position, so blocks
and calls can be had from one another. -/
theorem forall₂_getElem? (each : List.Forall₂ R xs ys) {k : Nat} {x : α} (hx : xs[k]? = some x) :
    ∃ y, ys[k]? = some y ∧ R x y := by
  induction each generalizing k with
  | nil => cases hx
  | cons first _ ih =>
    cases k with
    | zero =>
      cases hx
      exact ⟨_, rfl, first⟩
    | succ k => exact ih hx

/-- Every call stands beside a block, as every item of the second list stands beside
one of the first. -/
theorem exists_mem_of_forall₂ (each : List.Forall₂ R xs ys) {y : β} (hy : y ∈ ys) :
    ∃ x ∈ xs, R x y := by
  induction each with
  | nil => cases hy
  | cons first _ ih =>
    rcases List.mem_cons.mp hy with rfl | hy
    · exact ⟨_, List.mem_cons_self, first⟩
    · obtain ⟨x, hx, h⟩ := ih hy
      exact ⟨x, List.mem_cons_of_mem _ hx, h⟩

/-- What stands beside the last item is the last of the other list. -/
theorem forall₂_getLast? (each : List.Forall₂ R xs ys) {y : β} (hy : ys.getLast? = some y) :
    ∃ x, xs.getLast? = some x ∧ R x y := by
  rw [List.getLast?_eq_getElem?, ← each.length_eq] at hy
  obtain ⟨x, hx, beside⟩ := forall₂_getElem? each.flip hy
  exact ⟨x, by rw [List.getLast?_eq_getElem?, hx], beside⟩

/-- A relation between the items of one list goes over to what stands beside them.
By induction on the pairs. -/
theorem pairwise_of_forall₂ {S : α → α → Prop} {T : β → β → Prop} (each : List.Forall₂ R xs ys)
    (apart : xs.Pairwise S) (carry : ∀ x x' y y', R x y → R x' y' → S x x' → T y y') :
    ys.Pairwise T := by
  induction each with
  | nil => exact .nil
  | cons first rest ih =>
    rw [List.pairwise_cons] at apart ⊢
    refine ⟨fun y' hy' => ?_, ih apart.2⟩
    obtain ⟨x', hx', h'⟩ := exists_mem_of_forall₂ rest hy'
    exact carry _ x' _ y' first h' (apart.1 x' hx')

end SideBySide

/-! ## The parts of a program -/

variable {c : Catalog} {context : Context} {blocks ordered : List Block} {b : Block} {p : Program}

/-- The call of a block, put together from its arguments: the type of its output,
the variable it sets, the function it calls and a text for each input. -/
theorem call_eq_ok_iff {call : Call} :
    Program.call c blocks b = .ok call ↔
      ∃ kind arguments, c.find? b.kindId = some kind ∧
        List.Forall₂ (fun port text => argument c blocks b port = .ok text) kind.inputs arguments ∧
        call = ⟨kind.outputType, Names.result kind b.id, Names.function kind b.id, arguments⟩ := by
  simp only [Program.call, bind_eq_ok_iff, kindOf_eq_ok_iff, mapM_eq_ok_iff]
  constructor
  · rintro ⟨kind, known, arguments, written, same⟩
    cases same
    exact ⟨kind, arguments, known, written, rfl⟩
  · rintro ⟨kind, arguments, known, written, rfl⟩
    exact ⟨kind, known, arguments, written, rfl⟩

/-- The call of a block has the names that its kind makes of the block's id. -/
theorem isOf_of_call {call : Call} {kind : Kind} (called : Program.call c blocks b = .ok call)
    (known : c.find? b.kindId = some kind) : call.IsOf kind b.id := by
  obtain ⟨_, arguments, same, written, rfl⟩ := call_eq_ok_iff.mp called
  cases known.symm.trans same
  exact ⟨rfl, rfl, rfl, written.length_eq.symm⟩

/-- A connection passes the variable of the block it comes from. The output has to
be there, but plays no part in the name. -/
theorem connectionArgument_eq_ok_iff {source output text : String} :
    connectionArgument c blocks b source output = .ok text ↔
      ∃ origin kind, Block.find? blocks source = some origin ∧
        c.find? origin.kindId = some kind ∧ (kind.findOutput? output).isSome ∧
        text = Names.result kind origin.id := by
  unfold connectionArgument
  cases found : Block.find? blocks source with
  | none => simp [reject]
  | some origin =>
    simp only [bind_eq_ok_iff, kindOf_eq_ok_iff, Option.some_inj]
    constructor
    · rintro ⟨kind, known, sent⟩
      cases out : kind.findOutput? output with
      | none => simp [out, reject] at sent
      | some port =>
        rw [out] at sent
        exact ⟨origin, kind, rfl, known, by simp [out], (Except.ok.inj sent).symm⟩
    · rintro ⟨_, kind, rfl, known, sent, rfl⟩
      refine ⟨kind, known, ?_⟩
      obtain ⟨port, out⟩ := Option.isSome_iff_exists.mp sent
      simp [out]

/-- A program has the calls of the sorted blocks, whose names do not collide; the
two are taken from what generation goes through. -/
theorem calls_of_generate (generated : generate c context blocks = .ok p) :
    ∃ ordered, Block.sort c blocks = .ok ordered ∧ Names.collisions c blocks = [] ∧
      List.Forall₂ (fun b call => Program.call c blocks b = .ok call) ordered p.calls := by
  obtain ⟨_, _, ordered, sort, apart, _, _, calls, called, _, _, rfl⟩ :=
    generate_eq_ok_iff.mp generated
  exact ⟨ordered, sort, apart, mapM_eq_ok_iff.mp called⟩

/-- The same, with every sorted block known to be one of those listed. -/
theorem listed_calls_of_generate (generated : generate c context blocks = .ok p) :
    ∃ ordered, Block.sort c blocks = .ok ordered ∧
      List.Forall₂ (fun b call => b ∈ blocks ∧ Program.call c blocks b = .ok call) ordered p.calls := by
  obtain ⟨ordered, sort, _, called⟩ := calls_of_generate generated
  have listed : ∀ b ∈ ordered, b ∈ blocks := fun b hb => Block.mem_of_mem_sort sort hb
  exact ⟨ordered, sort, (List.forall₂_and_left _ _).mpr ⟨listed, called⟩⟩

/-! ## The text of a program -/

/-- Every line of a program ends with a line break, the last one included. -/
theorem text_eq_join (p : Program) : p.text = String.join (p.lines.map (· ++ "\n")) := by
  have joined : ∀ (line : String) (lines : List String),
      String.intercalate "\n" (line :: lines) ++ "\n" =
        String.join ((line :: lines).map (· ++ "\n")) := by
    intro line lines
    induction lines generalizing line with
    | nil => simp [String.join_cons]
    | cons next rest ih =>
      rw [String.intercalate_cons_cons, String.append_assoc, ih next]
      simp only [List.map_cons, String.join_cons]
  exact joined _ _

/-- The main function stands at the end of a program, with its calls between the
coordinates and the color. -/
theorem text_eq_append_main (p : Program) :
    ∃ before, p.text = before ++ ("void main() \x7b\n  " ++ coordinatesLine ++ "\n\n" ++
      String.join (p.calls.map fun call => "  " ++ call.line ++ "\n") ++
      "  " ++ colorVariable ++ " = " ++ p.outputType.toColor p.output ++ ";\n\x7d\n") := by
  rw [text_eq_join, lines, List.map_append, String.join_append]
  refine ⟨_, congrArg (_ ++ ·) ?_⟩
  simp only [mainLines, List.map_append, List.map_map, String.join_append, List.map_cons,
    List.map_nil, String.join_cons, String.join_nil, Function.comp_def]
  simp only [← String.toList_inj, String.toList_append, List.append_assoc]
  rfl

/-! ## Names -/

/-- The names a call uses: those of its function and of its result. -/
def names (call : Call) : List String := [call.function, call.result]

/-- The calls of blocks with different ids have no name in common, since both names
of a call are among the identifiers that its block declares. -/
theorem disjoint_names_of_calls (apart : Names.collisions c blocks = []) {b b' : Block}
    {call call' : Call} (first : Block.find? blocks b.id = some b)
    (first' : Block.find? blocks b'.id = some b') (called : Program.call c blocks b = .ok call)
    (called' : Program.call c blocks b' = .ok call') (different : b.id ≠ b'.id) :
    (names call).Disjoint (names call') := by
  have declares : ∀ {b : Block} {call : Call}, Block.find? blocks b.id = some b →
      Program.call c blocks b = .ok call →
      ∀ name ∈ names call, (b.id, name) ∈ Names.declarations c blocks := by
    intro b call first called name hname
    obtain ⟨kind, _, known, _, rfl⟩ := call_eq_ok_iff.mp called
    refine Names.mem_declarations_iff.mpr ⟨b, kind, first, known, ?_⟩
    simp only [names, List.mem_cons, List.not_mem_nil, or_false] at hname
    rcases hname with rfl | rfl <;> simp [Names.declared]
  intro name hname hname'
  exact different (Names.collisions_eq_nil_iff.mp apart _ _ name (declares first called name hname)
    (declares first' called' name hname'))

/-- The names of the calls of a program are all different: those of one call by
their endings, those of different calls because nothing collides. -/
theorem nodup_names (sort : Block.sort c blocks = .ok ordered)
    (apart : Names.collisions c blocks = [])
    (called : List.Forall₂ (fun b call => Program.call c blocks b = .ok call) ordered p.calls) :
    (p.calls.flatMap names).Nodup := by
  rw [List.nodup_flatMap]
  constructor
  · intro call hcall
    obtain ⟨b, _, called⟩ := exists_mem_of_forall₂ called hcall
    obtain ⟨kind, _, _, _, rfl⟩ := call_eq_ok_iff.mp called
    simp [names, Names.function_ne_result]
  · have ids : ordered.Pairwise fun b b' => b.id ≠ b'.id :=
      List.pairwise_map.mp (Block.inOrder_of_sort sort).nodup
    have firsts : ordered.Pairwise fun b b' => Block.find? blocks b.id = some b ∧
        Block.find? blocks b'.id = some b' ∧ b.id ≠ b'.id :=
      List.Pairwise.imp_of_mem (fun hb hb' different =>
        ⟨(Block.mem_iff_of_sort sort).mp hb, (Block.mem_iff_of_sort sort).mp hb', different⟩) ids
    refine pairwise_of_forall₂ called firsts ?_
    rintro b b' call call' called called' ⟨first, first', different⟩
    exact disjoint_names_of_calls apart first first' called called' different

/-- Two calls of a program that set the same variable are the same call, so a
variable is set once. -/
theorem eq_of_result_eq (nodup : (p.calls.flatMap names).Nodup) {j j' : Nat} {call call' : Call}
    (at_j : p.calls[j]? = some call) (at_j' : p.calls[j']? = some call')
    (same : call.result = call'.result) : j = j' := by
  have results : (p.calls.map Call.result).Nodup := by
    rw [List.Nodup, List.pairwise_map]
    refine (List.nodup_flatMap.mp nodup).2.imp fun {call call'} apart same => ?_
    exact apart (a := call.result) (by simp [names]) (by simp [names, same])
  have inside : j < (p.calls.map Call.result).length := by
    rw [List.length_map]
    exact (List.getElem?_eq_some_iff.mp at_j).1
  refine (List.getElem?_inj inside results).mp ?_
  rw [List.getElem?_map, List.getElem?_map, at_j, at_j', Option.map_some, Option.map_some, same]

/-! ## Connections -/

/-- A sorted block stands behind the first block of an id it depends on, and that
block is in the order. -/
theorem exists_earlier_of_depends (sort : Block.sort c blocks = .ok ordered) {k : Nat}
    {source : String} (at_k : ordered[k]? = some b) (depends : Block.Depends c blocks b.id source) :
    ∃ j origin, j < k ∧ ordered[j]? = some origin ∧ Block.find? blocks source = some origin := by
  have named : (ordered.map Block.id)[k]? = some b.id := by rw [List.getElem?_map, at_k]; rfl
  obtain ⟨j, before, placed⟩ :=
    (Block.inOrder_of_sort sort).behind k b.id named source (Dependencies.edge_iff.mpr depends)
  rw [List.getElem?_map, Option.map_eq_some_iff] at placed
  obtain ⟨origin, at_j, rfl⟩ := placed
  exact ⟨j, origin, before, at_j, (Block.mem_iff_of_sort sort).mp (List.mem_of_getElem? at_j)⟩

/-- The call of a sorted block that holds a connection passes the variable of the
connection's source, which an earlier call sets. The source is in the order since
the block depends on it. -/
theorem connection_reads_earlier (sort : Block.sort c blocks = .ok ordered)
    (called : List.Forall₂ (fun b call => Program.call c blocks b = .ok call) ordered p.calls)
    {k i : Nat} {call : Call} {kind : Kind} {port : Port} {source output : String}
    (at_k : ordered[k]? = some b) (call_k : p.calls[k]? = some call)
    (known : c.find? b.kindId = some kind) (at_i : kind.inputs[i]? = some port)
    (held : b.value? port.id = some (.connection source output)) :
    ∃ (j : Nat) (origin : Block) (originKind : Kind) (earlier : Call),
      j < k ∧ ordered[j]? = some origin ∧ origin.id = source ∧
      c.find? origin.kindId = some originKind ∧ (originKind.findOutput? output).isSome ∧
      p.calls[j]? = some earlier ∧ earlier.result = Names.result originKind source ∧
      call.arguments[i]? = some earlier.result := by
  obtain ⟨_, call_k', called_k⟩ := forall₂_getElem? called at_k
  cases call_k.symm.trans call_k'
  obtain ⟨_, arguments, known', written, rfl⟩ := call_eq_ok_iff.mp called_k
  cases known.symm.trans known'
  obtain ⟨text, at_text, printed⟩ := forall₂_getElem? written at_i
  have connected : connectionArgument c blocks b source output = .ok text := by
    simpa only [argument, held] using printed
  obtain ⟨origin, originKind, found, originKnown, sent, rfl⟩ :=
    connectionArgument_eq_ok_iff.mp connected
  -- The source is listed, so the connection is a dependency, and sorting puts it in front.
  have reads : b.Reads c source := ⟨kind, port, output, known, List.mem_of_getElem? at_i, held⟩
  have depends : Block.Depends c blocks b.id source :=
    ⟨⟨b, (Block.mem_iff_of_sort sort).mp (List.mem_of_getElem? at_k), reads⟩,
      Block.exists_find?_iff.mp ⟨origin, found⟩⟩
  obtain ⟨j, _, before, at_j, found'⟩ := exists_earlier_of_depends sort at_k depends
  cases found.symm.trans found'
  obtain ⟨earlier, call_j, called_j⟩ := forall₂_getElem? called at_j
  have named := (isOf_of_call called_j originKnown).result
  have id_eq := Block.id_eq_of_find? found
  refine ⟨j, origin, originKind, earlier, before, at_j, id_eq, originKnown, sent, call_j, ?_, ?_⟩
  · rw [named, id_eq]
  · rw [at_text, named]

/-- **A program calls one function for each sorted block, in their order, and no
call reads a variable that is missing, set later, or set twice.** The names of
the functions and of the variables are all different; and for a connection of
the `k`-th block, its call passes the variable that one call sets, an earlier
one, namely that of the block the connection comes from. -/
theorem generate_reads_earlier_results (generated : generate c context blocks = .ok p) :
    ∃ ordered, Block.sort c blocks = .ok ordered ∧
      (∃ before, p.text = before ++ ("void main() \x7b\n  " ++ coordinatesLine ++ "\n\n" ++
        String.join (p.calls.map fun call => "  " ++ call.line ++ "\n") ++
        "  " ++ colorVariable ++ " = " ++ p.outputType.toColor p.output ++ ";\n\x7d\n")) ∧
      List.Forall₂ (fun b call => ∃ kind, c.find? b.kindId = some kind ∧ call.IsOf kind b.id)
        ordered p.calls ∧
      (p.calls.flatMap names).Nodup ∧
      ∀ (k i : Nat) (b : Block) (call : Call) (kind : Kind) (port : Port) (source output : String),
        ordered[k]? = some b → p.calls[k]? = some call → c.find? b.kindId = some kind →
        kind.inputs[i]? = some port → b.value? port.id = some (.connection source output) →
        ∃ (j : Nat) (origin : Block) (originKind : Kind),
          j < k ∧ ordered[j]? = some origin ∧ origin.id = source ∧
          c.find? origin.kindId = some originKind ∧ (originKind.findOutput? output).isSome ∧
          call.arguments[i]? = some (Names.result originKind source) ∧
          ∀ (l : Nat) (other : Call), p.calls[l]? = some other →
            (other.result = Names.result originKind source ↔ l = j) := by
  obtain ⟨ordered, sort, apart, called⟩ := calls_of_generate generated
  have nodup := nodup_names sort apart called
  refine ⟨ordered, sort, text_eq_append_main p, ?_, nodup, ?_⟩
  · refine called.imp fun b call called => ?_
    obtain ⟨kind, _, known, _⟩ := call_eq_ok_iff.mp called
    exact ⟨kind, known, isOf_of_call called known⟩
  · intro k i b call kind port source output at_k call_k known at_i held
    obtain ⟨j, origin, originKind, earlier, before, at_j, id_eq, originKnown, sent, call_j, named,
      passed⟩ := connection_reads_earlier sort called at_k call_k known at_i held
    refine ⟨j, origin, originKind, before, at_j, id_eq, originKnown, sent, by rw [passed, named], ?_⟩
    intro l other call_l
    constructor
    · exact fun same => eq_of_result_eq nodup call_l call_j (same.trans named.symm)
    · rintro rfl
      cases call_l.symm.trans call_j
      exact named

/-- The call of `painted` comes second and passes what the first call sets, though
`painted` is listed first. -/
theorem generate_reads_earlier_results_painting :
    generate Sample.palette .usual Sample.painting = .ok Sample.picture ∧
      (Sample.picture.calls.flatMap names).Nodup ∧
      ∃ (j : Nat) (origin : Block) (originKind : Kind), j < 1 ∧
        [Sample.primed, Sample.painted][j]? = some origin ∧ origin.id = "primed" ∧
        (originKind.findOutput? "shade").isSome ∧
        Sample.paintedCall.arguments[0]? = some (Names.result originKind "primed") := by
  have generated : generate Sample.palette .usual Sample.painting = .ok Sample.picture := by
    decide +kernel
  obtain ⟨ordered, sort, _, _, nodup, connections⟩ := generate_reads_earlier_results generated
  have sorted : Block.sort Sample.palette Sample.painting = .ok [Sample.primed, Sample.painted] := by
    cbv
  cases sort.symm.trans sorted
  obtain ⟨j, origin, originKind, before, at_j, id_eq, _, sent, passed, _⟩ :=
    connections 1 0 Sample.painted Sample.paintedCall Sample.sum (Sample.port "left") "primed" "shade"
      rfl rfl (by cbv) rfl (by cbv)
  exact ⟨generated, nodup, j, origin, originKind, before, at_j, id_eq, sent, passed⟩

end Program

end ShaderGraph
