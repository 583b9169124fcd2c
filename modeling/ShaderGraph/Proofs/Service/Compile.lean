import Mathlib
import ShaderGraph.Proofs.Program.Width
import ShaderGraph.Service.Basic

/-!
# What a request to compile is answered with

A request that could be read is answered with a program or with the reasons why
there is none. There is one exception: a number that is too wide to print stops
the compiler without a diagnostic, and the service has no answer but an internal
error (`Service.compile_answers_iff`).
-/

namespace ShaderGraph

/-! ## Two requests -/

namespace Sample

/-- The text of a request to compile a block of one colour that holds the inputs. -/
def paintText (inputs : String) : String :=
  "\x7b\"instances\":[\x7b\"id\":\"a\",\"kind_id\":\"color-solid\",\"input_values\":\x7b" ++ inputs
    ++ "\x7d\x7d]\x7d"

/-- The service is asked to compile a block of one colour that holds the inputs. -/
def paintRequest (inputs : String) : Service.Incoming :=
  ⟨Service.Method.post.name, "/api/shaders/compile", "application/json", paintText inputs⟩

/-- The block reads from a block that is not there, and then holds a number that is too
wide. -/
def danglingRequest : Service.Incoming := paintRequest "\"color\":\"b:color\",\"alpha\":1e26"

/-- Where the requests lead. -/
def compileTarget : Service.Target := ⟨"/api/shaders/compile".toList, []⟩

/-- The routes where nothing is set. -/
def routes : Service.Table := ((Service.Table.ofSettings .usual).toOption).getD ⟨[]⟩

/-- Ids for uniforms, all the same. -/
def idAt (_ : Nat) : String := "uniform"

/-- The number `10 ^ 26`, as near as there is one. -/
def vast : Binary64 := .finite false ⟨5820766091346741, 1108, by decide⟩

/-- A request with a number that is too wide. -/
def vastRequest : Request := ⟨⟨[⟨"a", "color-solid", [("alpha", .literal vast)], .zero⟩], []⟩, none⟩

/-- The routes in the example lead the target of compiling to the route that compiles. -/
theorem routes_compile :
    routes.select Service.Method.post.name compileTarget.path = .route .compile := by
  decide +kernel

end Sample

/-! ## Requests -/

section Requests

variable {idAt : Nat → String} {origin : Origin} {doc : Json} {r : Request}

/-- The blocks of a graph came out of its document, each from an item of the list; a graph
without this list has no blocks. -/
theorem Graph.parsed_of_readFields {fields : Record} {g : Graph}
    (accepted : Graph.readFields idAt origin fields = .accepted g) : ∀ b ∈ g.blocks, b.Parsed := by
  simp only [Graph.readFields, Graph.readBlocks, Checked.seq_eq_accepted_iff,
    Checked.map_eq_accepted_iff, Record.optional, Record.optionalAs_eq_accepted_iff,
    Checked.andThen_eq_accepted_iff] at accepted
  obtain ⟨_, _, ⟨blocks, listed, rfl⟩, _, rfl⟩ := accepted
  rcases listed with ⟨_, rfl⟩ | ⟨_, _, _, listed, counted⟩
  · simp
  · split at counted
    · exact absurd counted Checked.fail_ne_accepted
    · cases counted
      exact Read.forall_mem_of_list listed fun item b read => ⟨origin, item, read⟩

/-- The blocks of a request came out of its document, like those of the graph it holds. -/
theorem Request.parsed_of_read (accepted : Request.read idAt origin doc = .accepted r) :
    ∀ b ∈ r.graph.blocks, b.Parsed := by
  simp only [Request.read, Read.model_eq_accepted_iff, Checked.seq_eq_accepted_iff,
    Checked.map_eq_accepted_iff] at accepted
  obtain ⟨_, _, _, _, ⟨_, graph, rfl⟩, _, rfl⟩ := accepted
  exact Graph.parsed_of_readFields graph

/-- Compiling stops at a number when making the program does. What comes after the
program, sorting once more and checking, stops at none. -/
theorem Graph.compile_eq_numberTooWide_iff {c : Catalog} {precision : Precision} {g : Graph} :
    g.compile c precision = .error .numberTooWide ↔
      Program.generate c ⟨precision, g.uniforms⟩ g.blocks = .error .numberTooWide := by
  simp only [Graph.compile, Attempt.bind_eq_error_iff, Program.sorted_eq_error_iff]
  constructor
  · rintro (refused | ⟨_, _, ⟨_, _, cyclic⟩ | ⟨_, _, nothing⟩⟩)
    · exact refused
    · cases cyclic
    · cases nothing
  · exact .inl

end Requests

/-- A request to compile came to an end that the compiler answers for: a program, or
diagnostics that say why there is none. -/
def CompileAnswer.Answered (outcome : Except Refusal (CompileAnswer String)) : Prop :=
  (∃ answer, outcome = .ok answer) ∨ (∃ diagnostics, outcome = .error (.rejected diagnostics)) ∨
    ∃ block, outcome = .error (.cyclic block)

/-- Of all that compiling can give only the stop at a number is no answer: a program is
one, and diagnostics are another. -/
theorem CompileAnswer.answered_iff {outcome : Except Refusal (CompileAnswer String)} :
    Answered outcome ↔ outcome ≠ .error .numberTooWide := by
  unfold Answered
  cases outcome with
  | ok answer => simp
  | error refusal => cases refusal <;> simp

/-! ## Responses -/

/-- A list of texts can always be written, for none of them holds half a character. -/
theorem Json.isWritable_textsToJson (texts : List String) : (textsToJson texts).isWritable = true := by
  have items : Json.allWritable (texts.map Json.text) = true := by
    induction texts with
    | nil => rfl
    | cons text rest ih => simp [Json.allWritable, Json.isWritable, ih]
  exact items

/-- An object can be written when its first value and the others can; the name of the
field is a text. -/
theorem Json.isWritable_cons {name : String} {value : Json} {fields : List (GivenText × Json)}
    (writable : value.isWritable = true) (others : (Json.object fields).isWritable = true) :
    (Json.object ((.text name, value) :: fields)).isWritable = true := by
  simp only [Json.isWritable] at others
  simp [Json.isWritable, Json.allFieldsWritable, GivenText.isText, writable, others]

/-- The answer to compiling can always be written: it is made of texts and lists of
them. -/
theorem CompileAnswer.isWritable_toJson (answer : CompileAnswer String) :
    answer.toJson.isWritable = true :=
  Json.isWritable_cons rfl
    (Json.isWritable_cons (Json.isWritable_textsToJson _)
      (Json.isWritable_cons (Json.isWritable_textsToJson _) rfl))

namespace Service

theorem Response.sent_json {status : Nat} {value : Json} (writable : value.isWritable = true) :
    (Response.mk status (.json value)).sent = ⟨status, .json value⟩ := by
  simp [Response.sent, writable]

/-- A response with diagnostics is sent as it is, for messages are texts. -/
theorem Response.sent_diagnosed (messages : List String) :
    (Response.diagnosed messages).sent = Response.diagnosed messages :=
  sent_json (Json.isWritable_cons
    (Json.isWritable_cons (Json.isWritable_textsToJson messages) rfl) rfl)

/-- The status of what compiling comes to. -/
def statusOf : Except Refusal (CompileAnswer String) → Nat
  | .ok _ => 200
  | .error .numberTooWide => 500
  | .error _ => 422

/-- The status tells whether there was an answer: 200 and 422 stand for the two kinds of
answers, and 500 for none. -/
theorem statusOf_iff {outcome : Except Refusal (CompileAnswer String)} :
    (statusOf outcome = 200 ∨ statusOf outcome = 422 ↔ outcome ≠ .error .numberTooWide) ∧
      (statusOf outcome = 500 ↔ outcome = .error .numberTooWide) := by
  cases outcome with
  | ok answer => simp [statusOf]
  | error refusal => cases refusal <;> simp [statusOf]

variable {settings : Settings} {table : Table} {serial : Serial} {idAt : Nat → String} {count : Nat}
  {request : Incoming} {target : Target} {doc : Json} {r : Request}

/-- The response to what compiling comes to. -/
def responseTo : Except Refusal (CompileAnswer String) → Response
  | .ok answer => .ok answer.toJson
  | .error refusal => .refused refusal

theorem status_responseTo (outcome : Except Refusal (CompileAnswer String)) :
    (responseTo outcome).status = statusOf outcome := by
  cases outcome with
  | ok answer => rfl
  | error refusal => cases refusal <;> rfl

/-- For a request that is accepted the service sends the response to compiling its graph,
in the precision asked for or else the usual one. This response can be written, so nothing
comes between. -/
theorem sent_compile (accepted : Request.read idAt .body doc = .accepted r) :
    (Service.compile settings idAt doc).sent =
      responseTo (r.graph.compile .builtin (r.precision.getD settings.precision)) := by
  have modelled : (Request.read idAt .body doc).under (.name "body") = .accepted r :=
    Checked.under_eq_accepted_iff.mpr accepted
  simp only [Service.compile, withModel, modelled]
  cases r.graph.compile .builtin (r.precision.getD settings.precision) with
  | ok answer => exact Response.sent_json answer.isWritable_toJson
  | error refusal =>
    cases refusal with
    | numberTooWide => rfl
    | rejected diagnostics => exact Response.sent_diagnosed _
    | cyclic block => exact Response.sent_diagnosed _

/-- The response to a request that the route takes is what compiling its document sends.
Serial numbers and counters change nothing about it. -/
theorem respond_eq_sent_compile
    (routed : table.select request.method target.path = .route .compile)
    (read : document request = .ok doc) :
    (respond settings table serial idAt count request target).1 = (Service.compile settings idAt doc).sent := by
  simp only [respond, routed, Route.respond, Route.respond.withDocument, read]

/-- The status of that response is the one that stands for the outcome of compiling, so
the two ways of speaking about an answer come together here. -/
theorem status_respond (routed : table.select request.method target.path = .route .compile)
    (read : document request = .ok doc) (accepted : Request.read idAt .body doc = .accepted r) :
    (respond settings table serial idAt count request target).1.status =
      statusOf (r.graph.compile .builtin (r.precision.getD settings.precision)) := by
  rw [respond_eq_sent_compile routed read, sent_compile accepted, status_responseTo]

/-- **Compiling a request gives a program or diagnostics, unless it stops at a number.**
The service answers with 200 or 422 in the one case and fails with 500 in the other.
Compiling stops at a number when all is in order up to an argument that holds one too wide
to print: `10 ^ 26` or more when it is rounded to two places. -/
theorem compile_answers_iff {origin : Origin} (accepted : Request.read idAt origin doc = .accepted r) :
    (∀ precision, CompileAnswer.Answered (r.graph.compile .builtin precision) ↔
      ¬ Program.StopsAtNumber .builtin r.graph.blocks) ∧
    (origin = .body → ∀ (settings : Settings) (table : Table) (serial : Serial) (count : Nat)
      (request : Incoming) (target : Target),
      table.select request.method target.path = .route .compile → document request = .ok doc →
      let status := (respond settings table serial idAt count request target).1.status
      (status = 200 ∨ status = 422 ↔ ¬ Program.StopsAtNumber .builtin r.graph.blocks) ∧
      (status = 500 ↔ Program.StopsAtNumber .builtin r.graph.blocks)) := by
  have stops : ∀ precision, r.graph.compile .builtin precision = .error .numberTooWide ↔
      Program.StopsAtNumber .builtin r.graph.blocks := fun precision =>
    Graph.compile_eq_numberTooWide_iff.trans (Program.generate_eq_numberTooWide_iff
      Catalog.defaulted_builtin (Request.parsed_of_read accepted))
  constructor
  · intro precision
    rw [CompileAnswer.answered_iff, ne_eq, stops]
  · rintro rfl settings table serial count request target routed read
    simp only [status_respond routed read accepted, ← stops (r.precision.getD settings.precision)]
    exact statusOf_iff

/-- A body that is read as a request, in the form in which this can be evaluated: the test
keeps only whether both readings succeed. -/
theorem exists_request_of_reads (idAt : Nat → String) (request : Incoming)
    (reads : ((document request).toOption.bind fun doc =>
      ((Request.read idAt .body doc).toExcept Request.title .body).toOption).isSome = true) :
    ∃ doc r, document request = .ok doc ∧ Request.read idAt .body doc = .accepted r := by
  cases found : document request with
  | error response => simp [found, Except.toOption] at reads
  | ok doc =>
    rw [found] at reads
    obtain ⟨r, read⟩ := Option.isSome_iff_exists.mp reads
    exact ⟨doc, r, rfl, Checked.toOption_toExcept_eq_some_iff.mp read⟩

/-- A connection that leads nowhere is reported before the number behind it is reached, so
there is an answer although the number is too wide. -/
theorem compile_answers_iff_dangling :
    ∃ doc r, document Sample.danglingRequest = .ok doc ∧
      Request.read Sample.idAt .body doc = .accepted r ∧
      ¬ Program.StopsAtNumber .builtin r.graph.blocks := by
  obtain ⟨doc, r, read, accepted⟩ :=
    exists_request_of_reads Sample.idAt Sample.danglingRequest (by decide +kernel)
  have status : (respond .usual Sample.routes ⟨.whole 0, []⟩ Sample.idAt 0 Sample.danglingRequest
      Sample.compileTarget).1.status = 422 := by decide +kernel
  exact ⟨doc, r, read, accepted,
    ((compile_answers_iff accepted).2 rfl _ _ _ _ _ _ Sample.routes_compile read).1.mp (.inr status)⟩

/-- A request with a number that is too wide is not answered: compiling it gives neither
a program nor diagnostics, and the service fails. -/
theorem wide_number_unanswered :
    (∃ doc, Request.read Sample.idAt .body doc = .accepted Sample.vastRequest) ∧
    ¬ CompileAnswer.Answered (Sample.vastRequest.graph.compile .builtin .mediump) ∧
    (respond .usual Sample.routes ⟨.whole 0, []⟩ Sample.idAt 0 (Sample.paintRequest "\"alpha\":1e26")
      Sample.compileTarget).1.status = 500 := by
  refine ⟨⟨Sample.vastRequest.toJson, by cbv⟩, ?_, by decide +kernel⟩
  rw [CompileAnswer.answered_iff, ne_eq, not_not]
  decide +kernel

end Service

end ShaderGraph
