import ShaderGraph.Compile
import ShaderGraph.Edit.Basic
import ShaderGraph.Edit.Serial
import ShaderGraph.Kind.Builtin
import ShaderGraph.Service.Route
import ShaderGraph.Service.Target
import ShaderGraph.Text.Encoding

/-!
# The service

Kinds can be listed and looked up, and graphs can be compiled, checked, ordered
and asked for their connections. The graph comes as the body of a request.

Where uniforms are read, `idAt` gives the ids that are generated for them; no answer
shows these.

A body that does not fit its model is answered with all its faults. The report
quotes the values at fault; where one of them cannot be written as JSON, there is
no report and the answer is an internal error, as it is for every answer that
cannot be written and for every failure that the service does not answer for.
-/

namespace ShaderGraph.Service

/-! ## Messages -/

/-- A request. -/
structure Incoming where
  method : String
  target : GivenText
  /-- The media type of the body. -/
  mediaType : String
  body : GivenText

/-- The request can be written in bytes: its media type is plain ASCII and its body
is well formed. -/
def Incoming.hasBytes (request : Incoming) : Bool :=
  request.mediaType.toList.all (·.toNat < 128) && request.body.isText

/-- The target of a request. A request is written in bytes once its target has been
read as a reference, and before it is asked where the reference leads. -/
def Incoming.reached (request : Incoming) : Except Target.Fault Target :=
  match Target.ofText request.target with
  | .error .malformed => .error .malformed
  | target => if request.hasBytes then target else .error .illFormed

/-- The body of a response. -/
inductive Body
  | text (text : String)
  | json (value : Json)
  | faults (faults : List Fault)

/-- A response. -/
structure Response where
  status : Nat
  body : Body

namespace Response

/-- An answer. -/
def ok (value : Json) : Response := ⟨200, .json value⟩

/-- A refusal with a detail. -/
def refuse (status : Nat) (detail : Json) : Response := ⟨status, .json (.object [("detail", detail)])⟩

/-- A failure that the service does not answer for. -/
def internalError : Response := ⟨500, .text "Internal Server Error"⟩

/-- A request whose parts do not fit their models. -/
def invalid (faults : List Fault) : Response := ⟨422, .faults faults⟩

/-- A body that cannot be read at all. -/
def unreadable : Response := refuse 400 (.text "There was an error parsing the body")

/-- The response as it is sent, which is another one if it cannot be written. -/
def sent (r : Response) : Response :=
  let isWritable :=
    match r.body with
    | .text _ => true
    | .json value => value.isWritable
    | .faults faults => faults.all (·.value.isWritable)
  if isWritable then r else internalError

/-- A graph without a program or an order. -/
def diagnosed (messages : List String) : Response :=
  refuse 422 (.object [("diagnostics", textsToJson messages)])

/-- Why there is no program or no order. -/
def refused : Refusal → Response
  | .numberTooWide => internalError
  | refusal => diagnosed (refusal.diagnostics.map Diagnostic.message)

end Response

/-! ## Bodies -/

/-- The media type is one of JSON: the subtype is `json` or ends in `+json`. -/
def isJsonType (mediaType : String) : Bool :=
  let essence := (Target.split ';' mediaType.toList).1
  let (main, sub) := Target.split '/' (Text.lower (Text.strip (String.ofList essence))).toList
  main == "application".toList && !sub.contains '/'
    && (sub == "json".toList || "+json".toList.isSuffixOf sub)

/-- A response to a model of the body. -/
def withModel {α : Type} (model : Checked α) (respond : α → Response) : Response :=
  match model.under (.name "body") with
  | .accepted value => respond value
  | .refused faults => .invalid faults

/-- The response to a body without a document. -/
def noDocument (cause : Cause) : Response := .invalid [⟨cause, [.name "body"], .null⟩]

/-- The document that a text spells, or the response if there is none. -/
def documentOf (text : GivenText) : Except Response Json :=
  match (Text.meant? text).map (Json.readPoints .tolerant) with
  | some (.ok value) => .ok value
  | some (.error .malformed) => .error (noDocument .notJson)
  | _ => .error .unreadable

/-- The document of a body, or the response if there is none. A body of another
media type is a text. -/
def document (request : Incoming) : Except Response Json :=
  if request.body.isEmpty then .error (noDocument .missing)
  else if isJsonType request.mediaType then documentOf request.body
  else .ok (.ofGiven request.body)

/-! ## Answers about graphs -/

/-- The program that a document asks for. -/
def compile (settings : Settings) (idAt : Nat → String) (doc : Json) : Response :=
  withModel (Request.read idAt .body doc) fun r =>
    match r.graph.compile .builtin (r.precision.getD settings.precision) with
    | .ok answer => .ok answer.toJson
    | .error refusal => .refused refusal

/-- The problems of the graph of a document. -/
def check (idAt : Nat → String) (doc : Json) : Response :=
  withModel (Graph.read idAt .body doc) fun g => .ok (g.check .builtin).toJson

/-- The order of the graph of a document. -/
def order (idAt : Nat → String) (doc : Json) : Response :=
  withModel (Graph.read idAt .body doc) fun g =>
    match g.order .builtin with
    | .ok answer => .ok answer.toJson
    | .error refusal => .refused refusal

/-- The connections of the graph of a document, ids drawn after `count` others. -/
def connections (serial : Serial) (idAt : Nat → String) (count : Nat) (doc : Json) : Response :=
  withModel (Graph.read idAt .body doc) fun g =>
    let listed :=
      match serial.ids? Serial.connectionLabel with
      | some ids => (Connection.list (some .builtin) ids count g.blocks).toOption
      | none => if (Connection.ends g.blocks).isEmpty then some [] else none
    match listed with
    | some cs => .ok (.list (cs.map Connection.toJson))
    | none => .internalError

/-- How many ids the connections of a document's graph draw. -/
def drawnFor (idAt : Nat → String) (doc : Json) : Nat :=
  match Graph.read idAt .body doc with
  | .accepted g => Connection.drawnFor g.blocks
  | .refused _ => 0

/-! ## Answers about kinds -/

/-- The kinds, or those of the category that a query asks for. -/
def kinds (category : Option String) : Response :=
  match category with
  | none => .ok (.list (Catalog.builtin.kinds.map Kind.toJson))
  | some name =>
    match (Category.read (.text name)).under (.name "category") |>.under (.name "query") with
    | .accepted c => .ok (.list ((Catalog.builtin.listKinds c.name).map Kind.toJson))
    | .refused faults => .invalid faults

/-- A kind. -/
def kind (id : String) : Response :=
  match Catalog.builtin.find? id with
  | some k => .ok k.toJson
  | none => .refuse 404 (.text ("Block kind '" ++ id ++ "' not found"))

/-- How many kinds each category has. -/
def categories : Response :=
  .ok (.object (Catalog.builtin.categoryCounts.map fun c => (c.1, .int c.2)))

/-- A page about the service. What it says is not told here. -/
def page : Response := ⟨200, .text ""⟩

/-- The service is up. -/
def health (settings : Settings) : Response :=
  .ok (.object [
    ("status", .text "ok"),
    ("block_kinds", .int Catalog.builtin.kinds.length),
    ("shader_precision", .text settings.precision.name)])

/-! ## Requests -/

/-- The response to a request that a route takes. -/
def Route.respond (settings : Settings) (serial : Serial) (idAt : Nat → String) (count : Nat)
    (request : Incoming) (target : Target) : Route → Response
  | .page => Service.page
  | .kinds => Service.kinds (target.field? "category")
  | .categories => Service.categories
  | .kind id => Service.kind id
  | .health => Service.health settings
  | .compile => withDocument (Service.compile settings idAt)
  | .check => withDocument (Service.check idAt)
  | .order => withDocument (Service.order idAt)
  | .connections => withDocument (Service.connections serial idAt count)
where
  withDocument (respond : Json → Response) : Response :=
    match document request with
    | .ok doc => respond doc
    | .error response => response

/-- How many ids the response to a request draws. -/
def Route.draws (idAt : Nat → String) (request : Incoming) : Route → Nat
  | .connections =>
    match document request with
    | .ok doc => drawnFor idAt doc
    | .error _ => 0
  | _ => 0

/-- The response to a request for a target, and how many ids have been drawn after
it. -/
def respond (settings : Settings) (table : Table) (serial : Serial) (idAt : Nat → String)
    (count : Nat) (request : Incoming) (target : Target) : Response × Nat :=
  match table.select request.method target.path with
  | .route route =>
    ((route.respond settings serial idAt count request target).sent, count + route.draws idAt request)
  | .wrongMethod => (.refuse 405 (.text "Method Not Allowed"), count)
  | .redirect => (⟨307, .text ""⟩, count)
  | .unknown => (.refuse 404 (.text "Not Found"), count)
  | .failure => (.internalError, count)

/-- The responses to requests in turn, unless one of them cannot be made. Uniforms get
ids anew with each request, and `idsAt n` are those of the `n`th from here. A response
to a `HEAD` request has no body. -/
def respondAll (settings : Settings) (table : Table) (serial : Serial) (idsAt : Nat → Nat → String)
    (count : Nat) : List Incoming → Except Target.Fault (List Response)
  | [] => .ok []
  | request :: rest => do
    let target ← request.reached
    let request := { request with method := methodName request.method }
    let (response, count) := respond settings table serial (idsAt 0) count request target
    let response :=
      if request.method = Method.head.name then { response with body := .text "" } else response
    let others ← respondAll settings table serial (fun n => idsAt (n + 1)) count rest
    .ok (response :: others)

end ShaderGraph.Service
