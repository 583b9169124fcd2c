import ShaderGraph.Service.Pattern
import ShaderGraph.Settings

/-!
# Routes

The routes of the service lie below a root, which may have holes of its own. They
come in groups, tried in order; within the groups, too, the first route that takes
the path and the method of a request answers it.

The settings decide whether there is a service at all. Even then a group may turn
out to be *broken*, because the holes of the root get in the way of its own: a
request that comes so far fails.
-/

namespace ShaderGraph.Service

/-! ## Methods -/

/-- The methods that routes take. -/
inductive Method
  | get
  | head
  | post
  deriving DecidableEq, Repr

/-- The name of a method. -/
def Method.name : Method → String
  | .get => "GET"
  | .head => "HEAD"
  | .post => "POST"

/-- A character in upper case, as far as it can matter in the name of a method: the
letters of ASCII, and the characters beyond whose upper case is in ASCII. -/
def upperChar (c : Char) : List Char :=
  match c.toNat with
  | 0xDF => ['S', 'S']
  | 0x131 => ['I']
  | 0x17F => ['S']
  | 0xFB00 => ['F', 'F']
  | 0xFB01 => ['F', 'I']
  | 0xFB02 => ['F', 'L']
  | 0xFB03 => ['F', 'F', 'I']
  | 0xFB04 => ['F', 'F', 'L']
  | 0xFB05 => ['S', 'T']
  | 0xFB06 => ['S', 'T']
  | _ => [c.toUpper]

/-- The name of a method, which a caller may write in any case. -/
def methodName (written : String) : String := String.ofList (written.toList.flatMap upperChar)

/-! ## Routes -/

/-- What can be asked of the service. -/
inductive Route
  /-- A page about the service. -/
  | page
  | kinds
  | categories
  | kind (id : String)
  | compile
  | check
  | order
  | connections
  | health
  deriving DecidableEq, Repr

/-- The texts for the holes of a pattern. -/
abbrev Captured := List (String × Hole × List Char)

/-- A path that leads to a route. -/
structure Entry where
  pattern : Pattern
  methods : List Method
  route : Captured → Route

/-- The routes of the service, in groups. There is no group where one is broken. -/
structure Table where
  groups : List (Option (List Entry))

/-- Why there is no service. -/
inductive StartFault
  /-- The service has no name or no version, or the root is no path. -/
  | unfit
  | repeatedNames (names : List String) (path : String)
  deriving DecidableEq, Repr

/-- The message of names that are repeated in a path. -/
def StartFault.repeatedMessage (names : List String) (path : String) : String :=
  "Duplicated param name" ++ (if 1 < names.length then "s " else " ") ++ String.intercalate ", " names
    ++ " at path " ++ path

namespace Table

/-- A path in a group, with the method it takes and the route it leads to. -/
abbrev Row := String × Method × (Captured → Route)

/-- The name of the hole for the id of a kind. -/
def kindHole : String := "kind_id"

/-- The pages about the service, which are not below the root. -/
def pages : List String := ["/openapi.json", "/docs", "/docs/oauth2-redirect", "/redoc"]

/-- The routes about kinds. -/
def kindRows : List Row := [
  ("/blocks", .get, fun _ => .kinds),
  ("/blocks/categories", .get, fun _ => .categories),
  ("/blocks/\x7b" ++ kindHole ++ "\x7d", .get, fun captured =>
    .kind ((Pattern.text? kindHole captured).getD ""))]

/-- The routes about graphs. -/
def graphRows : List Row := [
  ("/shaders/compile", .post, fun _ => .compile),
  ("/shaders/validate", .post, fun _ => .check),
  ("/shaders/order", .post, fun _ => .order),
  ("/shaders/connections", .post, fun _ => .connections)]

/-- The path of the route that tells how the service is. -/
def healthPath : String := "/health"

/-- The names that routes about kinds have for other things than holes of the
root. -/
def kindNames : List String := ["category"]

/-- The names that routes about graphs have for other things than holes of the
root. -/
def graphNames : List String := ["request"]

/-- The entry of a row below a root. -/
def entryOf (root : String) (row : Row) : Except PatternFault Entry :=
  (Pattern.ofText (root ++ row.1)).map fun pattern => ⟨pattern, [row.2.1], row.2.2⟩

/-- The group of rows below a root; none if it is broken. -/
def groupOf (root : String) (taken : List String) (rows : List Row) : Option (List Entry) :=
  match rows.mapM (entryOf root) with
  | .error _ => none
  | .ok entries =>
    if entries.any fun e => e.pattern.names.any taken.contains then none else some entries

/-- The group of the pages. -/
def pageEntries : List Entry :=
  pages.map fun path => ⟨⟨[.fixed path.toList]⟩, [.get, .head], fun _ => .page⟩

/-- The root is empty, or begins with a slash and does not end with one. -/
def isRoot (root : String) : Bool :=
  let cs := root.toList
  cs.isEmpty || (cs.head? = some '/' && cs.getLast? ≠ some '/')

/-- The routes of a service with the settings. -/
def ofSettings (s : Settings) : Except StartFault Table :=
  if s.appName.isEmpty || s.appVersion.isEmpty || !isRoot s.apiRoot then .error .unfit
  else
    match entryOf s.apiRoot (healthPath, .get, fun _ => .health) with
    | .error (.unknownHole _) => .error .unfit
    | .error (.repeatedNames names) => .error (.repeatedNames names (s.apiRoot ++ healthPath))
    | .ok health =>
      .ok ⟨[
        some pageEntries,
        groupOf s.apiRoot kindNames kindRows,
        groupOf s.apiRoot graphNames graphRows,
        some [health]]⟩

/-! ## Requests -/

/-- The entries in front of the first broken group. -/
def reachable (t : Table) : List Entry := (t.groups.takeWhile Option.isSome).flatMap (·.getD [])

/-- A group is broken. -/
def isBroken (t : Table) : Bool := t.groups.any Option.isNone

/-- The entries that a path leads to, each with the texts for its holes. -/
def hits (t : Table) (path : List Char) : List (Entry × Captured) :=
  t.reachable.filterMap fun e => (Pattern.fit? e.pattern.pieces path).map (e, ·)

/-- A hole has taken more digits than a number has. -/
def isOverlong (captured : Captured) : Bool :=
  captured.any fun (_, hole, text) => hole = .digits && Whole.maxDigits < text.length

/-- The path with its slashes at the end taken away, or with one put there. -/
def toggleSlash (path : List Char) : List Char :=
  if path.getLast? = some '/' then (path.reverse.dropWhile (· = '/')).reverse else path ++ ['/']

/-- What becomes of a request: a route answers it, its method is not taken, it is
sent to the path with or without a slash at the end, nobody knows it, or it fails
on the way. -/
inductive Match
  | route (route : Route)
  | wrongMethod
  | redirect
  | unknown
  | failure
  deriving DecidableEq, Repr

/-- What becomes of a request. -/
def select (t : Table) (method : String) (path : List Char) : Match :=
  let found := t.hits path
  let fails (hits : List (Entry × Captured)) : Bool := hits.any fun hit => isOverlong hit.2
  match found.find? fun hit => isOverlong hit.2 || hit.1.methods.any (·.name == method) with
  | some (entry, captured) => if isOverlong captured then .failure else .route (entry.route captured)
  | none =>
    if t.isBroken then .failure
    else if !found.isEmpty then .wrongMethod
    else
      let others := if path = ['/'] then [] else t.hits (toggleSlash path)
      if fails others then .failure else if others.isEmpty then .unknown else .redirect

end Table

end ShaderGraph.Service
