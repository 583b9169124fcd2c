import ShaderGraph.Number.Whole
import ShaderGraph.Service.Host
import ShaderGraph.Text.Percent
import ShaderGraph.Text.Quoted

/-!
# Request targets

A caller writes a target as a reference: a path and a query, in front of which a
scheme and an authority may stand, and behind which a fragment may. A reference
with a scheme and a host is taken as it is; any other is taken relative to the
service, whatever it names.

In the path, single dots and two dots are resolved as they are written; only then
is it percent-decoded. The fragment is dropped.
-/

namespace ShaderGraph.Service

/-- A request target. -/
structure Target where
  path : List Char
  query : List (String × String)

namespace Target

/-- Why no request can be made. -/
inductive Fault
  /-- The target is no reference. -/
  | malformed
  /-- The target or another part of the request has no bytes. -/
  | illFormed
  /-- The scheme is none that requests are made with. -/
  | unknownScheme
  /-- What follows the first colon of the host and its port is no number. -/
  | badPort (text : String)
  /-- The scheme is that of a lasting connection and not of a request. -/
  | notRequest
  deriving DecidableEq, Repr

/-! ## References -/

/-- A text up to a mark, and the text behind it. -/
def split (mark : Char) (cs : List Char) : List Char × List Char :=
  (Text.cut? mark cs).getD (cs, [])

/-- Where a host is reached. The user comes in front of the host. -/
structure Authority where
  user : List Char
  host : List Char
  port : Option Int

/-- Nothing is said. -/
def Authority.isEmpty (a : Authority) : Bool := a.user.isEmpty && a.host.isEmpty && a.port.isNone

/-- A reference. The path is resolved where it is absolute. -/
structure Reference where
  scheme : List Char
  authority : Authority
  path : List Char
  query : Option (List Char)
  fragment : Option (List Char)

/-- The scheme in front of a colon, and what follows. A colon in front of
everything closes an empty scheme. -/
def spanScheme (cs : List Char) : List Char × List Char :=
  let isSchemeChar (c : Char) : Bool := c.isAlphanum || c = '+' || c = '.' || c = '-'
  let scheme := cs.takeWhile isSchemeChar
  match cs.drop scheme.length with
  | ':' :: rest => if scheme.isEmpty || scheme.head?.any Char.isAlpha then (scheme, rest) else ([], cs)
  | _ => ([], cs)

/-- The text of an authority, which follows two slashes, and what follows it. -/
def spanAuthority : List Char → List Char × List Char
  | '/' :: '/' :: cs =>
    let ends (c : Char) : Bool := c = '/' || c = '?' || c = '#'
    (cs.takeWhile (!ends ·), cs.dropWhile (!ends ·))
  | cs => ([], cs)

/-- The text in front of the last occurrence of a mark, and the text behind it. -/
def cutLast? (mark : Char) (cs : List Char) : Option (List Char × List Char) :=
  (Text.cut? mark cs.reverse).map fun (behind, front) => (front.reverse, behind.reverse)

/-- The host in front of an authority without its user, and what follows. A host in
brackets reaches to the last of them. -/
def spanHost (cs : List Char) : List Char × List Char :=
  match cs, cutLast? ']' cs with
  | '[' :: _, some (front, behind) => (front ++ [']'], behind)
  | _, _ => (cs.takeWhile (· ≠ ':'), cs.dropWhile (· ≠ ':'))

/-- The authority that a text writes. -/
def Authority.ofText (cs : List Char) : Except Fault Authority :=
  let (user, rest) := (cutLast? '@' cs).getD ([], cs)
  let (host, rest) := spanHost rest
  let port := if rest.head? = some ':' then rest.drop 1 else rest
  if !Host.isValid host then .error .malformed
  else if port.isEmpty then .ok ⟨user, host, none⟩
  else
    match Whole.read? (String.ofList port) with
    | some n => .ok ⟨user, host, some n⟩
    | none => .error .malformed

/-- The segments left of a path when its dots are resolved. -/
def resolve (segments : List (List Char)) : List (List Char) :=
  segments.foldl
    (fun kept segment =>
      if segment = ['.'] then kept
      else if segment = ['.', '.'] then
        if kept = [[]] then kept else kept.dropLast
      else kept ++ [segment])
    []

/-- A path with its dots resolved. -/
def resolvePath (cs : List Char) : List Char :=
  List.intercalate ['/'] (resolve (Text.pieces '/' cs))

/-- A control character of ASCII. -/
def isControl (c : Char) : Bool := c.toNat < 0x20 || c.toNat = 0x7F

/-- A reference has no more characters than this. -/
def maxLength : Nat := 65536

/-- The reference that a text writes. That the text is ill-formed shows last, when all
else has been looked at. -/
def Reference.ofText (text : GivenText) : Except Fault Reference := do
  let cs := text.replaced.toList
  if maxLength < cs.length || cs.any isControl then .error .malformed
  else
    let (scheme, rest) := spanScheme cs
    let (authority, rest) := spanAuthority rest
    let authority ← Authority.ofText authority
    let (rest, fragment) :=
      match Text.cut? '#' rest with
      | some (front, fragment) => (front, some fragment)
      | none => (rest, none)
    let (path, query) :=
      match Text.cut? '?' rest with
      | some (path, query) => (path, some query)
      | none => (rest, none)
    let isRelative := scheme.isEmpty && authority.isEmpty
    if isRelative && (['/', '/'].isPrefixOf path || path.head? = some ':') then .error .malformed
    else if !text.isText then .error .illFormed
    else
      .ok {
        scheme := scheme.map Char.toLower
        authority := authority
        path := if isRelative then path else resolvePath path
        query := query
        fragment := fragment }

/-! ## Targets -/

/-- How long a text is when the characters outside of a set are percent-encoded. -/
def encodedLength (isKept : Char → Bool) : List Char → Nat
  | [] => 0
  | c :: cs => (if isKept c then 1 else 3 * (Text.bytes [c]).length) + encodedLength isKept cs

/-- A character that a query keeps as it is. -/
def isQueryChar (c : Char) : Bool :=
  0x20 < c.toNat && c.toNat < 0x7F && !(['\x22', '#', '<', '>'].contains c)

/-- A character that a path keeps as it is. -/
def isPathChar (c : Char) : Bool :=
  isQueryChar c && !(['?', '\x60', '\x7b', '\x7d'].contains c)

/-- The fields of a query. -/
def queryOf (cs : List Char) : List (String × String) :=
  ((Text.pieces '&' cs).filter (!·.isEmpty)).map fun field =>
    let (name, value) := split '=' field
    (String.ofList (Text.formDecode name), String.ofList (Text.formDecode value))

/-- The target of a path, which is not empty, and a query. -/
def ofParts (path : List Char) (query : Option (List Char)) : Target :=
  ⟨Text.percentDecode (if path.isEmpty then ['/'] else path), queryOf (query.getD [])⟩

/-- The target of a reference taken relative to the service. -/
def relative (r : Reference) : Except Fault Target :=
  let path := '/' :: r.path.dropWhile (· = '/')
  let isTooLong :=
    maxLength < encodedLength isPathChar path || maxLength < encodedLength isQueryChar (r.query.getD [])
  if isTooLong then .error .malformed else .ok (ofParts (resolvePath path) r.query)

/-- The schemes that requests are made with. -/
def requestSchemes : List String := ["http", "https"]

/-- The schemes of lasting connections. -/
def lastingSchemes : List String := ["ws", "wss"]

/-- The port of a scheme where none is written. -/
def usualPort (scheme : String) : Int := if scheme = "http" ∨ scheme = "ws" then 80 else 443

/-- The text behind the first colon of a host in brackets, with its port. -/
def behindColon (scheme : String) (a : Authority) : String :=
  let port := a.port.filter (· ≠ usualPort scheme)
  String.ofList (split ':' a.host).2 ++ (port.map fun n => ":" ++ toString n).getD ""

/-- The target of a reference taken as it is. -/
def absolute (r : Reference) : Except Fault Target :=
  let scheme := String.ofList r.scheme
  if !(requestSchemes ++ lastingSchemes).contains scheme then .error .unknownScheme
  else if r.authority.host.contains ':' then .error (.badPort (behindColon scheme r.authority))
  else if lastingSchemes.contains scheme then .error .notRequest
  else .ok (ofParts r.path r.query)

/-- The target that a text writes. -/
def ofText (text : GivenText) : Except Fault Target := do
  let r ← Reference.ofText text
  if r.scheme.isEmpty || r.authority.host.isEmpty then relative r else absolute r

/-- The message of a port that is no number. -/
def badPortMessage (text : String) : String :=
  "invalid literal for int() with base 10: " ++ Text.quoted text

/-- The value of a query field; of several the last holds. -/
def field? (t : Target) (name : String) : Option String :=
  (t.query.reverse.find? (·.1 == name)).map (·.2)

end Target

end ShaderGraph.Service
