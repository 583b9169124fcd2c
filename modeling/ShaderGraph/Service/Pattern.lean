import ShaderGraph.Text.Hex

/-!
# Path patterns

A pattern is a path with holes. A hole is a name in braces, and may say what it
takes: `{id}` takes a segment, `{id:int}` digits. Braces around anything else are
braces.

A path fits a pattern if some choice of texts for the holes gives the path; of
several choices the one counts whose texts are longest from left to right. A line
break at the end of the path may be left over.
-/

namespace ShaderGraph.Service

/-- What a hole takes. -/
inductive Hole
  /-- A text without slashes. -/
  | segment
  /-- A text without line breaks, which may be empty. -/
  | anything
  | digits
  /-- Digits with or without a fraction. -/
  | decimal
  /-- Hexadecimal digits in groups of eight, three times four, and twelve. -/
  | uuid
  deriving DecidableEq, Repr

/-- A part of a pattern. -/
inductive Piece
  | fixed (text : List Char)
  | hole (name : String) (hole : Hole)
  deriving DecidableEq, Repr

/-- A path with holes. -/
structure Pattern where
  pieces : List Piece
  deriving DecidableEq, Repr

/-- Why a text is no pattern. -/
inductive PatternFault
  | unknownHole (word : String)
  | repeatedNames (names : List String)
  deriving DecidableEq, Repr

namespace Hole

/-- What a hole takes, by the word for it. -/
def ofWord? : String → Option Hole
  | "str" => some .segment
  | "path" => some .anything
  | "int" => some .digits
  | "float" => some .decimal
  | "uuid" => some .uuid
  | _ => none

/-- The lengths from `n` down to one. -/
def downFrom (n : Nat) : List Nat := (List.range n).reverse.map (· + 1)

/-- How far groups of hexadecimal digits reach, between which hyphens may stand. -/
def groupsLength? : List Nat → List Char → Option Nat
  | [], _ => some 0
  | size :: rest, cs =>
    let group := cs.take size
    let behind := cs.drop size
    let hyphen := if !rest.isEmpty && behind.head? = some '-' then 1 else 0
    if group.length = size && group.all (Text.hexDigitValue? · |>.isSome) then
      (groupsLength? rest (behind.drop hyphen)).map (size + hyphen + ·)
    else none

/-- The lengths of the texts at the front that a hole can take, the preferred ones
first. -/
def lengths (hole : Hole) (cs : List Char) : List Nat :=
  match hole with
  | .segment => downFrom (cs.takeWhile (· ≠ '/')).length
  | .anything => downFrom (cs.takeWhile (· ≠ '\n')).length ++ [0]
  | .digits => downFrom (cs.takeWhile Char.isDigit).length
  | .decimal =>
    let whole := (cs.takeWhile Char.isDigit).length
    let fraction :=
      match cs.drop whole with
      | '.' :: places => downFrom (places.takeWhile Char.isDigit).length
      | _ => []
    if whole = 0 then [] else fraction.map (whole + 1 + ·) ++ downFrom whole
  | .uuid => (groupsLength? [8, 4, 4, 4, 12] cs).toList

end Hole

namespace Pattern

/-! ## Reading patterns -/

/-- A name in front: a letter or underscore, then letters, digits and
underscores. -/
def spanName? : List Char → Option (List Char × List Char)
  | [] => none
  | c :: cs =>
    let isWord (c : Char) : Bool := c.isAlphanum || c == '_'
    if c.isAlpha || c == '_' then some (c :: cs.takeWhile isWord, cs.dropWhile isWord) else none

/-- The name and the word of a hole behind its opening brace, and what follows
it. -/
def spanHole? (cs : List Char) : Option (String × String × List Char) := do
  let (name, rest) ← spanName? cs
  let (word, rest) ←
    match rest with
    | ':' :: rest => spanName? rest
    | rest => some ("str".toList, rest)
  match rest with
  | '\x7d' :: rest => some (String.ofList name, String.ofList word, rest)
  | _ => none

/-- A character in front of pieces. -/
def consChar (c : Char) : List Piece → List Piece
  | .fixed text :: rest => .fixed (c :: text) :: rest
  | pieces => .fixed [c] :: pieces

/-- The pieces of a text. The fuel is the length of the text. -/
def piecesOf : Nat → List Char → Except PatternFault (List Piece)
  | 0, _ => .ok []
  | _, [] => .ok []
  | fuel + 1, c :: cs =>
    match if c = '\x7b' then spanHole? cs else none with
    | none => (piecesOf fuel cs).map (consChar c)
    | some (name, word, rest) =>
      match Hole.ofWord? word with
      | none => .error (.unknownHole word)
      | some hole => (piecesOf fuel rest).map (.hole name hole :: ·)

/-- The names of the holes. -/
def names (pattern : Pattern) : List String :=
  pattern.pieces.filterMap fun | .hole name _ => some name | .fixed _ => none

/-- The names that occur more than once, sorted. -/
def repeated (pattern : Pattern) : List String :=
  ((pattern.names.filter fun name => 1 < pattern.names.count name).eraseDups).mergeSort (· ≤ ·)

/-- The pattern that a text writes. -/
def ofText (text : String) : Except PatternFault Pattern := do
  let pieces ← piecesOf text.length text.toList
  let pattern : Pattern := ⟨pieces⟩
  if pattern.repeated.isEmpty then .ok pattern else .error (.repeatedNames pattern.repeated)

/-! ## Fitting paths -/

/-- The texts for the holes among pieces, if a path fits. -/
def fit? : List Piece → List Char → Option (List (String × Hole × List Char))
  | [], cs => if cs = [] ∨ cs = ['\n'] then some [] else none
  | .fixed text :: rest, cs => if text.isPrefixOf cs then fit? rest (cs.drop text.length) else none
  | .hole name hole :: rest, cs =>
    (hole.lengths cs).findSome? fun n =>
      (fit? rest (cs.drop n)).map ((name, hole, cs.take n) :: ·)

/-- The text for a hole. -/
def text? (name : String) (texts : List (String × Hole × List Char)) : Option String :=
  (texts.find? (·.1 == name)).map fun found => String.ofList found.2.2

end Pattern

end ShaderGraph.Service
