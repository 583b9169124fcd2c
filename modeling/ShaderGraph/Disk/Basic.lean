import ShaderGraph.Disk.Path

/-!
# The disk

The files and directories below a working directory, in surroundings that are
always the same: the usual directories below the root, which hold no files, and
one device that is always empty. The working directory lies in one of those
directories.

A path is followed name by name. Every name on the way has to be that of a
directory, also where two dots leave it again.
-/

namespace ShaderGraph

/-- What a name on the disk stands for. -/
inductive DiskEntry
  | directory
  | file (content : ByteArray)
  /-- A device that is empty, and stays empty when it is written. -/
  | sink

/-- The entries below the working directory, by their names from there. The
directories on the way to an entry need no entry of their own. -/
structure Disk where
  entries : List (List String × DiskEntry)

namespace Disk

/-! ## Faults -/

/-- Why a file cannot be read or written. -/
inductive Fault
  | missing
  | isDirectory
  | notDirectory
  | nameTooLong
  /-- The path holds the character that ends paths. -/
  | endedPath
  deriving DecidableEq, Repr

/-- The number and the description of a fault that the disk reports; a path that
is none does not get so far. -/
def Fault.message? : Fault → Option String
  | .missing => some "[Errno 2] No such file or directory"
  | .isDirectory => some "[Errno 21] Is a directory"
  | .notDirectory => some "[Errno 20] Not a directory"
  | .nameTooLong => some "[Errno 36] File name too long"
  | .endedPath => none

/-! ## Places -/

/-- A place on the disk: names from the working directory, or names from the
root that lead elsewhere. -/
inductive Place
  | inside (names : List String)
  | outside (names : List String)
  deriving DecidableEq, Repr

/-- The directory that holds the working directory, from the root. -/
def parentOfWork : List String := ["tmp"]

/-- The directories below the root. -/
def usualDirectories : List String :=
  ["bin", "boot", "dev", "etc", "home", "lib", "media", "mnt", "opt", "proc", "root", "run", "sbin",
    "srv", "sys", "tmp", "usr", "var"]

/-- The device that is always empty, from the root. -/
def sinkNames : List String := ["dev", "null"]

/-- The place of a name in a directory. -/
def Place.child (name : String) : Place → Place
  | .inside names => .inside (names ++ [name])
  | .outside names => .outside (names ++ [name])

/-- The directory that holds a place. The root holds itself. -/
def Place.parent : Place → Place
  | .inside [] => .outside parentOfWork
  | .inside names => .inside names.dropLast
  | .outside names => .outside names.dropLast

/-- The entry at a place. -/
def entry? (disk : Disk) : Place → Option DiskEntry
  | .inside names =>
    match disk.entries.find? (·.1 == names) with
    | some found => some found.2
    | none =>
      if names.isEmpty || disk.entries.any fun e => names.isPrefixOf e.1 then some .directory else none
  | .outside names =>
    if names == sinkNames then some .sink
    else if names.isEmpty || usualDirectories.any (names == [·]) then some .directory
    else none

/-! ## Following paths -/

/-- A name has no more bytes than this. -/
def maxNameBytes : Nat := 255

/-- A path has no more bytes than this. -/
def maxPathBytes : Nat := 4095

/-- Where names lead from a place. The last name need not be there. -/
def follow (disk : Disk) : Place → List String → Except Fault Place
  | place, [] => .ok place
  | place, name :: rest =>
    match disk.entry? place with
    | none => .error .missing
    | some .directory =>
      if name = ".." then disk.follow place.parent rest
      else if maxNameBytes < name.utf8ByteSize then .error .nameTooLong
      else disk.follow (place.child name) rest
    | some _ => .error .notDirectory

/-- Where a path leads. -/
def locate (disk : Disk) (path : Path) : Except Fault Place :=
  let text := path.display
  if text.toList.contains (Char.ofNat 0) then .error .endedPath
  else if maxPathBytes < text.utf8ByteSize then .error .nameTooLong
  else disk.follow (if path.root.isEmpty then .inside [] else .outside []) path.names

/-! ## Files -/

/-- The content of a file. -/
def read (disk : Disk) (path : Path) : Except Fault ByteArray := do
  match disk.entry? (← disk.locate path) with
  | none => .error .missing
  | some .directory => .error .isDirectory
  | some (.file content) => .ok content
  | some .sink => .ok .empty

/-- The disk with an entry in its place, or at the end. -/
def put (disk : Disk) (names : List String) (entry : DiskEntry) : Disk :=
  if disk.entries.any (·.1 == names) then
    ⟨disk.entries.map fun e => if e.1 == names then (names, entry) else e⟩
  else ⟨disk.entries ++ [(names, entry)]⟩

/-- The disk with a file written. Its directory has to be there. What is written
outside of the working directory does not show. -/
def write (disk : Disk) (path : Path) (content : ByteArray) : Except Fault Disk := do
  let place ← disk.locate path
  match disk.entry? place, place with
  | some .directory, _ => .error .isDirectory
  | _, .inside names => .ok (disk.put names (.file content))
  | _, .outside _ => .ok disk

/-- The files of `after` that are not the same in `disk`. -/
def changes (disk after : Disk) : List (List String × ByteArray) :=
  after.entries.filterMap fun e =>
    match e.2, disk.entry? (.inside e.1) with
    | .file content, some (.file before) => if content == before then none else some (e.1, content)
    | .file content, _ => some (e.1, content)
    | _, _ => none

end Disk

end ShaderGraph
