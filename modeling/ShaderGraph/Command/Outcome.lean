import ShaderGraph.Disk.Basic
import ShaderGraph.Log
import ShaderGraph.Service.Route

/-!
# What a command does

A command says things on the error stream, some of them through the log, and
then comes to an end. Its ending is a status, a text to print, a file to store,
or a failure that it does not answer for and that escapes.

`Outcome.onDisk` carries the ending out on a disk. What is left is a
`Transcript`: the two streams, the disk, and a status or a failure.
-/

namespace ShaderGraph.Command

/-- Something said on the error stream. -/
inductive Notice
  /-- A text, written as it is. -/
  | text (text : String)
  | record (record : Log.Record)
  deriving DecidableEq, Repr

/-- A line said on the error stream. -/
def Notice.line (text : String) : Notice := .text (text ++ "\n")

/-- A notice as it is written at a time. -/
def Notice.write (time : String) (log : Log) : Notice → String
  | .text t => t
  | .record r => log.write time [r]

/-- A failure that a command does not answer for. -/
inductive Failure
  | settings (fault : SettingsFault)
  /-- The settings hold, but no service can run with them. -/
  | start (fault : Service.StartFault)
  /-- The line gives the precision no value. -/
  | noPrecision
  | notUtf8
  | numberTooWide
  | disk (fault : Disk.Fault)

/-- The end of a command. -/
inductive Ending
  /-- A status, after printing a text. -/
  | exit (status : Nat) (output : String)
  /-- Status zero after storing a file, which the notice then tells of. -/
  | store (path : Path) (content : String) (told : Notice)
  | escape (failure : Failure)

/-- What a command says and how it ends. -/
structure Outcome where
  log : Log
  notices : List Notice
  ending : Ending

/-- What is left of a command. -/
structure Transcript where
  output : String
  messages : String
  disk : Disk
  status : Except Failure Nat

/-- An outcome carried out on a disk, at a time. -/
def Outcome.onDisk (time : String) (o : Outcome) (disk : Disk) : Transcript :=
  let said (notices : List Notice) : String := String.join (notices.map (·.write time o.log))
  match o.ending with
  | .exit status output => ⟨output, said o.notices, disk, .ok status⟩
  | .escape failure => ⟨"", said o.notices, disk, .error failure⟩
  | .store path content told =>
    match disk.write path content.toUTF8 with
    | .ok disk => ⟨"", said (o.notices ++ [told]), disk, .ok 0⟩
    | .error fault => ⟨"", said o.notices, disk, .error (.disk fault)⟩

end ShaderGraph.Command
