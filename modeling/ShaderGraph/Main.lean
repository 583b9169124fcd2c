import ShaderGraph.Command.Compile
import Std.Time.Format

/-!
# The program

The compile command on the files and the environment of the machine. All it
decides is how a fault of the machine is called.
-/

namespace ShaderGraph.Machine

/-- A fault of the machine as a fault of the disk, where it is one. -/
def diskFault? : IO.Error → Option Disk.Fault
  | .noFileOrDirectory _ _ _ => some .missing
  | .inappropriateType _ code _ =>
    some (if code = 21 ∨ code = 0 - 21 then .isDirectory else .notDirectory)
  | _ => none

/-- The content of a file. -/
def readFile (path : Path) : IO (Except Disk.Fault ByteArray) := do
  try
    return .ok (← IO.FS.readBinFile path.display)
  catch e =>
    match diskFault? e with
    | some fault => return .error fault
    | none => throw e

/-- The variables that hold settings. -/
def environment : IO Environment := do
  let settings := Settings.textSettings ++ Settings.checkedSettings ++ [Settings.originsSetting]
  let names := settings.map (Settings.variableStart ++ ·)
  let entries ← names.filterMapM fun name => do
    let name := name.toUpper
    return (← IO.getEnv name).map (name, ·)
  return ⟨entries⟩

/-- A number as an id: its hexadecimal digits in five groups. -/
def idText (n : Nat) : String :=
  let digits := Text.hexDigits 32 n
  let groups := [(0, 8), (8, 4), (12, 4), (16, 4), (20, 12)]
  "-".intercalate (groups.map fun (start, width) => String.ofList ((digits.drop start).take width))

/-- Ids for uniforms, drawn at random. -/
def uniformIds : IO (Nat → String) := do
  let first ← IO.rand 0 (twoTo 128 - 1)
  return fun n => idText (first + n)

/-- The time, to the millisecond. -/
def timeText : IO String := do
  return (← Std.Time.PlainDateTime.now).format "uuuu-MM-dd HH:mm:ss,SSS"

/-- Says a notice. -/
def say (log : Log) (notice : Command.Notice) : IO Unit := do
  IO.eprint (notice.write (← timeText) log)

/-- Carries out what a command does. -/
def carryOut (o : Command.Outcome) : IO UInt32 := do
  o.notices.forM (say o.log)
  match o.ending with
  | .exit status output =>
    IO.print output
    return status.toUInt32
  | .store path content told =>
    IO.FS.writeFile path.display content
    say o.log told
    return 0
  | .escape _ =>
    IO.eprintln "The command failed."
    return 1

end ShaderGraph.Machine

open ShaderGraph ShaderGraph.Machine in
/-- The compile command. -/
def main (arguments : List String) : IO UInt32 := do
  let content ←
    match Command.Compile.grammar.read .usual arguments with
    | .ok options => readFile options.graph
    | .error _ => pure (.error .missing)
  carryOut (Command.Compile.outcome (← environment) (← uniformIds) (fun _ => content) arguments)
