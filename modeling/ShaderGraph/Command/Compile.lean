import ShaderGraph.Command.Grammar
import ShaderGraph.Command.Outcome
import ShaderGraph.Compile
import ShaderGraph.Kind.Builtin
import ShaderGraph.Schema.Document

/-!
# The compile command

`blockshader-compile` reads the document of a graph from a file and prints its
program, or stores it. The status is 0 if all went well, 1 if the graph has
problems, and 2 if the line, the file or the document is not what it should be.

`onContent` is the command as a function of the file's content, and `onDocument`
as a function of the document in it; they neither read nor write. The ids that are
generated for uniforms, `idAt`, do not show in what it does.
-/

namespace ShaderGraph.Command

/-- An option that sets the precision; `none` is no value. -/
def precisionOption {σ : Type} (set : Option Precision → σ → σ) : Opt σ where
  spellings := ["--precision"]
  action := .value fun value s =>
    match value with
    | none => .ok (set none s)
    | some text =>
      match Precision.all.find? (·.name == text) with
      | some p => .ok (set (some p) s)
      | none =>
        let choices := String.intercalate ", " (Precision.all.map fun p => Text.quoted p.name)
        .error ("invalid choice: " ++ Text.quoted text ++ " (choose from " ++ choices ++ ")")

namespace Compile

/-- What the line of the command says. -/
structure Options where
  graph : Path
  checkOnly : Bool
  precision : Option Precision
  output : Option Path
  debug : Bool

/-- What holds when the line says nothing. -/
def Options.usual : Options := ⟨.ofText "", false, none, none, false⟩

/-- The grammar of the command. -/
def grammar : Grammar Options where
  program := "blockshader-compile"
  usage :=
    "usage: blockshader-compile [-h] [--validate-only]
                           [--precision \x7blowp,mediump,highp\x7d]
                           [--output OUTPUT] [--debug]
                           graph
"
  details :=
    "Compile a block graph JSON document into a fragment shader

positional arguments:
  graph                 Path to a block graph JSON document.

options:
  -h, --help            show this help message and exit
  --validate-only       Only report structural problems; do not generate code.
  --precision \x7blowp,mediump,highp\x7d
  --output OUTPUT, -o OUTPUT
                        Write the shader here instead of stdout.
  --debug
"
  options := [
    .help,
    ⟨["--validate-only"], .flag fun _ o => { o with checkOnly := true }⟩,
    precisionOption fun p o => { o with precision := p },
    ⟨["--output", "-o"], .value fun text o => .ok { o with output := text.map Path.ofText }⟩,
    ⟨["--debug"], .flag fun _ o => { o with debug := true }⟩]
  operand := some ⟨"graph", fun text o => { o with graph := .ofText text }⟩

/-! ## Statuses -/

/-- All went well. -/
def ok : Nat := 0

/-- The graph has problems. -/
def problemsFound : Nat := 1

/-- The line, the file or the document is not what it should be. -/
def badInput : Nat := 2

/-! ## Records of the log -/

/-- The program has been made. -/
def generated (blocks : Nat) : Log.Record where
  level := .debug
  logger := "blockshader.app.services.shader_generator"
  message := "Generated fragment shader from " ++ toString blocks ++ " block instances"

/-- The program has been made in spite of problems. -/
def warned (problems : List String) : Log.Record where
  level := .info
  logger := "blockshader.app.services.compiler_service"
  message :=
    "Compiled block graph with " ++ toString problems.length ++ " warning(s): "
      ++ String.intercalate " | " problems

/-- The program has been stored. -/
def wrote (blocks : Nat) (path : Path) : Log.Record where
  level := .info
  logger := "blockshader.app.cli"
  message := "Wrote shader for " ++ toString blocks ++ " block(s) to " ++ path.display

/-! ## The command on a document -/

/-- A status and the lines said before it. -/
def stop (log : Log) (status : Nat) (lines : List String) : Outcome :=
  ⟨log, lines.map .line, .exit status ""⟩

/-- What is said of a program on its way out. -/
def notices (answer : CompileAnswer String) : List Notice :=
  [.record (generated answer.order.length)]
    ++ (if answer.problems.isEmpty then [] else [.record (warned answer.problems)])
    ++ answer.problems.map fun p => .line ("warning: " ++ p)

/-- The command on a graph. -/
def onGraph (log : Log) (settings : Settings) (options : Options) (g : Graph) : Outcome :=
  if options.checkOnly then
    let report := g.check .builtin
    stop log (if report.valid then ok else problemsFound) report.problems
  else
    match g.compile .builtin (options.precision.getD settings.precision) with
    | .ok answer =>
      let ending : Ending :=
        match options.output with
        | none => .exit ok answer.source
        | some path => .store path answer.source (.record (wrote answer.order.length path))
      ⟨log, notices answer, ending⟩
    | .error .numberTooWide => ⟨log, [], .escape .numberTooWide⟩
    | .error refusal => stop log problemsFound (refusal.diagnostics.map Diagnostic.message)

/-- The graph that a document describes, if there is a document. -/
def readGraph (idAt : Nat → String) (document : Checked Json) : Except Rejection Graph :=
  (document.andThen (Graph.read idAt .text)).toExcept Graph.title .text

/-- The command on the document of a file. -/
def onDocument (log : Log) (settings : Settings) (options : Options) (idAt : Nat → String)
    (document : Checked Json) : Outcome :=
  match readGraph idAt document with
  | .ok g => onGraph log settings options g
  | .error rejection =>
    stop log badInput [
      "Invalid block graph document '" ++ options.graph.display ++ "':", rejection.report]

/-- The command on the content of a file, or on the fault that kept it from being
read. -/
def onContent (log : Log) (settings : Settings) (options : Options) (idAt : Nat → String)
    (content : Except Disk.Fault ByteArray) : Outcome :=
  match content with
  | .error fault =>
    let path := options.graph.display
    match fault.message? with
    | some message =>
      stop log badInput ["Unable to read '" ++ path ++ "': " ++ message ++ ": " ++ Text.quoted path]
    | none => ⟨log, [], .escape (.disk fault)⟩
  | .ok bytes =>
    match String.fromUTF8? bytes with
    | none => ⟨log, [], .escape .notUtf8⟩
    | some text => onDocument log settings options idAt (Read.document text)

end Compile

/-- What a command does when its line gives nothing to do. -/
def Grammar.halt {σ : Type} (g : Grammar σ) : Stop → Outcome
  | .help => ⟨.bare, [], .exit 0 g.helpText⟩
  | .misuse m => ⟨.bare, [.text (g.misuseText m)], .exit 2 ""⟩

/-- The compile command, given how files are read. -/
def Compile.outcome (env : Environment) (idAt : Nat → String)
    (readFile : Path → Except Disk.Fault ByteArray) (arguments : List String) : Outcome :=
  match grammar.read .usual arguments with
  | .error s => grammar.halt s
  | .ok options =>
    match Settings.read env with
    | .error fault => ⟨.bare, [], .escape (.settings fault)⟩
    | .ok settings =>
      let log := Log.bare.configure (options.debug || settings.debug)
      onContent log settings options idAt (readFile options.graph)

end ShaderGraph.Command
