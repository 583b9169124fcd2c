import ShaderGraph.Command.Compile
import ShaderGraph.Number.Whole

/-!
# The serve command

`blockshader-api` starts a server for the service. The command itself decides
only with what: it returns the `Server` to start and the settings to start it
with. The precision and the debug flag of the line are put into the environment
before the settings are read.
-/

namespace ShaderGraph.Command

/-- The server to start. An option that was given no value has none. -/
structure Server where
  target : String
  host : Option String
  port : Option Int
  reload : Bool
  logLevel : Option String
  accessLog : Bool
  deriving DecidableEq, Repr

namespace Serve

/-- What the line of the command says. -/
structure Options where
  host : Option String
  port : Option Int
  logLevel : Option String
  reload : Bool
  accessLog : Bool
  debug : Option Bool
  /-- The precision, if the option was used; it may have been given no value. -/
  precision : Option (Option Precision)

/-- What holds when the line says nothing. -/
def Options.usual : Options :=
  ⟨some "0.0.0.0", some 8000, some "info", true, true, none, none⟩

/-- A flag with two spellings, of which the second denies it. -/
def twoWay (name : String) (set : Bool → Options → Options) : Opt Options :=
  let yes := "--" ++ name
  ⟨[yes, "--no-" ++ name], .flag fun spelling o => set (spelling == yes) o⟩

/-- An option that sets the port. -/
def portOption : Opt Options where
  spellings := ["--port"]
  action := .value fun value o =>
    match value with
    | none => .ok { o with port := none }
    | some text =>
      match Whole.read? text with
      | some port => .ok { o with port := some port }
      | none => .error ("invalid int value: " ++ Text.quoted text)

/-- The grammar of the command. -/
def grammar : Grammar Options where
  program := "blockshader-api"
  usage :=
    "usage: blockshader-api [-h] [--host HOST] [--port PORT]
                       [--log-level LOG_LEVEL] [--reload | --no-reload]
                       [--access-log | --no-access-log] [--debug | --no-debug]
                       [--precision \x7blowp,mediump,highp\x7d]
"
  details :=
    "Run the block shader compiler API

options:
  -h, --help            show this help message and exit
  --host HOST
  --port PORT
  --log-level LOG_LEVEL
  --reload, --no-reload
  --access-log, --no-access-log
  --debug, --no-debug
  --precision \x7blowp,mediump,highp\x7d
                        Float precision qualifier written at the top of
                        generated shaders.
"
  options := [
    .help,
    ⟨["--host"], .value fun text o => .ok { o with host := text }⟩,
    portOption,
    ⟨["--log-level"], .value fun text o => .ok { o with logLevel := text }⟩,
    twoWay "reload" fun b o => { o with reload := b },
    twoWay "access-log" fun b o => { o with accessLog := b },
    twoWay "debug" fun b o => { o with debug := some b },
    precisionOption fun p o => { o with precision := some p }]
  operand := none

/-- The environment with what the line says put into it. -/
def Options.extend (o : Options) (env : Environment) : Except Failure Environment := do
  let env ←
    match o.precision with
    | none => .ok env
    | some none => .error .noPrecision
    | some (some p) => .ok (env.set "BLOCKSHADER_SHADER_PRECISION" p.name)
  match o.debug with
  | some b => .ok (env.set "BLOCKSHADER_DEBUG" (if b then "1" else "0"))
  | none => .ok env

/-- The server that the line asks for. -/
def Options.server (o : Options) : Server where
  target := "blockshader.app.main:app"
  host := o.host
  port := o.port
  reload := o.reload
  logLevel := o.logLevel
  accessLog := o.accessLog

/-- The settings that a service can run with. -/
def settings (options : Options) (env : Environment) : Except Failure Settings := do
  let env ← options.extend env
  let settings ← (Settings.read env).mapError .settings
  let _ ← (Service.Table.ofSettings settings).mapError .start
  .ok settings

/-- The serve command: the server and its settings, or what the command does
instead. -/
def outcome (env : Environment) (arguments : List String) : Except Outcome (Server × Settings) :=
  match grammar.read .usual arguments with
  | .error s => .error (grammar.halt s)
  | .ok options =>
    match settings options env with
    | .ok settings => .ok (options.server, settings)
    | .error failure => .error ⟨.bare, [], .escape failure⟩

end Serve

end ShaderGraph.Command
