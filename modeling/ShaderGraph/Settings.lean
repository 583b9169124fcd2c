import ShaderGraph.Graph.Basic
import ShaderGraph.Json.Reader
import ShaderGraph.Text.Lower

/-!
# Settings from the environment

A setting is a variable of the environment whose name is `variableStart` and
the setting's own name, in any case. Where two variables name one setting, the
later one holds.

The origins are a JSON document, and null says nothing. If it cannot be read,
nothing else is looked at; otherwise the settings are read like any other model
and all faults are reported.
-/

namespace ShaderGraph

/-! ## The environment -/

/-- Variables and their values, in order. -/
structure Environment where
  entries : List (String × String)

namespace Environment

/-- The value of a name given in lower case; of several variables the last
holds. -/
def find? (env : Environment) (name : String) : Option String :=
  (env.entries.reverse.find? fun v => Text.lower v.1 == name).map (·.2)

/-- Sets a variable of exactly this name, in its place or at the end. -/
def set (env : Environment) (name value : String) : Environment :=
  if env.entries.any (·.1 == name) then
    ⟨env.entries.map fun v => if v.1 == name then (name, value) else v⟩
  else ⟨env.entries ++ [(name, value)]⟩

end Environment

/-! ## Settings -/

/-- What can be set from outside. -/
structure Settings where
  appName : String
  appVersion : String
  debug : Bool
  /-- The path that every route starts with. -/
  apiRoot : String
  corsOrigins : List GivenText
  precision : Precision
  deriving DecidableEq, Repr

/-- Why there are no settings. -/
inductive SettingsFault
  /-- A setting that should be a JSON document is none. -/
  | unreadable (setting : String)
  /-- A document among the settings nests too deep. -/
  | tooDeep
  | rejected (rejection : Rejection)

/-- The message of settings that cannot be read. -/
def SettingsFault.unreadableMessage (setting : String) : String :=
  "error parsing value for field \"" ++ setting ++ "\" from source \"EnvSettingsSource\""

namespace Settings

/-- Where nothing is set. -/
def usual : Settings where
  appName := "Block Shader Compiler API"
  appVersion := "0.1.0"
  debug := false
  apiRoot := "/api"
  corsOrigins := ["http://localhost:5173", "http://127.0.0.1:5173"]
  precision := .mediump

/-- The name of the model in messages. -/
def title : String := "Settings"

/-- How the name of a variable starts that holds a setting, in lower case. -/
def variableStart : String := "blockshader_"

/-- The settings that any text will do for, by name. -/
def textSettings : List String := ["app_name", "app_version", "api_prefix"]

/-- The settings whose text is checked, by name. -/
def checkedSettings : List String := ["debug", "shader_precision"]

/-- The setting that is a JSON document. -/
def originsSetting : String := "cors_origins"

/-- A setting that any text will do for. -/
def textOf (env : Environment) (name usual : String) : String :=
  (env.find? (variableStart ++ name)).getD usual

/-- The settings that are set and whose text is checked. -/
def checkedFields (env : Environment) : List (GivenText × Json) :=
  checkedSettings.filterMap fun name => (env.find? (variableStart ++ name)).map (name, .text ·)

/-- The origins that are set, if they can be read. -/
def originsFields (env : Environment) : Except SettingsFault (List (GivenText × Json)) :=
  match env.find? (variableStart ++ originsSetting) with
  | none => .ok []
  | some text =>
    match Json.read .tolerant text with
    | .ok .null => .ok []
    | .ok value => .ok [(originsSetting, value)]
    | .error .tooDeep => .error .tooDeep
    | .error _ => .error (.unreadable originsSetting)

/-- The settings of an environment, of which those that are checked are the fields of an
object. -/
def readFields (env : Environment) (r : Record) : Checked Settings :=
  (fun debug origins precision => {
      appName := textOf env "app_name" usual.appName
      appVersion := textOf env "app_version" usual.appVersion
      debug := debug
      apiRoot := textOf env "api_prefix" usual.apiRoot
      corsOrigins := origins
      precision := precision })
    <$> r.optional "debug" usual.debug Read.bool
    <*> r.optional originsSetting usual.corsOrigins (Read.list Read.text)
    <*> r.optional "shader_precision" usual.precision Precision.read

/-- The settings of an environment. -/
def read (env : Environment) : Except SettingsFault Settings := do
  let origins ← originsFields env
  ((readFields env ⟨checkedFields env ++ origins⟩).toExcept title .value).mapError .rejected

/-- The document of the settings. -/
def toJson (s : Settings) : Json :=
  .object [
    ("app_name", .text s.appName),
    ("app_version", .text s.appVersion),
    ("debug", .bool s.debug),
    ("api_prefix", .text s.apiRoot),
    ("cors_origins", textsToJson s.corsOrigins),
    ("shader_precision", .text s.precision.name)]

end Settings

end ShaderGraph
