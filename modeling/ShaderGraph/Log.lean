/-!
# The log

A record has a level, the name of its logger and a message. The log writes the
records at or above a threshold; one threshold holds for the loggers of this
program and one for all others. Before it is configured the log has no handler
and writes nothing.
-/

namespace ShaderGraph

namespace Log

/-- How much a record matters. -/
inductive Level
  | debug
  | info
  | warning
  deriving DecidableEq, Repr

namespace Level

/-- The level as a number: what matters more is higher. -/
def rank : Level → Nat
  | .debug => 10
  | .info => 20
  | .warning => 30

/-- The level's name in a line of the log. -/
def name : Level → String
  | .debug => "DEBUG"
  | .info => "INFO"
  | .warning => "WARNING"

end Level

/-- A record. -/
structure Record where
  level : Level
  logger : String
  message : String
  deriving DecidableEq, Repr

/-- The line of a record written at a time. -/
def Record.line (time : String) (r : Record) : String :=
  String.intercalate " | " [time, r.level.name, r.logger, r.message]

end Log

/-- The state of the log. -/
structure Log where
  root : Log.Level
  package : Log.Level
  handlers : Nat
  deriving DecidableEq, Repr

namespace Log

/-- The loggers of this program have this name, or a name below it. -/
def packageName : String := "blockshader"

/-- A log that nobody has configured. -/
def bare : Log := ⟨.warning, .warning, 0⟩

/-- Both thresholds set; a handler is added where there is none. -/
def configure (debug : Bool) (log : Log) : Log :=
  let level : Level := if debug then .debug else .info
  ⟨level, level, max 1 log.handlers⟩

/-- The logger belongs to this program. -/
def isOwn (logger : String) : Bool :=
  logger == packageName || (packageName ++ ".").toList.isPrefixOf logger.toList

/-- The threshold of a logger. -/
def threshold (log : Log) (logger : String) : Level :=
  if isOwn logger then log.package else log.root

/-- The log writes the record. -/
def accepts (log : Log) (r : Record) : Bool :=
  0 < log.handlers && (log.threshold r.logger).rank ≤ r.level.rank

/-- The lines of the records that the log writes. -/
def write (time : String) (log : Log) (records : List Record) : String :=
  String.join ((records.filter log.accepts).map fun r => r.line time ++ "\n")

end Log

end ShaderGraph
