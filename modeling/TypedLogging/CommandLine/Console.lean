import TypedLogging.CommandLine.Options
import TypedLogging.Expectation
import TypedLogging.Log

namespace TypedLogging.CommandLine

abbrev LevelFilter := Nat

def Verbosity.filter : Verbosity → LevelFilter
  | .quiet => LogLevel.error.rank
  | .ordinary => LogLevel.info.rank
  | .verbose => LogLevel.debug.rank
  | .veryVerbose => LogLevel.trace.rank

def filterOfName? (name : String) : Option LevelFilter :=
  match name.toLower with
  | "off" => some 0
  | "error" => some LogLevel.error.rank
  | "warn" => some LogLevel.warn.rank
  | "info" => some LogLevel.info.rank
  | "debug" => some LogLevel.debug.rank
  | "trace" => some LogLevel.trace.rank
  | _ => none

/-- The environment overrides the flags. -/
def filterOf (verbosity : Verbosity) (variable' : Option String) : LevelFilter :=
  (variable'.bind filterOfName?).getD verbosity.filter

def shownText (record : LogRecord) : OutputStream × String :=
  match record.level with
  | .error => (.stderr, s!"error: {record.text}\n")
  | .warn => (.stderr, s!"warning: {record.text}\n")
  | .info => (.stdout, s!"{record.text}\n")
  | .debug | .trace => (.stderr, s!"[{record.target}] {record.text}\n")

def shown (filter : LevelFilter) (record : LogRecord) : Option (OutputStream × String) :=
  if record.level.rank ≤ filter then some (shownText record) else none

def streamOf (filter : LevelFilter) (stream : OutputStream) (records : List LogRecord) : String :=
  String.join (((records.filterMap (shown filter)).filter (·.1 = stream)).map (·.2))

end TypedLogging.CommandLine
