namespace TypedLogging

inductive ConfigField
  | attributeName
  | macroCrate
  | logCrate
  deriving DecidableEq

def ConfigField.name : ConfigField → String
  | .attributeName => "attribute"
  | .macroCrate => "macro_crate"
  | .logCrate => "log_crate"

inductive Failure
  | cancelled
  | createDir (dir : String)
  | diagnosticsReported (count : Nat)
  | duplicateFileName (name first second : String)
  | invalidEventId (message value : String)
  | invalidLogLevel (message level : String)
  | invalidPlaceholderType (message type : String)
  | invalidConfigPath (field : ConfigField) (value : String)
  | noOutDir
  | noSources
  | outOfDate (count : Nat)
  | parseConfig (file : String)
  | parseSource (file : String)
  | readConfig (file : String)
  | readSource (file : String)
  | writeFile (file : String)
  deriving DecidableEq

inductive ExitStatus
  | success
  | unknownError
  | invalidArguments
  | fileSystem
  | configuration
  | diagnostics
  | aborted
  deriving DecidableEq

def ExitStatus.code : ExitStatus → Nat
  | .success => 0
  | .unknownError => 1
  | .invalidArguments => 3
  | .fileSystem => 7
  | .configuration => 8
  | .diagnostics => 9
  | .aborted => 101

namespace Failure

def kind : Failure → String
  | .cancelled => "Cancelled"
  | .createDir _ => "CreateDirError"
  | .diagnosticsReported _ => "DiagnosticsReported"
  | .duplicateFileName _ _ _ => "DuplicateFileName"
  | .invalidEventId _ _ => "InvalidEventId"
  | .invalidLogLevel _ _ => "InvalidLogLevel"
  | .invalidPlaceholderType _ _ => "InvalidPlaceholderType"
  | .invalidConfigPath _ _ => "InvalidConfigPath"
  | .noOutDir => "NoOutDir"
  | .noSources => "NoSources"
  | .outOfDate _ => "OutOfDate"
  | .parseConfig _ => "ParseConfigError"
  | .parseSource _ => "ParseSourceError"
  | .readConfig _ => "ReadConfigError"
  | .readSource _ => "ReadSourceError"
  | .writeFile _ => "WriteFileError"

def permissionsHint : String :=
  "Please ensure you have correct permissions to the output directory."

def reportHint : String :=
  "Please rerun the command that triggered this error with the environment\n"
    ++ "variable `LOGMSG_LOGLEVEL` set to `debug` and open an issue with the details!"

def advised (sentence advice : String) : String := sentence ++ "\n\n" ++ advice

def message : Failure → String
  | .cancelled => "Generation was cancelled."
  | .createDir dir => advised s!"Could not create directory {dir}" permissionsHint
  | .diagnosticsReported count =>
    advised s!"{count} logger message(s) could not be generated."
      "The warnings above explain why each one was skipped."
  | .duplicateFileName name first second =>
    advised s!"`{first}` and `{second}` would both be generated into {name}"
      "Please rename one of the types."
  | .invalidEventId message value =>
    advised s!"Invalid event id `{value}` for logger message `{message}`."
      "Event ids must be 32-bit integers."
  | .invalidLogLevel message level =>
    advised s!"Unknown log level `{level}` for logger message `{message}`."
      "Use one of `Trace`, `Debug`, `Information`, `Warning`, `Error`, `Critical` or `None`."
  | .invalidPlaceholderType message type =>
    advised s!"Could not write type `{type}` for logger message `{message}`." reportHint
  | .invalidConfigPath field value =>
    s!"Configuration field `{field.name}` is not a valid Rust path: `{value}`"
  | .noOutDir =>
    advised "No output directory was configured."
      ("Pass `--out-dir`, set `out_dir` in the configuration, or run from a build script where\n"
        ++ "`OUT_DIR` is set.")
  | .noSources => "No source files were given."
  | .outOfDate count =>
    advised s!"{count} generated file(s) are out of date."
      "Rerun `logmsg generate` without `--check` to update them."
  | .parseConfig file =>
    advised s!"Could not parse configuration file {file}"
      "Please ensure the file is valid JSON and only uses known fields."
  | .parseSource file =>
    advised s!"Could not parse source file {file}" "Please ensure the file is valid Rust."
  | .readConfig file => s!"Could not read configuration file {file}"
  | .readSource file => s!"Could not read source file {file}"
  | .writeFile file => advised s!"Could not write generated file {file}" permissionsHint

def exitStatus : Failure → ExitStatus
  | .cancelled | .invalidPlaceholderType _ _ => .unknownError
  | .noSources => .invalidArguments
  | .createDir _ | .readConfig _ | .readSource _ | .writeFile _ => .fileSystem
  | .duplicateFileName _ _ _ | .invalidEventId _ _ | .invalidLogLevel _ _ | .invalidConfigPath _ _
  | .noOutDir | .parseConfig _ | .parseSource _ => .configuration
  | .diagnosticsReported _ | .outOfDate _ => .diagnostics

end Failure

structure Fault where
  failure : Failure
  cause : Option String
  deriving DecidableEq

def Failure.fault (failure : Failure) : Fault := ⟨failure, none⟩

def Failure.because (failure : Failure) (cause : String) : Fault := ⟨failure, some cause⟩

inductive Stop
  | fault (fault : Fault)
  | badIdentifier (name : String)
  deriving DecidableEq

def badIdentifierText (name : String) : String := s!"\"{name}\" is not a valid Ident"

end TypedLogging
