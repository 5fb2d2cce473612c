namespace TypedLogging.CommandLine

def versionText : String := "logmsg 0.1.0\n"

def ofLines (lines : List String) : String := String.join (lines.map (· ++ "\n"))

def about : List String := ["Generates typed logger message helpers", ""]

def rootUsage : List String := ["Usage: logmsg [OPTIONS] <COMMAND>", ""]

def commandList : List String :=
  ["Commands:",
   "  generate  Writes the logger message helpers of the given sources",
   "  check     Binds the logger messages of the given sources and reports problems",
   "  help      Print this message or the help of the given subcommand(s)",
   ""]

def shortHelp : String :=
  ofLines (about ++ rootUsage ++ commandList ++
    ["Options:",
     "      --verbose       Enables verbose diagnostics",
     "      --very-verbose  Enables trace-level diagnostics",
     "      --quiet         Prevents unnecessary output",
     "  -h, --help          Print help (see more with '--help')",
     "  -V, --version       Print version"])

def globalOptions : List String :=
  ["      --verbose",
   "          Enables verbose diagnostics",
   "",
   "      --very-verbose",
   "          Enables trace-level diagnostics",
   "",
   "      --quiet",
   "          Prevents unnecessary output",
   "",
   "  -h, --help",
   "          Print help (see a summary with '-h')"]

def longHelp : String :=
  ofLines (about ++
    ["    Annotate a type with `#[logger_message(...)]`, then use `logmsg generate`",
     "    to write its helpers or `logmsg check` to see which messages bind.",
     ""]
    ++ rootUsage ++ commandList ++ ["Options:"] ++ globalOptions ++
    ["",
     "  -V, --version",
     "          Print version"])

def generateHelp : String :=
  ofLines
    ["Writes the logger message helpers of the given sources",
     "",
     "Usage: logmsg generate [OPTIONS] <FILE>...",
     "",
     "Arguments:",
     "  <FILE>...  Rust source files to scan",
     "",
     "Options:",
     "      --module <path>  Module path of the given files, e.g. `crate::net` [default: crate]",
     "      --config <file>  JSON configuration file",
     "      --out-dir <dir>  Directory to write generated files to [default: `out_dir` from the",
     "                       configuration]",
     "      --verbose        Enables verbose diagnostics",
     "      --check          Only verifies that the generated files are up to date",
     "      --very-verbose   Enables trace-level diagnostics",
     "      --quiet          Prevents unnecessary output",
     "  -h, --help           Print help"]

def checkAbout : List String :=
  ["Binds the logger messages of the given sources and reports problems", ""]

def checkUsage : List String := ["Usage: logmsg check [OPTIONS] <FILE>...", ""]

def checkShortHelp : String :=
  ofLines (checkAbout ++ checkUsage ++
    ["Arguments:",
     "  <FILE>...  Rust source files to scan",
     "",
     "Options:",
     "      --module <path>  Module path of the given files, e.g. `crate::net` [default: crate]",
     "      --config <file>  JSON configuration file",
     "      --verbose        Enables verbose diagnostics",
     "      --very-verbose   Enables trace-level diagnostics",
     "      --quiet          Prevents unnecessary output",
     "  -h, --help           Print help (see more with '--help')"])

def checkLongHelp : String :=
  ofLines (checkAbout ++
    ["Nothing is written. Exits with status 9 when any message or annotated type was skipped.",
     ""]
    ++ checkUsage ++
    ["Arguments:",
     "  <FILE>...",
     "          Rust source files to scan",
     "",
     "Options:",
     "      --module <path>",
     "          Module path of the given files, e.g. `crate::net`",
     "          ",
     "          [default: crate]",
     "",
     "      --config <file>",
     "          JSON configuration file",
     ""]
    ++ globalOptions)

def helpHelp : String :=
  ofLines
    ["Print this message or the help of the given subcommand(s)",
     "",
     "Usage: logmsg help [COMMAND]...",
     "",
     "Arguments:",
     "  [COMMAND]...  Print help for the subcommand(s)"]

end TypedLogging.CommandLine
