import TypedLogging.CommandLine

namespace TypedLogging.CommandLine

abbrev Console := ReaderT LevelFilter IO

def faultOf : IO.Error → IoFault
  | .noFileOrDirectory _ _ _ => .notFound
  | .inappropriateType _ _ _ => .notADirectory
  | .alreadyExists _ _ _ => .alreadyExists
  | error => .other (toString error)

def caught {α : Type} (action : IO α) : IO (Except IoFault α) := do
  try return .ok (← action)
  catch error => return .error (faultOf error)

def readText (path : String) : IO (Except IoFault String) := do
  match ← caught (IO.FS.readBinFile path) with
  | .error fault => return .error fault
  | .ok bytes =>
    match String.fromUTF8? bytes with
    | some text => return .ok text
    | none => return .error .notText

def print (stream : OutputStream) (text : String) : IO Unit :=
  match stream with
  | .stdout => IO.print text
  | .stderr => IO.eprint text

instance : Host Console where
  readFile path := readText path
  createDirs path := if path = "" then return .ok () else caught (IO.FS.createDirAll path)
  writeFile path contents := caught (IO.FS.writeFile path contents)
  outDirVariable := IO.getEnv "OUT_DIR"
  isCancelled := return false
  log record := do
    match shown (← read) record with
    | some (stream, text) => print stream text
    | none => return ()

def respond (arguments : List String) : IO ExitStatus := do
  match readArguments arguments with
  | .show text =>
    print .stdout text
    return .success
  | .hint text =>
    print .stderr text
    return .success
  | .misuse =>
    print .stderr ("error: these arguments cannot be understood\n" ++ ofLines rootUsage)
    return .invalidArguments
  | .run invocation =>
    let filter := filterOf invocation.verbosity (← IO.getEnv "LOGMSG_LOGLEVEL")
    (execute (m := Console) invocation).run filter

end TypedLogging.CommandLine

def main (arguments : List String) : IO UInt32 := do
  return (← TypedLogging.CommandLine.respond arguments).code.toUInt32
