import TypedLogging.Discovery
import TypedLogging.Emission
import TypedLogging.Files

namespace TypedLogging

inductive SourceInput
  | file (path : String)
  | text (name text : String)
  deriving DecidableEq

structure SourceFile where
  input : SourceInput
  here : Option String
  deriving DecidableEq

/-- Blanks around a module path do not count, and an empty one is none. -/
def modulePathOf (text : String) : Option String :=
  let trimmed := ((text.toList.dropWhile Text.isBlank).reverse.dropWhile Text.isBlank).reverse
  if trimmed.isEmpty then none else some (String.ofList trimmed)

namespace SourceFile

def ofFile (path here : String) : SourceFile := ⟨.file path, modulePathOf here⟩

def ofText (name text here : String) : SourceFile := ⟨.text name text, modulePathOf here⟩

def label (source : SourceFile) : String :=
  match source.input with
  | .file path => path
  | .text name _ => name

end SourceFile

structure Generated where
  files : List GeneratedFile
  diagnostics : List Diagnostic
  deriving DecidableEq

structure Generator where
  config : Config
  sources : List SourceFile
  outDir : Option String
  deriving DecidableEq

abbrev Run (m : Type → Type) := ExceptT Stop m

namespace Run

variable {m : Type → Type} [Monad m] [Host m]

def fail {α : Type} (fault : Fault) : Run m α := throw (.fault fault)

def check : Run m Unit := do
  if ← Host.isCancelled (m := m) then fail Failure.cancelled.fault

def log (level : LogLevel) (target text : String) : Run m Unit :=
  ExceptT.lift (Host.log ⟨level, target, text⟩)

def logAll : List LogRecord → Run m Unit
  | [] => pure ()
  | record :: rest => do
    ExceptT.lift (Host.log record)
    logAll rest

def orFail {α : Type} (failure : Failure) : Except IoFault α → Run m α
  | .ok value => pure value
  | .error fault => fail (failure.because fault.message)

def orStop {α : Type} : Except Stop α → Run m α
  | .ok value => pure value
  | .error stop => throw stop

end Run

open Run

variable {m : Type → Type} [Monad m] [Host m]

def readSource (source : SourceFile) : Run m String :=
  match source.input with
  | .file path => do orFail (.readSource path) (← ExceptT.lift (Host.readFile path))
  | .text _ text => pure text

def parseSource (source : SourceFile) : Run m Source.File := do
  let text ← readSource source
  match Source.File.ofText? text with
  | some file => return file
  | none => fail (Failure.parseSource source.label).fault

def scanSources (config : Config) : List SourceFile → Run m Findings
  | [] => pure .none
  | source :: rest => do
    check
    log .debug LogTarget.generator s!"Scanning {source.label}"
    let file ← parseSource source
    let found := Discovery.fileFindings config source.here file
    logAll found.records
    return found ++ (← scanSources config rest)

def collectAll (name : String) (lookup : Lookup) : List Declaration → Run m Collection
  | [] => pure .empty
  | declaration :: rest => do
    check
    let collected := collect name lookup declaration
    logAll collected.records
    return collected.append (← collectAll name lookup rest)

def isPathText (text : String) : Bool := (Source.pathOfText? text).isSome

namespace Generator

def checkConfig (config : Config) : Except Fault Unit := do
  if !Source.isIdentifierText config.attributeName then
    throw (Failure.invalidConfigPath .attributeName config.attributeName).fault
  if !isPathText config.macroCrate then
    throw (Failure.invalidConfigPath .macroCrate config.macroCrate).fault

def collect (generator : Generator) : Run m Collection := do
  if generator.sources.isEmpty then fail Failure.noSources.fault
  orStop (Emission.orStop (checkConfig generator.config))
  let found ← scanSources generator.config generator.sources
  let collection ← collectAll generator.config.qualifiedAttribute
    (Discovery.symbolTable found).lookup found.declarations
  log .debug LogTarget.generator
    s!"Collected {collection.declarations.length} annotated type(s) with {collection.diagnostics.length} diagnostic(s)"
  return collection

def emitted (file : GeneratedFile) (declaration : Annotated) : LogRecord :=
  ⟨.debug, LogTarget.emission,
    s!"Emitted {declaration.bindings.length} logger message(s) for {file.typePath}"⟩

abbrev Owners := String → Option String

def Owners.none : Owners := fun _ => .none

def Owners.enter (owners : Owners) (name typePath : String) : Owners :=
  fun other => if other = name then some typePath else owners other

/-- Emits declarations from the position `ordinal` on; `owners` knows the files before. No two files
have one name. -/
def emitAll (emitter : Emitter) (ordinal : Nat) (owners : Owners) :
    List Annotated → Run m (List GeneratedFile)
  | [] => pure []
  | declaration :: rest => do
    check
    let file ← orStop (emitter.emit ordinal declaration)
    logAll [emitted file declaration]
    let entered := owners.enter file.name file.typePath
    match owners file.name with
    | some first => fail (Failure.duplicateFileName file.name first file.typePath).fault
    | none => return file :: (← emitAll emitter (ordinal + 1) entered rest)

def generate (generator : Generator) : Run m Generated := do
  let collection ← generator.collect
  let emitter ← orStop (Emission.orStop (Emitter.ofConfig generator.config))
  let files ← emitAll emitter 0 .none collection.declarations
  return ⟨files, collection.diagnostics⟩

/-- Where files go: as the caller says, else as configured, else as the environment says. -/
def resolveOutDir (generator : Generator) : Run m String := do
  match generator.outDir.or generator.config.outDir with
  | some dir => return dir
  | none =>
    match ← ExceptT.lift (Host.outDirVariable (m := m)) with
    | some dir => return dir
    | none => fail Failure.noOutDir.fault

def isUpToDate (path contents : String) : Run m Bool := do
  match ← ExceptT.lift (Host.readFile (m := m) path) with
  | .ok existing => return existing = contents
  | .error _ => return false

def writeIfChanged (path contents : String) : Run m Unit := do
  if ← isUpToDate path contents then log .debug LogTarget.generator s!"{path} is up to date"
  else orFail (.writeFile path) (← ExceptT.lift (Host.writeFile path contents))

def writeFiles (dir : String) : List GeneratedFile → Run m (List String)
  | [] => pure []
  | file :: rest => do
    let path := joinFile dir file.name
    writeIfChanged path file.contents
    return path :: (← writeFiles dir rest)

/-- Generates and writes every file. Files that would not change are left alone. -/
def write (generator : Generator) : Run m (List String) := do
  let dir ← generator.resolveOutDir
  let generated ← generator.generate
  orFail (.createDir dir) (← ExceptT.lift (Host.createDirs dir))
  let written ← writeFiles dir generated.files
  log .info LogTarget.generator s!"Generated {written.length} file(s) in {dir}"
  return written

def staleFiles (dir : String) : List GeneratedFile → Run m (List String)
  | [] => pure []
  | file :: rest => do
    let path := joinFile dir file.name
    let isCurrent ← isUpToDate path file.contents
    let more ← staleFiles dir rest
    return if isCurrent then more else path :: more

def stale (generator : Generator) : Run m (List String) := do
  let dir ← generator.resolveOutDir
  let generated ← generator.generate
  staleFiles dir generated.files

end Generator

def Config.load (path : String) : Run m Config := do
  let text ← orFail (.readConfig path) (← ExceptT.lift (Host.readFile path))
  match Config.ofText? text with
  | some config => return config
  | none => fail (Failure.parseConfig path).fault

end TypedLogging
