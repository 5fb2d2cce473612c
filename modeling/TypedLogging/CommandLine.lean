import TypedLogging.CommandLine.Console
import TypedLogging.Generator

namespace TypedLogging.CommandLine

open Run

variable {m : Type → Type} [Monad m] [Host m]

def defaultModule : String := "crate"

def generatorOf (options : Options) : Run m Generator := do
  let config ← match options.config with
    | some path => do
      log .debug LogTarget.command s!"Loading configuration from {path}"
      Config.load path
    | none => pure Config.default
  let here := options.modulePath.getD defaultModule
  return ⟨config, options.files.map (SourceFile.ofFile · here), options.outDir⟩

def messageText (message : Message) : String :=
  s!"{message.declaration.typePath} {message.binding.name} (event id {message.eventId.text})"

def infoAll (target : String) (texts : List String) : Run m Unit :=
  logAll (texts.map fun text => ⟨.info, target, text⟩)

def check (options : Options) : Run m Unit := do
  let collection ← (← generatorOf options).collect
  infoAll LogTarget.check (collection.messages.map messageText)
  let count := collection.diagnostics.length
  if 0 < count then fail (Failure.diagnosticsReported count).fault

def verify (generator : Generator) : Run m Unit := do
  let stale ← generator.stale
  logAll (stale.map fun path => ⟨.warn, LogTarget.generate, s!"{path} is out of date"⟩)
  if !stale.isEmpty then fail (Failure.outOfDate stale.length).fault
  log .info LogTarget.generate "Generated files are up to date"

def generate (options : Options) : Run m Unit := do
  let generator ← generatorOf options
  if options.checkOnly then verify generator
  else
    let written ← generator.write
    infoAll LogTarget.generate (written.map fun path => s!"Wrote {path}")

def perform (invocation : Invocation) : Run m Unit :=
  match invocation.kind with
  | .generate => generate invocation.options
  | .check => check invocation.options

/-- The records that report a fault; what lies behind it is only shown to those who want details. -/
def faultRecords (fault : Fault) : List LogRecord :=
  ⟨.error, LogTarget.reporter, fault.failure.message⟩
    :: (fault.cause.map fun cause => ⟨.debug, LogTarget.reporter, s!"Error cause: {cause}"⟩).toList

def execute (invocation : Invocation) : m ExitStatus := do
  match ← (perform invocation).run with
  | .ok () => return .success
  | .error (.fault fault) =>
    (faultRecords fault).forM Host.log
    return fault.failure.exitStatus
  | .error (.badIdentifier _) => return .aborted

end TypedLogging.CommandLine
