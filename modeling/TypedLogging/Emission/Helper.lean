import TypedLogging.Emission.Format
import TypedLogging.Emission.Name
import TypedLogging.Failure
import TypedLogging.Source.Parse
import TypedLogging.Text.Integer

namespace TypedLogging.Emission

open Source (Code)

structure Param where
  name : String
  type : Code

structure Helper where
  doc : String
  constant : String
  method : String
  eventId : Int
  level : Option String
  format : String
  params : List Param
  errorParam : String
  scope : ExtensionScope

def Helper.paramNames (helper : Helper) : List String := helper.params.map (·.name)

structure Arm where
  errorVariable : Option String
  format : String
  arguments : List String

/-- The body of a helper. It matches the error parameter against the two arms; a body that goes
through a logger first introduces variables for the level and the metadata. -/
inductive Body
  | silent (used : List String)
  | direct (level matched : String) (withError without : Arm)
  | throughLogger (level levelVariable metadataVariable matched : String) (withError without : Arm)

def Helper.armWithError (helper : Helper) : Arm :=
  ⟨some helper.errorParam, withError helper.format, helper.paramNames ++ [helper.errorParam]⟩

def Helper.armWithout (helper : Helper) : Arm := ⟨none, helper.format, helper.paramNames⟩

def Helper.body (helper : Helper) : Body :=
  match helper.level, helper.scope with
  | none, _ => .silent (helper.paramNames ++ [helper.errorParam])
  | some level, .generic =>
    .direct level helper.errorParam helper.armWithError helper.armWithout
  | some level, .interface =>
    .throughLogger level "level" "metadata" helper.errorParam helper.armWithError helper.armWithout

def Body.introduced : Body → List String
  | .silent _ => []
  | .direct _ _ withError without => withError.errorVariable.toList ++ without.errorVariable.toList
  | .throughLogger _ level metadata _ withError without =>
    [level, metadata] ++ withError.errorVariable.toList ++ without.errorVariable.toList

/-- The member that says a message is never logged. -/
def neverLogs : String := "None"

def levelName? : Severity → Option String
  | .trace => some "Trace"
  | .debug => some "Debug"
  | .information => some "Info"
  | .warning => some "Warn"
  | .error | .critical => some "Error"
  | .unknown => none

def isEmittable (level : MemberRef) : Bool :=
  Severity.ofName level.member ≠ .unknown || level.member = neverLogs

def levelOf (binding : Binding) : Except Fault (Option String) :=
  match levelName? binding.severity with
  | some name => .ok (some name)
  | none =>
    if binding.logLevel.member = neverLogs then .ok none
    else .error (Failure.invalidLogLevel binding.name binding.logLevel.text).fault

def eventIdOf (binding : Binding) : EventId → Except Fault Int
  | .derived value => .ok value
  | .explicit text =>
    match Text.readInt32 text with
    | .ok value => .ok value
    | .error fault => .error ((Failure.invalidEventId binding.name text).because fault.message)

def typeOf (binding : Binding) (slot : Slot) : Except Fault Code :=
  match Source.typeOfText? slot.type.qualified with
  | some code => .ok code
  | none => .error (Failure.invalidPlaceholderType binding.name slot.type.qualified).fault

def paramNames (slots : List Slot) : List String :=
  uniqueAll [] (slots.map fun slot => sanitize (TypedLogging.snake slot.aliasName))

def docOf (binding : Binding) : String :=
  s!"`{binding.name}`: \"{binding.template.raw}\" at `{binding.logLevel.text}`"

def methodOf (binding : Binding) (taken : List String) : String :=
  unique (sanitize (TypedLogging.snake binding.name)) taken

def constantOf (method : String) : String := TypedLogging.shouty method ++ "_EVENT_ID"

def orStop {α : Type} : Except Fault α → Except Stop α
  | .ok value => .ok value
  | .error fault => .error (.fault fault)

def identifier (name : String) : Except Stop String :=
  if Source.Literal.isIdentifierText name.toList then .ok name else .error (.badIdentifier name)

def helperOf (binding : Binding) (eventId : EventId) (taken : List String) :
    Except Stop Helper := do
  let value ← orStop (eventIdOf binding eventId)
  let method := methodOf binding taken
  let slots := binding.template.slots
  let types ← orStop (slots.mapM (typeOf binding))
  let names := paramNames slots
  let constant ← identifier (constantOf method)
  let level ← orStop (levelOf binding)
  return {
    doc := docOf binding
    constant
    method
    eventId := value
    level
    format := formatString binding.template
    params := (names.zip types).map fun (name, type) => ⟨name, type⟩
    errorParam := unique "error" names
    scope := binding.scope }

def helpersFrom (ordinal index : Nat) (taken : List String) :
    List Binding → Except Stop (List Helper)
  | [] => .ok []
  | binding :: rest => do
    let helper ← helperOf binding (binding.eventId ordinal index) taken
    let more ← helpersFrom ordinal (index + 1) (helper.method :: taken) rest
    return helper :: more

def helpersOf (ordinal : Nat) (declaration : Annotated) : Except Stop (List Helper) :=
  helpersFrom ordinal 0 [] declaration.bindings

end TypedLogging.Emission
