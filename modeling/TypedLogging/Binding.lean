import TypedLogging.EventId
import TypedLogging.Template

namespace TypedLogging

inductive ExtensionScope
  | generic
  | interface
  deriving DecidableEq

def ExtensionScope.name : ExtensionScope → String
  | .generic => "Generic"
  | .interface => "Interface"

structure Binding where
  name : String
  logLevel : MemberRef
  template : Template
  explicitId : Option String
  scope : ExtensionScope
  deriving DecidableEq

namespace Binding

def severity (binding : Binding) : Severity := .ofName binding.logLevel.member

def eventId (binding : Binding) (declaration index : Nat) : EventId :=
  match binding.explicitId with
  | some text => .explicit text
  | none => .derived (derivedId binding.severity.code declaration index)

structure Fields where
  name : Option String
  logLevel : Option MemberRef
  template : Option Template
  explicitId : Option String
  scope : ExtensionScope

def Fields.empty : Fields := ⟨none, none, none, none, .generic⟩

def parameterOf (position : Nat) (argument : Argument) : Except BindError Parameter :=
  match argument.name with
  | some name =>
    match Parameter.ofName? name with
    | some parameter => .ok parameter
    | none => .error (.noParameter s!"named `{name}`")
  | none =>
    match Parameter.ofIndex? position with
    | some parameter => .ok parameter
    | none => .error (.noParameter s!"at position {position}")

def scopeOf (path : MemberRef) : Except BindError ExtensionScope :=
  match path.member with
  | "Generic" => .ok .generic
  | "Interface" => .ok .interface
  | _ => .error (.malformed .extensionScope "`Scope::Generic` or `Scope::Interface`"
      (ArgValue.member path).shape)

def formatOf (lookup : Lookup) (location : Location) (raw : String) : Except BindError Template :=
  if raw = "" then .error (.missing .format) else Template.parse lookup location raw

/-- A later value of a parameter replaces an earlier one. -/
def Fields.set (fields : Fields) (lookup : Lookup) (location : Location) (parameter : Parameter)
    (value : ArgValue) : Except BindError Fields :=
  match parameter, value with
  | .name, .string text => .ok { fields with name := some text }
  | .logLevel, .member path => .ok { fields with logLevel := some path }
  | .format, .string raw => do return { fields with template := some (← formatOf lookup location raw) }
  | .eventId, .number text | .eventId, .string text => .ok { fields with explicitId := some text }
  | .extensionScope, .member path => do return { fields with scope := ← scopeOf path }
  | .name, _ | .format, _ => .error (.malformed parameter "a string literal" value.shape)
  | .logLevel, _ | .extensionScope, _ =>
    .error (.malformed parameter "a member reference" value.shape)
  | .eventId, _ => .error (.malformed parameter "a number or string literal" value.shape)

def nextPosition (position : Nat) (argument : Argument) : Nat :=
  if argument.name.isSome then position else position + 1

def bindFields (lookup : Lookup) (location : Location) (fields : Fields) (position : Nat) :
    List Argument → Except BindError Fields
  | [] => .ok fields
  | argument :: rest => do
    let parameter ← parameterOf position argument
    let fields ← fields.set lookup location parameter argument.value
    bindFields lookup location fields (nextPosition position argument) rest

def required {α : Type} (parameter : Parameter) : Option α → Except BindError α
  | some value => .ok value
  | none => .error (.missing parameter)

/-- An empty name counts as none. -/
def Fields.complete (fields : Fields) : Except BindError Binding := do
  let name ← required .name (fields.name.filter (· ≠ ""))
  let logLevel ← required .logLevel fields.logLevel
  let template ← required .format fields.template
  return ⟨name, logLevel, template, fields.explicitId, fields.scope⟩

end Binding

def bind (lookup : Lookup) (location : Location) (arguments : List Argument) :
    Except BindError Binding := do
  (← Binding.bindFields lookup location .empty 0 arguments).complete

end TypedLogging
