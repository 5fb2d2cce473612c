import TypedLogging.Emission.Helper
import TypedLogging.Source.Arguments

namespace TypedLogging

inductive Invalid
  | unparsed
  | message (text : String)
  deriving DecidableEq

namespace Validation

/-- Every type is visible under its own name. -/
def anyType : Lookup := fun _ name =>
  if (Source.typeOfText? name).isSome then [.type name name] else []

def checkItem : Source.Item → Except Invalid Unit
  | .typeItem item =>
    if item.isGeneric then
      .error (.message "logger messages cannot be declared on generic types")
    else .ok ()
  | _ => .error (.message
      "`#[logger_message]` can only be applied to a struct, enum or union")

def levelText (level : MemberRef) : String :=
  s!"unknown log level `{level.text}`, expected `Trace`, `Debug`, `Information`, `Warning`, "
    ++ "`Error`, `Critical` or `None`"

def checkLevel (level : MemberRef) : Except Invalid Unit :=
  if Emission.isEmittable level then .ok () else .error (.message (levelText level))

def checkEventId : Option String → Except Invalid Unit
  | none => .ok ()
  | some text =>
    match Text.readInt32 text with
    | .ok _ => .ok ()
    | .error _ => .error (.message s!"event id `{text}` is not a 32-bit integer")

def checkArguments (arguments : List Argument) : Except Invalid Unit :=
  match bind anyType ⟨"", []⟩ arguments with
  | .error error => .error (.message s!"invalid logger message: {error.message}")
  | .ok binding => do
    checkLevel binding.logLevel
    checkEventId binding.explicitId

end Validation

/-- Checks the item first and the arguments of the attribute on it then. -/
def validate (arguments item : List Source.TokenTree) : Except Invalid Unit := do
  match Source.Item.ofTrees? item with
  | none => throw .unparsed
  | some item => Validation.checkItem item
  match Source.readArguments? arguments with
  | none => throw .unparsed
  | some arguments => Validation.checkArguments arguments

end TypedLogging
