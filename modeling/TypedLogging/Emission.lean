import TypedLogging.Config
import TypedLogging.Emission.Print

namespace TypedLogging

open Source (Code words)

structure GeneratedFile where
  name : String
  typePath : String
  contents : String
  deriving DecidableEq

namespace Emission

structure Extension where
  typePath : String
  typeName : String
  visible : Code
  helpers : List Helper

namespace Extension

def generic (extension : Extension) : List Helper := extension.helpers.filter (·.scope = .generic)

def interface (extension : Extension) : List Helper := extension.helpers.filter (·.scope = .interface)

def traitName (extension : Extension) : String := extension.typeName ++ "LoggerMessages"

def inherentCode (logCrate : Code) (extension : Extension) : Code :=
  words ["impl", extension.typeName] ++
    [braces (extension.helpers.flatMap constantCode
      ++ extension.generic.flatMap (functionCode logCrate extension.visible extension.typePath))]

def traitDoc (extension : Extension) : String :=
  s!"Logger messages of `{extension.typePath}`, callable on any logger."

def traitCode (extension : Extension) : Code :=
  docAttribute extension.traitDoc ++ extension.visible ++ words ["trait", extension.traitName]
    ++ [braces (extension.interface.flatMap signatureCode)]

def traitImplCode (logCrate : Code) (extension : Extension) : Code :=
  words ["impl", "<", "L", ":"] ++ below logCrate ["Log"]
    ++ words ["+", "?", "Sized", ">", extension.traitName, "for", "L"]
    ++ [braces (extension.interface.flatMap (methodCode logCrate extension.typePath))]

def header (extension : Extension) : String :=
  s!"// @generated by logmsg from the logger messages on `{extension.typePath}`.\n"
    ++ "// Do not edit by hand.\n\n"

def contents (logCrate : Code) (includeHeader : Bool) (extension : Extension) : String :=
  (if includeHeader then extension.header else "")
    ++ Code.text (extension.inherentCode logCrate) ++ "\n"
    ++ if extension.interface.isEmpty then ""
      else "\n" ++ Code.text extension.traitCode ++ "\n\n" ++ Code.text (extension.traitImplCode logCrate)
        ++ "\n"

end Extension

/-- The visibility of what is generated. A text that is no visibility stands for none. -/
def visibleOf (modifiers : String) : Code := (Source.visibilityOfText? modifiers).getD []

def extensionOf (ordinal : Nat) (declaration : Annotated) : Except Stop Extension := do
  return {
    typePath := declaration.typePath
    typeName := sanitize declaration.typeName
    visible := visibleOf declaration.modifiers
    helpers := ← helpersOf ordinal declaration }

end Emission

structure Emitter where
  includeHeader : Bool
  logCrate : Code
  isPath : ∃ text, Source.pathOfText? text = some logCrate

namespace Emitter

def ofConfig (config : Config) : Except Fault Emitter :=
  match h : Source.pathOfText? config.logCrate with
  | some logCrate => .ok ⟨config.includeHeader, logCrate, config.logCrate, h⟩
  | none => .error (Failure.invalidConfigPath .logCrate config.logCrate).fault

def emit (emitter : Emitter) (ordinal : Nat) (declaration : Annotated) :
    Except Stop GeneratedFile := do
  let extension ← Emission.extensionOf ordinal declaration
  return ⟨Emission.fileName declaration, extension.typePath,
    extension.contents emitter.logCrate emitter.includeHeader⟩

end Emitter

end TypedLogging
