import TypedLogging.Config.Document

namespace TypedLogging

structure Config where
  attributeName : String
  macroCrate : String
  logCrate : String
  outDir : Option String
  includeHeader : Bool
  deriving DecidableEq

namespace Config

def default : Config := ⟨"logger_message", "logmsg_macro", "log", none, true⟩

def qualifiedAttribute (config : Config) : String :=
  s!"{config.macroCrate}::{config.attributeName}"

def fieldNames : List String :=
  ["attribute", "macro_crate", "log_crate", "out_dir", "include_header"]

def set (config : Config) : String × Scalar → Option Config
  | ("attribute", .string value) => some { config with attributeName := value }
  | ("macro_crate", .string value) => some { config with macroCrate := value }
  | ("log_crate", .string value) => some { config with logCrate := value }
  | ("out_dir", .string value) => some { config with outDir := some value }
  | ("out_dir", .null) => some { config with outDir := none }
  | ("include_header", .bool value) => some { config with includeHeader := value }
  | _ => none

/-- Fields that are not given keep their defaults; no field is given twice, and there are no others. -/
def ofMembers? (members : List (String × Scalar)) : Option Config := do
  guard (members.map (·.1)).Nodup
  members.foldlM set default

/-- An array gives the fields in their order. -/
def ofDocument? : Document → Option Config
  | .object members => ofMembers? members
  | .array values => do
    guard (values.length ≤ fieldNames.length)
    ofMembers? (fieldNames.zip values)

def ofText? (text : String) : Option Config := do ofDocument? (← Document.ofText? text)

def toDocument (config : Config) : Document :=
  .object
    [("attribute", .string config.attributeName), ("macro_crate", .string config.macroCrate),
     ("log_crate", .string config.logCrate),
     ("out_dir", match config.outDir with
        | some dir => .string dir
        | none => .null),
     ("include_header", .bool config.includeHeader)]

end Config

end TypedLogging
