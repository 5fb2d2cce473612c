import TypedLogging.Emission.Helper
import TypedLogging.Text.Quoted

namespace TypedLogging.Emission

open Source

def parens (body : Code) : Piece := .group .paren body

def braces (body : Code) : Piece := .group .brace body

def literal (text : String) : Piece := .word (Text.quoted text)

def docAttribute (text : String) : Code :=
  [.word "#", .group .bracket (words ["doc", "="] ++ [literal text])]

def errorType : Code :=
  words ["Option", "<", "&"]
    ++ [parens (words ["dyn", "::", "std", "::", "error", "::", "Error", "+", "'static"])]
    ++ words [">"]

def below (logCrate : Code) (names : List String) : Code :=
  logCrate ++ names.flatMap fun name => words ["::", name]

def levelCode (logCrate : Code) (level : String) : Code := below logCrate ["Level", level]

def integerCode (value : Int) : Code :=
  if value < 0 then words ["-", toString value.natAbs] else words [toString value.natAbs]

def commaSeparated (names : List String) : Code := words (names.intersperse ",")

def constantCode (helper : Helper) : Code :=
  docAttribute s!"Event id of {helper.doc}"
    ++ words ["pub", "const", helper.constant, ":", "i32", "="]
    ++ integerCode helper.eventId ++ words [";"]

def paramCode (param : Param) : Code := words [param.name, ":", "&"] ++ param.type ++ words [","]

def paramsCode (helper : Helper) : Code :=
  helper.params.flatMap paramCode ++ words [helper.errorParam, ":"] ++ errorType

/-- A format and its arguments; where there are none a comma ends the list. -/
def formatCode (arm : Arm) : Code :=
  [literal arm.format, .word ","] ++ commaSeparated arm.arguments

def armCode (arm : Arm) (result : Code) : Code :=
  (match arm.errorVariable with
    | some name => [.word "Some", parens (words [name])]
    | none => words ["None"])
  ++ words ["=>"] ++ result ++ words [","]

def directCall (logCrate : Code) (target level : String) (arm : Arm) : Code :=
  below logCrate ["log"] ++
    [.word "!",
      parens (words ["target", ":"] ++ [literal target, .word ","] ++ levelCode logCrate level
        ++ words [","] ++ formatCode arm)]

def call (method : String) (arguments : Code) : Code :=
  words [".", method] ++ [parens arguments]

def loggerCall (logCrate : Code) (metadata : String) (arm : Arm) : Code :=
  words ["self", ".", "log"] ++
    [parens (words ["&"] ++ below logCrate ["Record", "builder"] ++ [parens []]
      ++ call "metadata" (words [metadata])
      ++ call "args" (words ["format_args", "!"] ++ [parens (formatCode arm)])
      ++ call "build" [] ++ words [","])]

def matchCode (matched : String) (arms : Code) : Code := words ["match", matched] ++ [braces arms]

def bodyCode (logCrate : Code) (target : String) : Body → Code
  | .silent used => words ["let", "_", "="] ++ [parens (commaSeparated used)] ++ words [";"]
  | .direct level matched withError without =>
    matchCode matched
      (armCode withError (directCall logCrate target level withError)
        ++ armCode without (directCall logCrate target level without))
  | .throughLogger level levelVariable metadata matched withError without =>
    words ["let", levelVariable, "="] ++ levelCode logCrate level ++ words [";"]
      ++ words ["let", metadata, "="] ++ below logCrate ["Metadata", "builder"] ++ [parens []]
      ++ call "level" (words [levelVariable]) ++ call "target" [literal target] ++ call "build" []
      ++ words [";", "if", levelVariable, "<="] ++ below logCrate ["max_level"] ++ [parens []]
      ++ words ["&&", "self"] ++ call "enabled" (words ["&", metadata])
      ++ [braces (matchCode matched
        (armCode withError (loggerCall logCrate metadata withError)
          ++ armCode without (loggerCall logCrate metadata without)))]

def helperBody (logCrate : Code) (target : String) (helper : Helper) : Piece :=
  braces (bodyCode logCrate target helper.body)

def functionCode (logCrate visible : Code) (target : String) (helper : Helper) : Code :=
  docAttribute helper.doc ++ visible ++ words ["fn", helper.method]
    ++ [parens (paramsCode helper), helperBody logCrate target helper]

def methodHead (helper : Helper) : Code :=
  words ["fn", helper.method] ++ [parens (words ["&", "self", ","] ++ paramsCode helper)]

def signatureCode (helper : Helper) : Code :=
  docAttribute helper.doc ++ methodHead helper ++ words [";"]

def methodCode (logCrate : Code) (target : String) (helper : Helper) : Code :=
  methodHead helper ++ [helperBody logCrate target helper]

end TypedLogging.Emission
