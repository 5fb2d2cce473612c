import TypedLogging.Argument

namespace TypedLogging

inductive BindError
  | malformed (parameter : Parameter) (expected found : String)
  | missing (parameter : Parameter)
  | noPlaceholders (format : String)
  | unresolvedType (token : String) (candidates : Nat)
  | noParameter (which : String)
  deriving DecidableEq

def BindError.message : BindError → String
  | .malformed parameter expected found =>
    s!"argument `{parameter.camel}` must be {expected}, found {found}"
  | .missing parameter => s!"required argument `{parameter.camel}` is missing or empty"
  | .noPlaceholders format => s!"format `{format}` contains no `\x7bName:Type\x7d` placeholder"
  | .unresolvedType token candidates =>
    s!"type `{token}` matches {candidates} visible types, expected exactly one"
  | .noParameter which => s!"there is no parameter {which}"

end TypedLogging
