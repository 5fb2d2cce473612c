import TypedLogging.Argument

namespace TypedLogging

/-- A scope around a declaration; any construct that is neither a namespace nor a type is given by
its kind. -/
inductive Scope
  | inNamespace (path : String)
  | inType (name : String)
  | other (kind : String)
  deriving DecidableEq

structure AttributeUse where
  name : String
  arguments : List Argument
  deriving DecidableEq

structure Declaration where
  name : String
  modifiers : String
  enclosing : List Scope
  attributes : List AttributeUse
  deriving DecidableEq

end TypedLogging
