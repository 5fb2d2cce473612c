import TypedLogging.Binding
import TypedLogging.Declaration
import TypedLogging.Log

namespace TypedLogging

inductive PlaceError
  | noNamespace (declaration : String)
  | disallowedScope (declaration kind : String)
  deriving DecidableEq

def PlaceError.message : PlaceError → String
  | .noNamespace declaration => s!"`{declaration}` is not inside a namespace"
  | .disallowedScope declaration kind =>
    s!"`{declaration}` is nested in a {kind}, which cannot hold generated messages"

inductive DiagnosticKind
  | binding (index : Nat) (error : BindError)
  | place (error : PlaceError)
  deriving DecidableEq

structure Diagnostic where
  declaration : String
  kind : DiagnosticKind
  deriving DecidableEq

def Diagnostic.text (diagnostic : Diagnostic) : String :=
  match diagnostic.kind with
  | .binding index error =>
    s!"{diagnostic.declaration}: logger message #{index + 1} skipped: {error.message}"
  | .place error => s!"{diagnostic.declaration}: skipped: {error.message}"

structure Annotated where
  namespaceName : String
  nesting : List String
  modifiers : String
  typeName : String
  bindings : List Binding
  deriving DecidableEq

def Annotated.typePath (declaration : Annotated) : String :=
  s!"{declaration.namespaceName}::{declaration.typeName}"

structure Collection where
  declarations : List Annotated
  diagnostics : List Diagnostic
  deriving DecidableEq

structure Message where
  declaration : Annotated
  binding : Binding
  eventId : EventId

def Annotated.messages (ordinal : Nat) (declaration : Annotated) : List Message :=
  declaration.bindings.zipIdx.map fun (binding, index) =>
    ⟨declaration, binding, binding.eventId ordinal index⟩

namespace Collection

def empty : Collection := ⟨[], []⟩

def append (first second : Collection) : Collection :=
  ⟨first.declarations ++ second.declarations, first.diagnostics ++ second.diagnostics⟩

def messages (collection : Collection) : List Message :=
  collection.declarations.zipIdx.flatMap fun (declaration, ordinal) => declaration.messages ordinal

end Collection

namespace Declaration

/-- The namespace around a declaration and the types between them, outermost first; `nesting` holds
the types passed so far. -/
def placeFrom (name : String) (nesting : List String) :
    List Scope → Except PlaceError (String × List String)
  | [] => .error (.noNamespace name)
  | .inType type :: rest => placeFrom name (type :: nesting) rest
  | .inNamespace path :: _ => .ok (path, nesting)
  | .other kind :: _ => .error (.disallowedScope name kind)

def place (declaration : Declaration) : Except PlaceError (String × List String) :=
  placeFrom declaration.name [] declaration.enclosing

def matching (declaration : Declaration) (name : String) : List AttributeUse :=
  declaration.attributes.filter (·.name = name)

def outcomes (declaration : Declaration) (name : String) (lookup : Lookup) (location : Location) :
    List (Except BindError Binding) :=
  (declaration.matching name).map fun use => bind lookup location use.arguments

end Declaration

def bound (outcomes : List (Except BindError Binding)) : List Binding :=
  outcomes.filterMap fun
    | .ok binding => some binding
    | .error _ => none

def failures (declaration : String) (outcomes : List (Except BindError Binding)) :
    List Diagnostic :=
  outcomes.zipIdx.filterMap fun
    | (.ok _, _) => none
    | (.error error, index) => some ⟨declaration, .binding index error⟩

def collect (name : String) (lookup : Lookup) (declaration : Declaration) : Collection :=
  if (declaration.matching name).isEmpty then .empty
  else match declaration.place with
    | .error error => ⟨[], [⟨declaration.name, .place error⟩]⟩
    | .ok (namespaceName, nesting) =>
      let outcomes := declaration.outcomes name lookup ⟨namespaceName, nesting⟩
      let bindings := bound outcomes
      ⟨if bindings.isEmpty then []
        else [⟨namespaceName, nesting, declaration.modifiers, declaration.name, bindings⟩],
        failures declaration.name outcomes⟩

def Diagnostic.warning (diagnostic : Diagnostic) : String :=
  match diagnostic.kind with
  | .binding _ _ => diagnostic.text
  | .place error => error.message

def Collection.records (collection : Collection) : List LogRecord :=
  collection.diagnostics.map (fun diagnostic => ⟨.warn, LogTarget.collection, diagnostic.warning⟩)
    ++ collection.declarations.map fun declaration =>
      ⟨.debug, LogTarget.collection,
        s!"Collected {declaration.bindings.length} logger message(s) on {declaration.typePath}"⟩

end TypedLogging
