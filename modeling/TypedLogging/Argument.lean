namespace TypedLogging

structure MemberRef where
  segments : List String
  qualified : 2 ≤ segments.length

namespace MemberRef

def ofSegments? (segments : List String) : Option MemberRef :=
  if h : 2 ≤ segments.length then some ⟨segments, h⟩ else none

def member (path : MemberRef) : String := path.segments.getLastD ""

def text (path : MemberRef) : String := "::".intercalate path.segments

end MemberRef

instance : DecidableEq MemberRef := fun a b =>
  decidable_of_iff (a.segments = b.segments)
    ⟨fun h => by cases a; cases b; simpa using h, fun h => h ▸ rfl⟩

inductive ArgValue
  | string (text : String)
  | number (digits : String)
  | member (path : MemberRef)
  | other (code : String)
  deriving DecidableEq

def ArgValue.shape : ArgValue → String
  | .string _ => "a string literal"
  | .number _ => "a number literal"
  | .member _ => "a member reference"
  | .other _ => "an expression"

structure Argument where
  name : Option String
  value : ArgValue
  deriving DecidableEq

inductive Parameter
  | name
  | logLevel
  | format
  | eventId
  | extensionScope
  deriving DecidableEq

namespace Parameter

def all : List Parameter := [.name, .logLevel, .format, .eventId, .extensionScope]

def camel : Parameter → String
  | .name => "name"
  | .logLevel => "logLevel"
  | .format => "format"
  | .eventId => "eventId"
  | .extensionScope => "extensionScope"

def snake : Parameter → String
  | .name => "name"
  | .logLevel => "log_level"
  | .format => "format"
  | .eventId => "event_id"
  | .extensionScope => "extension_scope"

/-- Both spellings of a name are accepted. -/
def ofName? (name : String) : Option Parameter :=
  all.find? fun parameter => name = parameter.camel ∨ name = parameter.snake

def ofIndex? (index : Nat) : Option Parameter := all[index]?

end Parameter

end TypedLogging
