import TypedLogging.Emission
import TypedLogging.Proofs.Source.Reading

namespace TypedLogging.Emission

open Source (Code Reading TokenTree words)
open Source.Reading (expect group integer many name orEnd remaining string)

structure Constant where
  name : String
  value : Int
  deriving DecidableEq

structure Function where
  name : String
  params : List TokenTree
  body : Option Body

structure Interface where
  name : String
  signatures : List Function
  implemented : String
  methods : List Function

/-- What stands in the text of a generated file. -/
structure Layout where
  type : String
  constants : List Constant
  functions : List Function
  interface : Option Interface

namespace Read

section Bodies

variable {α : Type} (crate : Code) (target : String)

def namesOf? : List TokenTree → Option (List String)
  | [] => some []
  | [.ident name] => some [name]
  | .ident name :: .punct ',' _ :: rest => (namesOf? rest).map (name :: ·)
  | _ => none

def names : Reading (List String) := fun trees => (namesOf? trees).map (·, [])

def said (text : String) : Reading Unit := do
  let found ← string
  guard (found = text)

def inCrate (path : List String) : Reading Unit := do
  expect crate
  expect (words path)

def nothing : Reading Unit := group .paren (pure ())

def call (method : String) (arguments : Reading α) : Reading α := do
  expect (words [".", method])
  group .paren arguments

def formatted : Reading (String × List String) := do
  let format ← string
  expect (words [","])
  let arguments ← names
  return (format, arguments)

def level : Reading String := do
  inCrate crate ["::", "Level", "::"]
  name

def directCall : Reading (String × String × List String) := do
  inCrate crate ["::", "log", "!"]
  group .paren do
    expect (words ["target", ":"])
    said target
    expect (words [","])
    let level ← level crate
    expect (words [","])
    let logged ← formatted
    return (level, logged)

def record (metadata : String) : Reading (String × List String) := do
  expect (words ["&"])
  inCrate crate ["::", "Record", "::", "builder"]
  nothing
  call "metadata" (expect (words [metadata]))
  let logged ← call "args" do
    expect (words ["format_args", "!"])
    group .paren formatted
  call "build" (pure ())
  expect (words [","])
  return logged

def loggerCall (metadata : String) : Reading (Unit × String × List String) := do
  expect (words ["self", ".", "log"])
  let logged ← group .paren (record crate metadata)
  return ((), logged)

/-- The two arms of a match, with what is called in them. -/
def arms (call : Reading (α × String × List String)) : Reading ((α × Arm) × (α × Arm)) := do
  expect (words ["Some"])
  let error ← group .paren name
  expect (words ["=>"])
  let (first, format, arguments) ← call
  expect (words [",", "None", "=>"])
  let (second, other, others) ← call
  expect (words [","])
  return ((first, ⟨some error, format, arguments⟩), (second, ⟨none, other, others⟩))

def matching (call : Reading (α × String × List String)) :
    Reading (String × (α × Arm) × (α × Arm)) := do
  expect (words ["match"])
  let matched ← name
  let found ← group .brace (arms call)
  return (matched, found)

def direct : Reading Body := do
  let (matched, (level, withError), (other, without)) ← matching (directCall crate target)
  guard (level = other)
  return .direct level matched withError without

def silent : Reading Body := do
  expect (words ["="])
  let used ← group .paren names
  expect (words [";"])
  return .silent used

/-- What stands between the name of the metadata and the block that logs. -/
def enabling (levelVariable metadata : String) : Reading Unit := do
  expect (words ["="])
  inCrate crate ["::", "Metadata", "::", "builder"]
  nothing
  call "level" (expect (words [levelVariable]))
  call "target" (said target)
  call "build" (pure ())
  expect (words [";", "if", levelVariable, "<="])
  inCrate crate ["::", "max_level"]
  nothing
  expect (words ["&&", "self"])
  call "enabled" (expect (words ["&", metadata]))

def throughLogger (levelVariable : String) : Reading Body := do
  expect (words ["="])
  let level ← level crate
  expect (words [";", "let"])
  let metadata ← name
  enabling crate target levelVariable metadata
  let (matched, (_, withError), (_, without)) ← group .brace (matching (loggerCall crate metadata))
  return .throughLogger level levelVariable metadata matched withError without

def binding : Reading Body := do
  expect (words ["let"])
  let bound ← name
  if bound = "_" then silent else throughLogger crate target bound

def body : Reading Body := direct crate target <|> binding crate target

end Bodies

section Items

variable (crate visible : Code) (target : String)

def documentation : Reading String := do
  expect (words ["#"])
  group .bracket do
    expect (words ["doc", "="])
    string

def declared : Reading Constant := do
  expect (words ["pub", "const"])
  let name ← name
  expect (words [":", "i32", "="])
  let value ← integer
  expect (words [";"])
  return ⟨name, value⟩

def constant : Reading Constant := do
  let _ ← documentation
  declared

def head : Reading (String × List TokenTree) := do
  expect (words ["fn"])
  let name ← name
  let params ← group .paren remaining
  return (name, params)

def function : Reading Function := do
  let _ ← documentation
  expect visible
  let (name, params) ← head
  let body ← group .brace (body crate target)
  return ⟨name, params, some body⟩

def signature : Reading Function := do
  let _ ← documentation
  let (name, params) ← head
  expect (words [";"])
  return ⟨name, params, none⟩

def method : Reading Function := do
  let (name, params) ← head
  let body ← group .brace (body crate target)
  return ⟨name, params, some body⟩

def traitItem : Reading (String × List Function) := do
  let _ ← documentation
  expect visible
  expect (words ["trait"])
  let name ← Reading.name
  let signatures ← group .brace (many signature)
  return (name, signatures)

/-- The implementation of a trait for everything that logs. -/
def traitImpl : Reading (String × List Function) := do
  expect (words ["impl", "<", "L", ":"])
  inCrate crate ["::", "Log"]
  expect (words ["+", "?", "Sized", ">"])
  let name ← Reading.name
  expect (words ["for", "L"])
  let methods ← group .brace (many (method crate target))
  return (name, methods)

def interface : Reading Interface := do
  let (name, signatures) ← traitItem visible
  let (implemented, methods) ← traitImpl crate target
  return ⟨name, signatures, implemented, methods⟩

def members : Reading (List Constant × List Function) := do
  let constants ← many constant
  let functions ← many (function crate visible target)
  return (constants, functions)

def inherent : Reading (String × List Constant × List Function) := do
  expect (words ["impl"])
  let type ← name
  let members ← group .brace (members crate visible target)
  return (type, members)

def layout : Reading Layout := do
  let (type, constants, functions) ← inherent crate visible target
  let interface ← orEnd (interface crate visible target)
  return ⟨type, constants, functions, interface⟩

end Items

end Read

/-- The layout of a text that is nothing but the code of a file. -/
def Layout.ofText? (crate visible : Code) (target text : String) : Option Layout := do
  let trees ← Source.readText? text
  let (layout, []) ← (Read.layout crate visible target).run trees | none
  return layout

end TypedLogging.Emission
