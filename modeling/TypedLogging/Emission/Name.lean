import TypedLogging.Collection
import TypedLogging.Source.Reader
import TypedLogging.Text.PathText
import TypedLogging.Text.Words

namespace TypedLogging.Emission

open Text

/-- Characters that are not allowed become underscores. A text without any becomes `arg`. -/
def plainName (text : List Char) : List Char :=
  match text.map fun c => if isAsciiAlphanumeric c then c else '_' with
  | [] => "arg".toList
  | c :: rest => if isAsciiDigit c then '_' :: c :: rest else c :: rest

def sanitize (text : String) : String :=
  let name := String.ofList (plainName text.toList)
  if Source.isReserved name then name.push '_' else name

def numbered (base : String) (number : Nat) : String := s!"{base}_{number}"

def firstFree (base : String) (taken : List String) : Nat → Nat → String
  | 0, number => numbered base number
  | fuel + 1, number =>
    if taken.contains (numbered base number) then firstFree base taken fuel (number + 1)
    else numbered base number

/-- The base if it is free, else the base with the least number from two on that is. Among one more
numbers than there are names taken, one is free. -/
def unique (base : String) (taken : List String) : String :=
  if taken.contains base then firstFree base taken taken.length 2 else base

def uniqueAll (taken : List String) : List String → List String
  | [] => []
  | base :: rest =>
    let name := unique base taken
    name :: uniqueAll (name :: taken) rest

def fileSegments (declaration : Annotated) : List String :=
  (pathSegments declaration.namespaceName).filter (fun segment => segment ≠ "" && segment ≠ "crate")
    ++ [declaration.typeName]

/-- Snake case never has two underscores in a row, so the segments stay apart. -/
def fileName (declaration : Annotated) : String :=
  "__".intercalate ((fileSegments declaration).map TypedLogging.snake) ++ "_logger_messages.rs"

end TypedLogging.Emission
