import TypedLogging.BindError
import TypedLogging.Symbol
import TypedLogging.Template.Scan

namespace TypedLogging

/-- A placeholder of a parsed template; the span of `{Alias}` in the normalized text is in bytes. -/
structure Slot where
  aliasName : String
  type : TypeRef
  start : Nat
  stop : Nat
  deriving DecidableEq

structure Template where
  raw : String
  normalized : String
  slots : List Slot
  deriving DecidableEq

namespace Template

open Text

def resolveType (lookup : Lookup) (location : Location) (token : String) :
    Except BindError TypeRef :=
  match lookup.resolve location token with
  | .ok type => .ok type
  | .error candidates => .error (.unresolvedType token candidates)

def normalize (lookup : Lookup) (location : Location) (offset written : Nat) (rest : List Char) :
    List Placeholder → Except BindError (List Char × List Slot)
  | [] => .ok (rest, [])
  | found :: more => do
    let type ← resolveType lookup location found.type
    let before := takeBytes (found.start - offset) rest
    let body := '\x7b' :: found.aliasName.toList ++ ['\x7d']
    let start := written + byteLength before
    let stop := start + byteLength body
    let (text, slots) ←
      normalize lookup location found.stop stop (dropBytes (found.stop - offset) rest) more
    return (before ++ body ++ text, ⟨found.aliasName, type, start, stop⟩ :: slots)

/-- A template has at least one placeholder. -/
def parse (lookup : Lookup) (location : Location) (raw : String) : Except BindError Template :=
  match tokenize raw with
  | [] => .error (.noPlaceholders raw)
  | found => do
    let (text, slots) ← normalize lookup location 0 0 raw.toList found
    return ⟨raw, String.ofList text, slots⟩

end Template

end TypedLogging
