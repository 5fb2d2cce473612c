namespace TypedLogging.Text

def splitPath : List Char → List (List Char)
  | ':' :: ':' :: rest => [] :: splitPath rest
  | c :: rest =>
    match splitPath rest with
    | [] => [[c]]
    | segment :: more => (c :: segment) :: more
  | [] => [[]]

end TypedLogging.Text

namespace TypedLogging

def pathSegments (path : String) : List String :=
  (Text.splitPath path.toList).map String.ofList

def joinPath (segments : List String) : String := "::".intercalate segments

def qualify (here : Option String) (name : String) : String :=
  match here with
  | some path => s!"{path}::{name}"
  | none => name

end TypedLogging
