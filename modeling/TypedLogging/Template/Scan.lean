import TypedLogging.Text.Bytes

namespace TypedLogging

/-- A placeholder; its start and length are in bytes, braces included. The type is empty for
placeholders that have none. -/
structure Placeholder where
  aliasName : String
  type : String
  start : Nat
  length : Nat
  deriving DecidableEq

def Placeholder.stop (found : Placeholder) : Nat := found.start + found.length

inductive PlaceholderForm
  | typed
  | bare
  deriving DecidableEq

namespace Template

open Text

def isBrace (c : Char) : Bool := c == '\x7b' || c == '\x7d'

/-- Splits at the last colon that has something behind it. -/
def splitLastColon : List Char → Option (List Char × List Char)
  | [] => none
  | c :: rest =>
    match splitLastColon rest with
    | some (before, behind) => some (c :: before, behind)
    | none => if c = ':' ∧ rest ≠ [] then some ([], rest) else none

def splitBody : PlaceholderForm → List Char → Option (List Char × List Char)
  | _, [] => none
  | .bare, body => some (body, [])
  | .typed, c :: rest => (splitLastColon rest).map fun (before, behind) => (c :: before, behind)

def bodyAhead (text : List Char) : Option (List Char) :=
  let body := text.takeWhile fun c => !isBrace c
  if (text.drop body.length).head? = some '\x7d' then some body else none

/-- Scans the text from a byte offset on. `escaped` says whether an odd number of opening braces
stands before it; `skip` characters belong to the placeholder found last. -/
def scanFrom (form : PlaceholderForm) (start : Nat) (escaped : Bool) (skip : Nat) :
    List Char → List Placeholder
  | [] => []
  | c :: rest =>
    match skip with
    | skip + 1 => scanFrom form (start + c.utf8Size) false skip rest
    | 0 =>
      if c = '\x7b' ∧ !escaped then
        match bodyAhead rest with
        | some body =>
          match splitBody form body with
          | some (name, type) =>
            ⟨String.ofList name, String.ofList type, start, byteLength body + 2⟩
              :: scanFrom form (start + c.utf8Size) false (body.length + 1) rest
          | none => scanFrom form (start + c.utf8Size) true 0 rest
        | none => scanFrom form (start + c.utf8Size) true 0 rest
      else scanFrom form (start + c.utf8Size) false 0 rest

def scan (form : PlaceholderForm) (text : String) : List Placeholder :=
  scanFrom form 0 false 0 text.toList

def tokenize (text : String) : List Placeholder := scan .typed text

def aliases (text : String) : List Placeholder := scan .bare text

end Template

end TypedLogging
