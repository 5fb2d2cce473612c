namespace TypedLogging.Config

inductive Scalar
  | null
  | bool (value : Bool)
  | string (value : String)
  deriving DecidableEq

inductive Document
  | object (members : List (String × Scalar))
  | array (values : List Scalar)
  deriving DecidableEq

namespace Document

def isBlank (c : Char) : Bool := c == ' ' || c == '\t' || c == '\n' || c == '\r'

def skipBlanks (text : List Char) : List Char := text.dropWhile isBlank

def hexValue? (c : Char) : Option Nat :=
  let n := c.toNat
  if 48 ≤ n && n ≤ 57 then some (n - 48)
  else if 65 ≤ n && n ≤ 70 then some (n - 55)
  else if 97 ≤ n && n ≤ 102 then some (n - 87)
  else none

def unit? (a b c d : Char) : Option Nat := do
  return (((← hexValue? a) * 16 + (← hexValue? b)) * 16 + (← hexValue? c)) * 16 + (← hexValue? d)

def isHighSurrogate (n : Nat) : Bool := 0xd800 ≤ n && n < 0xdc00

def isLowSurrogate (n : Nat) : Bool := 0xdc00 ≤ n && n < 0xe000

def joinSurrogates (high low : Nat) : Nat := 0x10000 + (high - 0xd800) * 1024 + (low - 0xdc00)

def escaped? : Char → Option Char
  | '"' => some '"'
  | '\\' => some '\\'
  | '/' => some '/'
  | 'b' => some '\x08'
  | 'f' => some '\x0c'
  | 'n' => some '\n'
  | 'r' => some '\r'
  | 't' => some '\t'
  | _ => none

/-- The rest of a string up to its closing quote, escapes resolved, and the text behind it. Surrogates
come in pairs. -/
def readString : List Char → Option (List Char × List Char)
  | '"' :: rest => some ([], rest)
  | '\\' :: 'u' :: a :: b :: c :: d :: rest => do
    let first ← unit? a b c d
    if isHighSurrogate first then
      match rest with
      | '\\' :: 'u' :: a :: b :: c :: d :: rest =>
        let second ← unit? a b c d
        guard (isLowSurrogate second)
        let (text, behind) ← readString rest
        return (Char.ofNat (joinSurrogates first second) :: text, behind)
      | _ => none
    else
      guard (!isLowSurrogate first)
      let (text, behind) ← readString rest
      return (Char.ofNat first :: text, behind)
  | '\\' :: c :: rest => do
    let char ← escaped? c
    let (text, behind) ← readString rest
    return (char :: text, behind)
  | c :: rest => do
    guard (32 ≤ c.toNat && c != '\\')
    let (text, behind) ← readString rest
    return (c :: text, behind)
  | [] => none

def readScalar : List Char → Option (Scalar × List Char)
  | '"' :: rest => do
    let (text, behind) ← readString rest
    return (.string (String.ofList text), behind)
  | 'n' :: 'u' :: 'l' :: 'l' :: rest => some (.null, rest)
  | 't' :: 'r' :: 'u' :: 'e' :: rest => some (.bool true, rest)
  | 'f' :: 'a' :: 'l' :: 's' :: 'e' :: rest => some (.bool false, rest)
  | _ => none

def readMember : List Char → Option ((String × Scalar) × List Char)
  | '"' :: rest => do
    let (name, behind) ← readString rest
    match skipBlanks behind with
    | ':' :: rest =>
      let (value, behind) ← readScalar (skipBlanks rest)
      return ((String.ofList name, value), behind)
    | _ => none
  | _ => none

def readElements {α : Type} (element : List Char → Option (α × List Char)) (closing : Char) :
    Nat → List Char → Option (List α × List Char)
  | 0, _ => none
  | fuel + 1, text => do
    let (first, behind) ← element (skipBlanks text)
    match skipBlanks behind with
    | ',' :: rest =>
      let (more, behind) ← readElements element closing fuel rest
      return (first :: more, behind)
    | c :: rest => if c = closing then return ([first], rest) else none
    | [] => none

def readList {α : Type} (element : List Char → Option (α × List Char)) (closing : Char)
    (text : List Char) : Option (List α × List Char) :=
  match skipBlanks text with
  | c :: rest =>
    if c = closing then some ([], rest)
    else readElements element closing (text.length + 1) (c :: rest)
  | [] => none

def read : List Char → Option (Document × List Char)
  | '\x7b' :: rest => (readList readMember '\x7d' rest).map fun (members, behind) =>
    (.object members, behind)
  | '[' :: rest => (readList readScalar ']' rest).map fun (values, behind) => (.array values, behind)
  | _ => none

def ofText? (text : String) : Option Document := do
  let (document, behind) ← read (skipBlanks text.toList)
  guard (skipBlanks behind).isEmpty
  return document

def hexDigit (n : Nat) : Char := if n < 10 then Char.ofNat (48 + n) else Char.ofNat (87 + n)

def writtenChar (c : Char) : List Char :=
  if c = '"' then ['\\', '"']
  else if c = '\\' then ['\\', '\\']
  else if c = '\x08' then ['\\', 'b']
  else if c = '\t' then ['\\', 't']
  else if c = '\n' then ['\\', 'n']
  else if c = '\x0c' then ['\\', 'f']
  else if c = '\r' then ['\\', 'r']
  else if c.toNat < 32 then ['\\', 'u', '0', '0', hexDigit (c.toNat / 16), hexDigit (c.toNat % 16)]
  else [c]

def writtenString (text : String) : String :=
  String.ofList ('"' :: text.toList.flatMap writtenChar ++ ['"'])

end Document

def Scalar.text : Scalar → String
  | .null => "null"
  | .bool value => if value then "true" else "false"
  | .string value => Document.writtenString value

def Document.memberText (member : String × Scalar) : String :=
  writtenString member.1 ++ ":" ++ member.2.text

def Document.text : Document → String
  | .object members => "\x7b" ++ ",".intercalate (members.map memberText) ++ "\x7d"
  | .array values => "[" ++ ",".intercalate (values.map Scalar.text) ++ "]"

end TypedLogging.Config
