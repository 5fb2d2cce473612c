import TypedLogging.Text.CharClass

namespace TypedLogging.Source.Lexer

open Text

def startsWith (start : String) (text : List Char) : Bool := start.toList.isPrefixOf text

/-- Blanks include the marks for writing direction. -/
def isGapChar (c : Char) : Bool := isBlank c || c == '\u200e' || c == '\u200f'

/-- The text behind the block comment that begins here. Comments nest; `depth` counts the open ones. -/
def blockCommentEnd (depth : Nat) : List Char → Option (List Char)
  | '/' :: '*' :: rest => blockCommentEnd (depth + 1) rest
  | '*' :: '/' :: rest => if depth = 1 then some rest else blockCommentEnd (depth - 1) rest
  | _ :: rest => blockCommentEnd depth rest
  | [] => none

/-- Splits before the next line break; a carriage return before a line feed is dropped. -/
def splitLine : List Char → List Char × List Char
  | [] => ([], [])
  | '\n' :: rest => ([], '\n' :: rest)
  | '\r' :: '\n' :: rest => ([], '\n' :: rest)
  | c :: rest => let (line, behind) := splitLine rest; (c :: line, behind)

def isPlainLineComment (text : List Char) : Bool :=
  startsWith "//" text && (!startsWith "///" text || startsWith "////" text)
    && !startsWith "//!" text

def isPlainBlockComment (text : List Char) : Bool :=
  startsWith "/*" text && (!startsWith "/**" text || startsWith "/***" text)
    && !startsWith "/*!" text

def gap? (text : List Char) : Option (List Char) :=
  if isPlainLineComment text then some (splitLine text).2
  else if startsWith "/**/" text then some (text.drop 4)
  else if isPlainBlockComment text then blockCommentEnd 0 text
  else match text with
    | c :: rest => if isGapChar c then some rest else none
    | [] => none

def skipGaps : Nat → List Char → List Char
  | 0, text => text
  | fuel + 1, text =>
    match gap? text with
    | some rest => skipGaps fuel rest
    | none => text

/-- Carriage returns stand only before line feeds. -/
def hasNoBareReturn : List Char → Bool
  | [] => true
  | '\r' :: '\n' :: rest => hasNoBareReturn rest
  | '\r' :: _ => false
  | _ :: rest => hasNoBareReturn rest

structure DocComment where
  text : List Char
  inner : Bool

def docBlock (text : List Char) (inner : Bool) : Option (DocComment × List Char) := do
  let behind ← blockCommentEnd 0 text
  let whole := text.take (text.length - behind.length)
  return (⟨(whole.drop 3).take (whole.length - 5), inner⟩, behind)

def docComment? (text : List Char) : Option (DocComment × List Char) := do
  let found ←
    if startsWith "//!" text then
      let (line, behind) := splitLine (text.drop 3)
      some (⟨line, true⟩, behind)
    else if startsWith "/*!" text then docBlock text true
    else if startsWith "///" text then
      let (line, behind) := splitLine (text.drop 3)
      if startsWith "////" text then none else some (⟨line, false⟩, behind)
    else if startsWith "/**" text && !startsWith "/***" text then docBlock text false
    else none
  guard (hasNoBareReturn found.1.text)
  return found

end TypedLogging.Source.Lexer
