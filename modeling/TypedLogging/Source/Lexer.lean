import TypedLogging.Source.Lexer.Literal
import TypedLogging.Source.Token
import TypedLogging.Text.Quoted

namespace TypedLogging.Source

open Text Lexer

namespace Lexer

inductive Lexeme
  | opened (delimiter : Delimiter)
  | closed (delimiter : Delimiter)
  | leaves (trees : List TokenTree)

def punctuation : List Char := "~!@#$%^&*-=+|;:,<.>/?'".toList

/-- A slash that begins a comment is no punctuation. -/
def punctEnd? (text : List Char) : Option (Char × List Char) :=
  if startsWith "//" text || startsWith "/*" text then none
  else match text with
    | c :: rest => if punctuation.contains c then some (c, rest) else none
    | [] => none

/-- Texts that begin a literal and are no identifier when that literal is malformed. -/
def literalStarts : List String :=
  ["r\"", "r#\"", "r##", "b\"", "b'", "br\"", "br#", "c\"", "cr\"", "cr#"]

/-- Names that have no raw form. -/
def neverRaw : List String := ["_", "super", "self", "Self", "crate"]

def consumed (before behind : List Char) : List Char := before.take (before.length - behind.length)

def anyIdent? (text : List Char) : Option (String × List Char) :=
  if startsWith "r#" text then do
    let rest ← identEnd? (text.drop 2)
    guard (!neverRaw.contains (String.ofList (consumed (text.drop 2) rest)))
    return (String.ofList (consumed text rest), rest)
  else do
    let rest ← identEnd? text
    return (String.ofList (consumed text rest), rest)

def ident? (text : List Char) : Option (String × List Char) :=
  if literalStarts.any (startsWith · text) then none else anyIdent? text

/-- An apostrophe is punctuation only before the name of a lifetime. -/
def apostropheStands (rest : List Char) : Bool :=
  match anyIdent? rest with
  | none => false
  | some (_, behind) =>
    !(startsWith "'" behind || (startsWith "#" behind && !startsWith "r#" rest))

def punct? (text : List Char) : Option (TokenTree × List Char) := do
  let (c, rest) ← punctEnd? text
  if c = '\'' then
    guard (apostropheStands rest)
    return (.punct c true, rest)
  else return (.punct c (punctEnd? rest).isSome, rest)

def errorMark : String := "(/*ERROR*/)"

def leaf? (text : List Char) : Option (TokenTree × List Char) :=
  match literalEnd? text with
  | some rest => some (.literal (String.ofList (consumed text rest)), rest)
  | none =>
    match punct? text with
    | some found => some found
    | none =>
      match ident? text with
      | some (name, rest) => some (.ident name, rest)
      | none =>
        if startsWith errorMark text then some (.literal errorMark, text.drop errorMark.length)
        else none

/-- A documentation comment stands for the attribute that holds its text. -/
def DocComment.trees (comment : DocComment) : List TokenTree :=
  let held := [.ident "doc", .punct '=' false, .literal (quoted (String.ofList comment.text))]
  .punct '#' false :: (if comment.inner then [.punct '!' false] else [])
    ++ [.group .bracket held]

def lexeme? (text : List Char) : Option (Lexeme × List Char) :=
  match gap? text with
  | some rest => some (.leaves [], rest)
  | none =>
    match docComment? text with
    | some (comment, rest) => some (.leaves comment.trees, rest)
    | none =>
      match text with
      | '(' :: rest =>
        if startsWith errorMark text then
          some (.leaves [.literal errorMark], text.drop errorMark.length)
        else some (.opened .paren, rest)
      | '[' :: rest => some (.opened .bracket, rest)
      | '\x7b' :: rest => some (.opened .brace, rest)
      | ')' :: rest => some (.closed .paren, rest)
      | ']' :: rest => some (.closed .bracket, rest)
      | '\x7d' :: rest => some (.closed .brace, rest)
      | _ => do
        let (tree, rest) ← leaf? text
        return (.leaves [tree], rest)

/-- Builds the trees of a text. `outer` holds the open groups, innermost first, each with the trees
before it; `trees` those of the current group. Both lists of trees have the last tree first. -/
def assemble? (outer : List (Delimiter × List TokenTree)) (trees : List TokenTree) :
    Nat → List Char → Option (List TokenTree)
  | _, [] => if outer.isEmpty then some trees.reverse else none
  | 0, _ => none
  | fuel + 1, text =>
    match lexeme? text with
    | none => none
    | some (.leaves leaves, rest) => assemble? outer (leaves.reverse ++ trees) fuel rest
    | some (.opened delimiter, rest) => assemble? ((delimiter, trees) :: outer) [] fuel rest
    | some (.closed delimiter, rest) =>
      match outer with
      | [] => none
      | (opening, before) :: further =>
        if opening = delimiter then
          assemble? further (.group delimiter trees.reverse :: before) fuel rest
        else none

end Lexer

def byteOrderMark : Char := '\ufeff'

def dropByteOrderMark : List Char → List Char
  | c :: rest => if c = byteOrderMark then rest else c :: rest
  | [] => []

def lexChars (text : List Char) : Option (List TokenTree) :=
  let text := dropByteOrderMark text
  assemble? [] [] text.length text

def lex (text : String) : Option (List TokenTree) := lexChars text.toList

end TypedLogging.Source
