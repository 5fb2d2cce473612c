import TypedLogging.Source.Grammar.Level
import TypedLogging.Source.Lexer

namespace TypedLogging.Source

open Reader Lexer

def parseTrees {α : Type} (reader : Grammar → Reader α) (trees : List TokenTree) :
    Option (α × Code) :=
  Reader.run (reader (Grammar.level (Grammar.levelFor trees))) trees

def parseText {α : Type} (reader : Grammar → Reader α) (text : String) : Option (α × Code) := do
  parseTrees reader (← lex text)

/-- Drops a first line that names an interpreter, `#!` without an attribute behind it. The line break
stays. -/
def dropShebang : List Char → List Char
  | '#' :: '!' :: rest =>
    if (skipGaps (rest.length + 1) rest).head? = some '[' then '#' :: '!' :: rest
    else rest.dropWhile (· ≠ '\n')
  | text => text

def File.ofText? (text : String) : Option File := do
  let body := String.ofList (dropShebang (dropByteOrderMark text.toList))
  let (items, _) ← parseText (fun g => do
    let _ ← g.innerAttributes
    many Ahead.nothing g.item) body
  return ⟨items⟩

def Item.ofTrees? (trees : List TokenTree) : Option Item :=
  (parseTrees (·.item) trees).map (·.1.alone)

def attributesOfText? (text : String) : Option (List Attribute) :=
  (parseText (·.outerAttributes) text).map (·.1)

def typeOfText? (text : String) : Option Code :=
  (parseText (fun g => g.type true) text).map (·.2)

def pathOfText? (text : String) : Option Code :=
  (parseText (fun g => g.path false) text).map (·.2)

def visibilityOfText? (text : String) : Option Code :=
  (parseText (fun _ => Grammar.visibility) text).map (·.2)

def isIdentifierText (text : String) : Bool :=
  (parseText (fun _ => Reader.ident) text).isSome

structure NamedExpr where
  name : Option String
  expr : Expr

def namedExpr (g : Grammar) : Reader NamedExpr := do
  let isNamed ← ahead fun trees =>
    Ahead.ident trees && Ahead.second (Ahead.op "=") trees && !Ahead.second (Ahead.op "==") trees
  if isNamed then
    let name ← ident
    op "="
    return ⟨some name, ← g.expr true⟩
  else return ⟨none, ← g.expr true⟩

def argumentsOfTrees? (trees : List TokenTree) : Option (List NamedExpr) :=
  (parseTrees (fun g => terminated Ahead.nothing "," (namedExpr g)) trees).map (·.1)

end TypedLogging.Source
