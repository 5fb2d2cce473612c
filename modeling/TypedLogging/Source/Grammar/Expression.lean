import TypedLogging.Source.Grammar.Atom
import TypedLogging.Text.Words

namespace TypedLogging.Source

namespace Grammar

open Reader

/-- The parts of a decimal literal that gives positions, as in `x.0.1`, and whether it ends in a
dot. -/
def indexParts? (text : String) : Option (List String × Bool) :=
  let endsInDot := text.toList.getLast? = some '.'
  let body := if endsInDot then text.toList.dropLast else text.toList
  let digits := (Text.piecesAt (· == '.') body).mapM fun part =>
    match Literal.ofText (String.ofList part) with
    | .integer numeral "" => if isIndex numeral then some numeral.text else none
    | _ => none
  digits.map (·, endsInDot)

def afterDot (g : Grammar) : Reader Unit := do
  if ← optionalWord "await" then return
  let named ← member
  let turbofish ← ahead fun trees => named && Ahead.op "::" trees
  if turbofish then
    guard (← ahead fun trees => Ahead.third (Ahead.op "<") trees)
    write (← g.angledArguments).code
  if turbofish || named && (← ahead (Ahead.group .paren)) then
    let _ ← listIn .paren g.value

def dotTrailer (g : Grammar) : Reader Unit := do
  op "."
  match (← get).rest with
  | .literal text :: rest =>
    match Literal.ofText text with
    | .float =>
      match indexParts? text with
      | none => failure
      | some (digits, endsInDot) =>
        modify fun c => { c with rest := rest }
        write (((digits.map (Piece.word ·)).intersperse (.word ".")))
        if endsInDot then
          write [.word "."]
          g.afterDot
    | _ => g.afterDot
  | _ => g.afterDot

def trailerStep (g : Grammar) (expr : Expr) : Reader (Option Expr) := do
  let extended (make : Code → Tail) (reader : Reader Unit) : Reader (Option Expr) := do
    let ((), code) ← quietly reader
    return some (.continued expr (make code))
  if ← ahead (Ahead.group .paren) then
    extended .grouped do
      let _ ← listIn .paren g.value
  else if !expr.isRange && (← ahead Ahead.dot) then extended .dotted g.dotTrailer
  else if ← ahead (Ahead.group .bracket) then extended .grouped (group .bracket g.value)
  else if !expr.isRange && (← ahead (Ahead.op "?")) then extended .dotted (op "?")
  else return none

def trailers (g : Grammar) (expr : Expr) : Reader Expr := exhaust g.trailerStep expr

def ampersand : Reader (List String) := do
  skipOp "&"
  if ← ahead fun trees => Ahead.word "raw" trees
      && (Ahead.second (Ahead.word "mut") trees || Ahead.second (Ahead.word "const") trees) then
    skipWord "raw"
    return ["&", "raw", ← silently anyWord]
  else if ← silently (optionalWord "mut") then return ["&", "mut"]
  else return ["&"]

def sign : Reader (Option (List String)) := do
  if ← ahead (Ahead.op "&") then return some (← ampersand)
  for text in ["*", "!", "-"] do
    if ← ahead (Ahead.op text) then
      skipOp text
      return some [text]
  return none

/-- An operand of binary operators. Attributes in front belong to all of it. -/
def unaryOf (g : Grammar) (allowStruct : Bool) : Reader Expr := do
  let before := (← get).rest
  let attributes ← g.attributesCode
  match ← sign with
  | some texts =>
    return (Expr.prefixed (.sign texts) (← g.unary allowStruct)).withAttributes attributes
  | none =>
    match ← g.trailers (← g.atom allowStruct) with
    | .leaf (.verbatim _) => return .leaf (.verbatim (← codeSince before))
    | expr =>
      guard (attributes.isEmpty || !expr.isRange)
      return expr.withAttributes attributes

def exprOf (g : Grammar) (allowStruct : Bool) : Reader Expr := do
  g.climbOf allowStruct .jump (← g.unaryOf allowStruct)

def earlyStart (g : Grammar) : Reader (Expr × Bool) := do
  let complete (reader : Reader Expr) : Reader (Expr × Bool) := do return (← reader, true)
  if ← ahead (Ahead.word "if") then complete g.ifExpr
  else if ← ahead fun trees => Ahead.word "while" trees || Ahead.word "loop" trees
      || Ahead.word "for" trees && !closureBindersAhead trees
      || Ahead.group .brace trees || Ahead.lifetime trees then complete g.labelledExpr
  else if ← ahead (Ahead.word "match") then complete g.matchExpr
  else if ← ahead tryBlockAhead then complete g.tryExpr
  else if ← ahead (Ahead.word "unsafe") then complete (g.keywordBody "unsafe")
  else if ← ahead fun trees =>
      Ahead.word "const" trees && Ahead.second (Ahead.group .brace) trees then
    complete (g.keywordBody "const")
  else return (← g.unaryOf true, false)

/-- An expression that ends early: an operator does not continue a block-like start, though a field
or a question mark does. -/
def earlyOf (g : Grammar) : Reader Expr := do
  let attributes ← g.attributesCode
  let (start, isComplete) ← g.earlyStart
  if !isComplete then g.climbOf true .jump (start.withAttributes attributes)
  else if ← ahead fun trees => Ahead.dot trees || Ahead.op "?" trees then
    g.climbOf true .jump ((← g.trailers start).withAttributes attributes)
  else return start.withAttributes attributes

end Grammar

end TypedLogging.Source
