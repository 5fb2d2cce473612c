import TypedLogging.Source.Grammar.Item

namespace TypedLogging.Source.Grammar

open Reader

inductive InvocationKind
  | expression
  | item
  | statement
  deriving DecidableEq

/-- With a name behind the exclamation mark it is an item. With a group in braces it is a statement,
unless a field or a question mark follows. -/
def invocationKind (trees : List TokenTree) : InvocationKind :=
  if !Ahead.op "!" trees then .expression
  else if Ahead.second (fun behind => Ahead.ident behind || Ahead.word "try" behind) trees then .item
  else if Ahead.second (Ahead.group .brace) trees
      && !Ahead.third (fun behind => Ahead.dot behind || Ahead.op "?" behind) trees then .statement
  else .expression

def invocationKindAhead : Reader InvocationKind := do
  let start ← get
  match ← attempt plainPath with
  | some _ =>
    let kind := invocationKind (← get).rest
    set start
    return kind
  | none => return .expression

def itemKeywordAhead : Ahead.Test := fun trees =>
  Ahead.word "pub" trees
    || Ahead.word "crate" trees && !Ahead.second (Ahead.op "::") trees
    || Ahead.word "extern" trees || Ahead.word "use" trees
    || Ahead.word "static" trees
      && (Ahead.second (Ahead.word "mut") trees || Ahead.second Ahead.ident trees)
    || Ahead.word "const" trees
      && !(Ahead.second (Ahead.group .brace) trees || Ahead.second (Ahead.word "static") trees
        || Ahead.second (Ahead.word "async") trees
          && !(Ahead.third (Ahead.word "unsafe") trees || Ahead.third (Ahead.word "extern") trees
            || Ahead.third (Ahead.word "fn") trees)
        || Ahead.second (Ahead.word "move") trees || Ahead.second (Ahead.op "|") trees)
    || Ahead.word "unsafe" trees && !Ahead.second (Ahead.group .brace) trees
    || Ahead.word "async" trees
      && (Ahead.second (Ahead.word "unsafe") trees || Ahead.second (Ahead.word "extern") trees
        || Ahead.second (Ahead.word "fn") trees)
    || Ahead.word "fn" trees || Ahead.word "mod" trees || Ahead.word "type" trees
    || Ahead.word "struct" trees || Ahead.word "enum" trees
    || Ahead.word "union" trees && Ahead.second Ahead.ident trees
    || Ahead.word "auto" trees && Ahead.second (Ahead.word "trait") trees
    || Ahead.word "trait" trees
    || Ahead.word "default" trees
      && (Ahead.second (Ahead.word "unsafe") trees || Ahead.second (Ahead.word "impl") trees)
    || Ahead.word "impl" trees || Ahead.word "macro" trees

/-- A local variable. An `else` may follow its value only where the value does not end in a brace. -/
def localVariable (g : Grammar) : Reader Unit := do
  word "let"
  let _ ← g.pattern
  if ← optionalOp ":" then let _ ← g.type true
  if ← optionalOp "=" then
    let value ← writing .neutral (g.expr true)
    if !value.endsInBrace then
      if ← optionalWord "else" then g.block
  op ";"

def statementInvocation : Reader Unit := do
  let _ ← plainPath
  op "!"
  let _ ← rawGroup
  let _ ← optionalOp ";"

/-- An expression as a statement behind its attributes. What is kept as it stands keeps them too;
`before` are the trees from the attributes on. Says whether a semicolon has to be added before a
further statement. -/
def expressionStatement (g : Grammar) (before : List TokenTree) (attributes : Code) :
    Reader Bool := do
  let expr ← g.early
  match expr with
  | .leaf (.verbatim _) => write (← codeSince before)
  | _ => write ((expr.withStatementAttributes attributes).codeIn .ofStatement)
  return !(← optionalOp ";") && expr.needsSemicolon

def statement (g : Grammar) : Reader (Statement × Bool) := do
  let start ← get
  let attributes ← g.attributesCode
  let kind ← invocationKindAhead
  if kind = .statement then
    write attributes
    statementInvocation
    return (.other [], false)
  else if ← ahead (Ahead.word "let") then
    write attributes
    let ((), inner) ← collecting g.localVariable
    return (.other inner, false)
  else if kind = .item || (← ahead itemKeywordAhead) then
    set start
    return (.item (← g.itemOf), false)
  else
    let (isOpen, inner) ← collecting (g.expressionStatement start.rest attributes)
    return (.other inner, isOpen)

def statementsOf (g : Grammar) : Reader (List Statement) := do
  let (read, _) ← exhaust (fun ((read, more) : List Statement × Bool) => do
    let _ ← many (fun trees => !Ahead.op ";" trees) (op ";")
    if !more || (← ahead Ahead.nothing) then return none
    let (next, isOpen) ← g.statement
    let isLast ← ahead Ahead.nothing
    guard (isLast || !isOpen)
    return some (next :: read, !isLast)) ([], true)
  return read.reverse

end TypedLogging.Source.Grammar
