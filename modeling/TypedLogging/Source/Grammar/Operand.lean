import TypedLogging.Source.Grammar.Pattern

namespace TypedLogging.Source

def Operator.ahead? (trees : List TokenTree) : Option Operator :=
  Operator.all.find? fun operator => Ahead.op operator.text trees

def Precedence.ahead (trees : List TokenTree) : Precedence :=
  match Operator.ahead? trees with
  | some operator => operator.precedence
  | none =>
    if Ahead.assign trees then .assign
    else if Ahead.op ".." trees then .range
    else if Ahead.word "as" trees then .cast
    else .jump

namespace Grammar

open Reader

def rightOperand (g : Grammar) (allowStruct : Bool) (precedence : Precedence) : Reader Expr := do
  let start ← g.unary allowStruct
  exhaust (fun (operand : Expr) => do
    let before := (← get).rest
    let next := Precedence.ahead before
    if precedence < next || next = precedence && precedence = .assign then
      let longer ← g.climb allowStruct next operand
      if (← get).rest.length == before.length then return none
      return some longer
    else return none) start

def endsHalfOpen (allowStruct : Bool) : Ahead.Test := fun trees =>
  trees.isEmpty || Ahead.dot trees || !allowStruct && Ahead.group .brace trees
    || Ahead.word "as" trees
    || [",", ";", "?", "=>", "=", "+", "/", "%", "^", ">", "<=", "!=", "-=", "*=", "&=", "|=",
        "<<="].any fun text => Ahead.op text trees

def rangeTail (g : Grammar) (allowStruct : Bool) : Reader (Bool × Option Expr) := do
  let isClosed ← silently (rangeOp false)
  if !isClosed && (← ahead (endsHalfOpen allowStruct)) then return (false, none)
  return (isClosed, some (← g.rightOperand allowStruct .range))

def startlessRange (g : Grammar) (allowStruct : Bool) : Reader Expr := do
  match ← g.rangeTail allowStruct with
  | (isClosed, some stop) => return .prefixed (.range isClosed) stop
  | (_, none) => return .leaf .fullRange

def rangeBehind (g : Grammar) (allowStruct : Bool) (start : Expr) : Reader Expr := do
  match ← g.rangeTail allowStruct with
  | (isClosed, some stop) => return .joined start (.range isClosed) stop
  | (_, none) => return .continued start .range

/-- A cast may not be followed by anything that would belong to its operand. -/
def castEnds : Ahead.Test := fun trees =>
  !(Ahead.dot trees || Ahead.op "?" trees || Ahead.group .bracket trees
    || Ahead.group .paren trees)

def castTail (g : Grammar) : Reader Tail := do
  skipWord "as"
  let (shape, code) ← quietly (g.type false)
  guard (← ahead castEnds)
  return .cast code shape.endsInName

/-- One more operator behind `lhs`, if there is one and it binds at least as tight as `base`. None
follows a range. -/
def climbStep (g : Grammar) (allowStruct : Bool) (base : Precedence) (lhs : Expr) :
    Reader (Option Expr) := do
  let binary (operator : Operator) : Reader (Option Expr) := do
    skipOp operator.text
    return some (.joined lhs (.operator operator)
      (← g.rightOperand allowStruct operator.precedence))
  if lhs.isRange then return none
  match Operator.ahead? (← get).rest with
  | some operator =>
    if operator.precedence < base then return none
    guard (!(operator.precedence = .compare && lhs.isComparison))
    binary operator
  | none =>
    if base ≤ .assign && (← ahead Ahead.assign) then binary .assignment
    else if base ≤ .range && (← ahead (Ahead.op "..")) then
      return some (← g.rangeBehind allowStruct lhs)
    else if base ≤ .cast && (← ahead (Ahead.word "as")) then
      return some (.continued lhs (← g.castTail))
    else return none

def climbOf (g : Grammar) (allowStruct : Bool) (base : Precedence) (lhs : Expr) : Reader Expr :=
  exhaust (g.climbStep allowStruct base) lhs

end Grammar

end TypedLogging.Source
