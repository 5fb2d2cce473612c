import TypedLogging.Source.Expr.Basic

namespace TypedLogging.Source

inductive Leader
  | sign
  | range
  | exit (exit : Exit)
  | closure
  | binding
  | operator (operator : Operator)

inductive Follower
  | nothing
  | operator (operator : Operator)
  | range
  | cast
  | dot
  | group

def Front.leader : Front → Leader
  | .sign _ => .sign
  | .range _ => .range
  | .exit found => .exit found
  | .closure _ _ => .closure
  | .binding _ => .binding

def Joint.leader : Joint → Leader
  | .operator found => .operator found
  | .range _ => .range

def Joint.follower : Joint → Follower
  | .operator found => .operator found
  | .range _ => .range

def Tail.follower : Tail → Follower
  | .dotted _ => .dot
  | .grouped _ => .group
  | .cast _ _ => .cast
  | .range => .range

namespace Leader

def precedence : Leader → Precedence
  | .sign => .sign
  | .range => .range
  | .exit _ | .closure => .jump
  | .binding => .binding
  | .operator found => found.precedence

def isExit : Leader → Bool
  | .exit _ => true
  | _ => false

/-- Whether the operand could be missing, so that a block there might be something else. -/
def isOptional : Leader → Bool
  | .range | .exit (.leave _) => true
  | _ => false

def encloses (leader : Leader) (operand : Expr) (precedence : Precedence) : Bool :=
  match leader with
  | .exit (.leave none) => operand.startsWithLabel
  | .exit _ | .closure => false
  | .sign | .binding => precedence < leader.precedence
  | .range => precedence ≤ leader.precedence
  | .operator found => found.precedence ≠ .assign && precedence ≤ found.precedence

end Leader

namespace Follower

def precedence : Follower → Precedence
  | .nothing => .jump
  | .operator found => found.precedence
  | .range => .range
  | .cast => .cast
  | .dot | .group => .whole

def beginsOperand : Follower → Bool
  | .operator found => found.beginsOperand
  | .range | .group => true
  | _ => false

def beginsArguments : Follower → Bool
  | .operator found => found.beginsArguments
  | _ => false

def isNothing : Follower → Bool
  | .nothing => true
  | _ => false

def encloses (follower : Follower) (precedence : Precedence) : Bool :=
  match follower with
  | .operator found =>
    if found.precedence = .assign then precedence ≤ .range
    else if found.precedence = .compare then precedence ≤ .compare
    else precedence < found.precedence
  | .range => precedence ≤ .range
  | _ => precedence < follower.precedence

end Follower

inductive Share
  | apart
  | whole
  | start
  deriving DecidableEq

/-- What is left of an expression's share for an operand that the follower stands behind. -/
def Share.before (share : Share) (follower : Follower) : Share :=
  match share, follower with
  | .apart, _ => .apart
  | _, .dot => .whole
  | _, _ => .start

structure Surroundings where
  previous : Precedence
  next : Follower
  statement : Share
  arm : Share
  inCondition : Bool
  endsCondition : Bool
  isOptional : Bool

namespace Surroundings

def neutral : Surroundings := ⟨.jump, .nothing, .apart, .apart, false, false, false⟩

def ofStatement : Surroundings := { neutral with statement := .whole }

def ofArm : Surroundings := { neutral with arm := .whole }

def ofCondition : Surroundings := { neutral with inCondition := true, endsCondition := true }

def before (around : Surroundings) (follower : Follower) : Surroundings :=
  { around with
    next := follower
    statement := around.statement.before follower
    arm := around.arm.before follower
    endsCondition := false }

def behind (around : Surroundings) (leader : Leader) : Surroundings :=
  { around with
    previous := leader.precedence
    statement := .apart
    arm := .apart
    inCondition := around.inCondition && !leader.isExit
    isOptional := around.inCondition && leader.isOptional }

/-- Whether the body of an `if` or the like would be read as a part of the expression. -/
def losesBody (around : Surroundings) (expr : Expr) : Bool :=
  around.endsCondition &&
    match expr.core with
    | .leaf (.exit (.result _)) => true
    | .leaf (.exit (.leave _)) | .leaf (.path _) | .leaf .fullRange | .continued _ .range =>
      !around.inCondition
    | _ => false

def encloses (around : Surroundings) (expr : Expr) : Bool :=
  around.statement = .start && !expr.needsSemicolon
    || around.statement ≠ .apart && expr.isBinding
    || around.arm = .start && !expr.needsComma
    || around.inCondition && expr.isStruct
    || around.losesBody expr
    || around.isOptional && expr.isBareBlock

def precedence (around : Surroundings) (expr : Expr) : Precedence :=
  match expr.core with
  | .leaf (.exit _) =>
    if around.next.beginsOperand then .jump
    else if around.next.isNothing then .sign
    else expr.precedence
  | .prefixed (.exit _) _ | .prefixed (.closure _ _) _ | .prefixed (.binding _) _
  | .leaf .fullRange | .prefixed (.range _) _ =>
    if around.next.isNothing then .sign else expr.precedence
  | .continued _ (.cast _ true) =>
    if around.next.beginsArguments then .jump else expr.precedence
  | _ => expr.precedence

/-- Whether what stands before the expression leaves its left operand alone. -/
def keepsLeft (around : Surroundings) (expr : Expr) : Bool :=
  match expr.core with
  | .joined _ (.operator operator) _ =>
    if operator.precedence = .assign then around.previous ≤ .assign
    else around.previous < operator.precedence
  | .continued _ (.cast _ _) => around.previous < .cast
  | .joined _ (.range _) _ | .continued _ .range => around.previous < .assign
  | _ => true

end Surroundings

end TypedLogging.Source
