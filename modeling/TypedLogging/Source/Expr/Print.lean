import TypedLogging.Source.Expr.Surroundings

namespace TypedLogging.Source

/-- What becomes of an operand when its text is read back and something follows: reading fails there,
or the operand ends there, or it takes in what follows. -/
inductive Outlook
  | fails
  | ends
  | takes
  deriving DecidableEq

/-- The outlook of an operand behind something of a given precedence. The flag says that an end counts
as taking in what follows, so that the two need not be told apart. -/
abbrev Scan := Surroundings → Precedence → (endTakes : Bool) → Outlook

namespace Surroundings

def byPrecedence (around : Surroundings) (precedence : Precedence) : Outlook :=
  let next := around.next.precedence
  if next = .jump || precedence < next
      || precedence = next && (next = .assign || next = .compare) then .takes
  else .ends

def ofClosed (around : Surroundings) (precedence : Precedence) : Outlook :=
  let next := around.next.precedence
  if precedence = .range && (next = .assign || next = .range) then .fails
  else if precedence = .binding && next < .binding then .fails
  else around.byPrecedence precedence

def ofLeaf (around : Surroundings) (precedence : Precedence) : Leaf → Outlook
  | .exit _ =>
    if around.next.precedence = .assign && .assign < precedence then .fails else .takes
  | .fullRange => if around.next.beginsOperand then .takes else .fails
  | _ => around.ofClosed precedence

def leftPrecedence (around : Surroundings) (operand : Expr) (scan : Scan) : Precedence :=
  if (!around.next.beginsOperand || around.next.precedence = .range)
      && scan around .jump false = .ends && around.keepsLeft operand then .whole
  else around.precedence operand

def rightPrecedence (around : Surroundings) (operand : Expr) (scan : Scan) : Precedence :=
  let own := around.precedence operand
  let isLoose :=
    own < around.previous
      || own = around.previous
        && !(own = .assign || own = .binding || own = .sign)
  let next := around.next.precedence
  if isLoose && (next = .range || next = .or || next = .and || !around.next.beginsOperand)
      && scan around around.previous false ≠ .takes && around.keepsLeft operand then .sign
  else own

def ofOperator (around : Surroundings) (leader : Leader) (operand : Expr) (scan : Scan)
    (outer : Outlook) (inner : Precedence) (endTakes : Bool) : Outlook :=
  let isTight := around.next.precedence = .whole
  if !isTight && endTakes then .takes
  else
    let behind := around.behind leader
    match scan behind inner (outer = .takes) with
    | .fails =>
      if leader.encloses operand (behind.rightPrecedence operand scan) then outer
      else if isTight then .fails
      else .ends
    | .ends => outer
    | .takes => .takes

def ofRange (around : Surroundings) (operand : Expr) (scan : Scan) : Outlook :=
  let next := around.next.precedence
  let isLoose := next = .assign || next = .range
  let behind := around.behind .range
  let outlook := scan behind .range !isLoose
  if outlook = .takes || outlook = .ends && !isLoose
      || behind.rightPrecedence operand scan ≤ .range then .takes
  else .fails

def ofBinding (around : Surroundings) (operand : Expr) (scan : Scan) (endTakes : Bool) : Outlook :=
  let isLoose := around.next.precedence < .binding
  let behind := around.behind .binding
  if endTakes then .takes
  else
    match scan behind .binding !isLoose with
    | .takes => .takes
    | outlook =>
      if isLoose then .ends
      else if behind.rightPrecedence operand scan < .binding then .takes
      else if outlook = .fails then .ends
      else .takes

def ofLeader (around : Surroundings) (leader : Leader) (operand : Expr) (scan : Scan)
    (precedence : Precedence) (endTakes : Bool) : Outlook :=
  match leader with
  | .sign =>
    around.ofOperator leader operand scan (around.byPrecedence precedence) precedence endTakes
  | .operator operator =>
    if operator.precedence = .compare && around.next.precedence = .compare then .takes
    else
      let outer := if operator = .assignment then .takes else around.byPrecedence precedence
      around.ofOperator leader operand scan outer operator.precedence endTakes
  | .range => around.ofRange operand scan
  | .exit _ | .closure =>
    if endTakes || leader.encloses operand .whole then .takes
    else if scan (around.behind leader) .jump true = .fails then .ends
    else .takes
  | .binding => around.ofBinding operand scan endTakes

end Surroundings

/-- Attributes close a range, but nothing else. -/
def Expr.scan (expr : Expr) : Scan := fun around precedence endTakes =>
  if around.encloses expr then around.byPrecedence precedence
  else
    match expr with
    | .leaf found => around.ofLeaf precedence found
    | .prefixed front operand =>
      around.ofLeader front.leader operand operand.scan precedence endTakes
    | .joined _ joint right =>
      around.ofLeader joint.leader right right.scan precedence endTakes
    | .continued _ .range => around.ofLeaf precedence .fullRange
    | .attributed _ (.leaf (.exit found)) => around.ofLeaf precedence (.exit found)
    | .attributed _ (.prefixed (.range _) _) => around.ofClosed precedence
    | .attributed _ (.prefixed front operand) =>
      around.ofLeader front.leader operand operand.scan precedence endTakes
    | _ => around.ofClosed precedence

namespace Surroundings

def parenthesised (code : Code) : Code := [.group .paren code]

def leftCode (around : Surroundings) (follower : Follower) (operand : Expr)
    (code : Surroundings → Code) : Code :=
  let before := around.before follower
  if follower.encloses (before.leftPrecedence operand operand.scan) then
    parenthesised (code neutral)
  else code before

def rightCode (around : Surroundings) (leader : Leader) (operand : Expr)
    (code : Surroundings → Code) : Code :=
  let behind := around.behind leader
  if leader.encloses operand (behind.rightPrecedence operand operand.scan) then
    parenthesised (code neutral)
  else code behind

end Surroundings

namespace Expr

open Surroundings (parenthesised neutral)

def isSpread : Expr → Bool
  | .leaf .fullRange | .prefixed (.range _) _ | .joined _ _ _ | .continued _ (.cast _ _)
  | .continued _ .range => true
  | _ => false

def codeIn (expr : Expr) (around : Surroundings) : Code :=
  let isEnclosed := around.encloses expr
  let inside := if isEnclosed then neutral else around
  let code :=
    match expr with
    | .leaf found => found.code
    | .enclosed inner => parenthesised (inner.codeIn neutral)
    | .grouped inner => inner.codeIn neutral
    | .prefixed front operand =>
      front.code ++ inside.rightCode front.leader operand operand.codeIn
    | .joined left joint right =>
      inside.leftCode joint.follower left left.codeIn ++ joint.code
        ++ inside.rightCode joint.leader right right.codeIn
    | .continued operand tail =>
      inside.leftCode tail.follower operand operand.codeIn ++ tail.code
    | .attributed attributes (.leaf found) =>
      attributes ++ if isSpread (.leaf found) then parenthesised found.code else found.code
    | .attributed attributes inner =>
      attributes ++
        if inner.isSpread then parenthesised (inner.codeIn neutral) else inner.codeIn inside
  if isEnclosed then parenthesised code else code

def code (expr : Expr) : Code := expr.codeIn neutral

end Expr

end TypedLogging.Source
