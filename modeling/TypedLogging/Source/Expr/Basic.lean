import TypedLogging.Source.Expr.Operator
import TypedLogging.Source.Literal
import TypedLogging.Source.Path

namespace TypedLogging.Source

inductive Exit
  | leave (label : Option String)
  | result (keyword : String)

inductive BlockForm
  | bare
  | labelled
  | other

inductive Leaf
  | string (value : String) (code : Code)
  | integer (numeral : Numeral) (code : Code)
  | path (path : QualifiedPath)
  | struct (code : Code)
  | block (form : BlockForm) (code : Code)
  | invocation (delimiter : Delimiter) (code : Code)
  | verbatim (code : Code)
  | exit (exit : Exit)
  | fullRange
  | other (code : Code)

inductive Front
  | sign (texts : List String)
  | range (isClosed : Bool)
  | exit (exit : Exit)
  | closure (head : Code) (isTyped : Bool)
  | binding (head : Code)

inductive Joint
  | operator (operator : Operator)
  | range (isClosed : Bool)

inductive Tail
  | dotted (code : Code)
  | grouped (code : Code)
  | cast (type : Code) (endsInName : Bool)
  | range

/-- What is enclosed stands in parentheses. What is grouped stands between delimiters that are not
written; tokens have them where an expression was put in for a parameter of a macro. -/
inductive Expr
  | leaf (leaf : Leaf)
  | enclosed (inner : Expr)
  | grouped (inner : Expr)
  | prefixed (front : Front) (operand : Expr)
  | joined (left : Expr) (joint : Joint) (right : Expr)
  | continued (operand : Expr) (tail : Tail)
  | attributed (attributes : Code) (inner : Expr)

def Exit.code : Exit → Code
  | .leave none => [.word "break"]
  | .leave (some label) => words ["break", label]
  | .result keyword => [.word keyword]

def rangeCode (isClosed : Bool) : Code := [.word (if isClosed then "..=" else "..")]

def Leaf.code : Leaf → Code
  | .string _ code | .integer _ code | .struct code | .block _ code | .invocation _ code
  | .verbatim code | .other code => code
  | .path found => found.code
  | .exit found => found.code
  | .fullRange => rangeCode false

def Front.code : Front → Code
  | .sign texts => words texts
  | .range isClosed => rangeCode isClosed
  | .exit found => found.code
  | .closure head _ | .binding head => head

def Joint.code : Joint → Code
  | .operator found => [.word found.text]
  | .range isClosed => rangeCode isClosed

def Tail.code : Tail → Code
  | .dotted code | .grouped code => code
  | .cast type _ => .word "as" :: type
  | .range => rangeCode false

namespace Expr

def core : Expr → Expr
  | .attributed _ inner => inner.core
  | expr => expr

def withAttributes (attributes : Code) : Expr → Expr
  | .leaf (.verbatim code) => .leaf (.verbatim code)
  | .attributed more inner => .attributed (attributes ++ more) inner
  | expr => if attributes.isEmpty then expr else .attributed attributes expr

/-- Attributes of a statement belong to its leftmost operand, but to the whole of a range. -/
def withStatementAttributes (attributes : Code) : Expr → Expr
  | .joined left (.operator operator) right =>
    .joined (left.withStatementAttributes attributes) (.operator operator) right
  | .continued operand (.cast type endsInName) =>
    .continued (operand.withStatementAttributes attributes) (.cast type endsInName)
  | expr => expr.withAttributes attributes

def isRange (expr : Expr) : Bool :=
  match expr.core with
  | .leaf .fullRange | .prefixed (.range _) _ | .joined _ (.range _) _ | .continued _ .range => true
  | _ => false

def isComparison (expr : Expr) : Bool :=
  match expr.core with
  | .joined _ (.operator operator) _ => operator.precedence = .compare
  | _ => false

def isBinding (expr : Expr) : Bool :=
  match expr.core with
  | .prefixed (.binding _) _ => true
  | _ => false

def isStruct (expr : Expr) : Bool :=
  match expr.core with
  | .leaf (.struct _) => true
  | _ => false

def isBareBlock : Expr → Bool
  | .leaf (.block .bare _) => true
  | _ => false

def needsComma (expr : Expr) : Bool :=
  match expr.core with
  | .leaf (.block _ _) => false
  | _ => true

def needsSemicolon (expr : Expr) : Bool :=
  match expr.core with
  | .leaf (.invocation .brace _) => false
  | _ => expr.needsComma

def startsWithLabel : Expr → Bool
  | .leaf (.block .labelled _) => true
  | .joined left _ _ => left.startsWithLabel
  | .continued operand _ => operand.startsWithLabel
  | .attributed _ inner => inner.startsWithLabel
  | _ => false

def endsInBrace : Expr → Bool
  | .leaf found => Code.endsInBrace found.code
  | .prefixed _ operand => operand.endsInBrace
  | .joined _ _ right => right.endsInBrace
  | .continued _ (.cast type _) => Code.endsInBrace type
  | .attributed _ inner => inner.endsInBrace
  | _ => false

def precedence (expr : Expr) : Precedence :=
  let tight := match expr with
    | .attributed _ _ => .sign
    | _ => .whole
  match expr.core with
  | .leaf .fullRange | .prefixed (.range _) _ | .joined _ (.range _) _ | .continued _ .range => .range
  | .leaf (.exit _) | .leaf (.verbatim _) => .whole
  | .prefixed (.sign _) _ => .sign
  | .prefixed (.exit _) _ => .jump
  | .prefixed (.closure _ isTyped) _ => if isTyped then tight else .jump
  | .prefixed (.binding _) _ => .binding
  | .joined _ (.operator operator) _ => operator.precedence
  | .continued _ (.cast _ _) => .cast
  | _ => tight

end Expr

end TypedLogging.Source
