import TypedLogging.Source.Expr.Print
import TypedLogging.Source.Reader
import TypedLogging.Source.Tree

namespace TypedLogging.Source

inductive TypeForm
  | path (path : Path)
  | bounds (single : Bool)
  | other

/-- What a type turned out to be, as far as its surroundings ask. A type that ends in the name of a path
would take a `<` behind it for the beginning of arguments. -/
structure TypeShape where
  form : TypeForm
  endsInName : Bool

inductive BoundForm
  | capability
  | lifetime
  | capture
  | conditional
  deriving DecidableEq

structure BoundShape where
  form : BoundForm
  endsInName : Bool

inductive PatternForm
  | rest
  | openRange
  | range
  | verbatim
  | other
  deriving DecidableEq

/-- Readers of expressions write nothing: how an expression is printed depends on what is around it. -/
structure Grammar where
  expr : (allowStruct : Bool) → Reader Expr
  unary : (allowStruct : Bool) → Reader Expr
  early : Reader Expr
  climb : (allowStruct : Bool) → (base : Precedence) → Expr → Reader Expr
  type : (allowPlus : Bool) → Reader TypeShape
  bound : (allowCapture allowConst : Bool) → Reader BoundShape
  param : Reader Bool
  pattern : Reader PatternForm
  fields : Reader Unit
  statements : Reader (List Statement)
  item : Reader Item
  useTree : (allowRoot : Bool) → Reader (Option UseTree)

namespace Grammar

open Reader

def bottom : Grammar where
  expr _ := failure
  unary _ := failure
  early := failure
  climb _ _ _ := failure
  type _ := failure
  bound _ _ := failure
  param := failure
  pattern := failure
  fields := failure
  statements := failure
  item := failure
  useTree _ := failure

def relativeAhead : Ahead.Test := fun trees =>
  Ahead.word "super" trees || Ahead.word "self" trees || Ahead.word "Self" trees
    || Ahead.word "crate" trees

def plainSegmentAhead : Ahead.Test := fun trees => Ahead.ident trees || relativeAhead trees

def plainPath : Reader Path := do
  let leading ← optionalOp "::"
  let (names, trailing) ← exhaust (fun ((names, more) : List String × Bool) => do
    if !more || !(← ahead plainSegmentAhead) then return none
    let name ← anyWord
    return some (name :: names, ← optionalOp "::")) ([], true)
  guard (!names.isEmpty && !trailing)
  return ⟨leading, names.reverse.map (⟨·, .none⟩)⟩

def writing (around : Surroundings) (reader : Reader Expr) : Reader Expr := do
  let expr ← reader
  write (expr.codeIn around)
  return expr

def value (g : Grammar) : Reader Unit := do
  let _ ← writing .neutral (g.expr true)

def condition (g : Grammar) : Reader Unit := do
  let _ ← writing .ofCondition (g.expr false)

def literalExpr : Reader Expr := do
  let (found, code) ← quietly literal
  match found with
  | .string value => return .leaf (.string value code)
  | .integer numeral _ => return .leaf (.integer numeral code)
  | _ => return .leaf (.other code)

/-- The greatest position of a tuple field. -/
def maxIndex : Nat := 4294967295

def isIndex (numeral : Numeral) : Bool := !numeral.isNegative && numeral.magnitude ≤ maxIndex

/-- The position of a tuple field. It is written in plain decimal. -/
def index : Reader Unit := do
  let (found, _) ← quietly literal
  match found with
  | .integer numeral "" =>
    guard (isIndex numeral)
    write [.word numeral.text]
  | _ => failure

def member : Reader Bool := do
  if ← ahead Ahead.ident then
    let _ ← ident
    return true
  else
    index
    return false

def loneLiteralAhead : Ahead.Test := fun trees =>
  Ahead.literal trees &&
    match trees with
    | [.literal _] | [.ident _] | [_, .literal _] => true
    | _ => false

/-- The path of an attribute. Before another attribute in parentheses `unsafe` stands for it. -/
def attributePath : Reader Path := do
  if ← ahead (Ahead.word "unsafe") then return ⟨false, [⟨← anyWord, .none⟩]⟩
  else plainPath

def attributeBody (g : Grammar) : Reader Attribute := do
  let path ← attributePath
  if ← ahead Ahead.anyGroup then
    let (_, trees) ← rawGroup
    return ⟨path, .list trees⟩
  else if ← optionalOp "=" then
    if ← ahead loneLiteralAhead then return ⟨path, .value (← writing .neutral literalExpr)⟩
    guard (!(← ahead fun trees => Ahead.op "#" trees && Ahead.second (Ahead.group .bracket) trees))
    return ⟨path, .value (← writing .neutral (forgetting (g.expr true)))⟩
  else return ⟨path, .bare⟩

def outerAttribute (g : Grammar) : Reader Attribute := do
  op "#"
  group .bracket g.attributeBody

def outerAttributes (g : Grammar) : Reader (List Attribute) :=
  many (fun trees => !Ahead.op "#" trees) g.outerAttribute

def attributesCode (g : Grammar) : Reader Code := do
  let (_, code) ← quietly g.outerAttributes
  return code

def innerAttribute (g : Grammar) : Reader Attribute := do
  op "#"
  op "!"
  group .bracket g.attributeBody

def innerAttributes (g : Grammar) : Reader (List Attribute) :=
  many (fun trees => !(Ahead.op "#" trees && Ahead.second (Ahead.op "!") trees)) g.innerAttribute

def functionBody (g : Grammar) : Reader (List Statement) :=
  group .brace do
    let _ ← g.innerAttributes
    g.statements

def body (g : Grammar) : Reader Unit := do
  keep ((← g.functionBody).flatMap (·.items))

def block (g : Grammar) : Reader Unit := do
  keep ((← group .brace g.statements).flatMap (·.items))

end Grammar

end TypedLogging.Source
