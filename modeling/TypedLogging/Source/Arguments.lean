import TypedLogging.Argument
import TypedLogging.Source.Parse

namespace TypedLogging.Source

/-- The expression inside parentheses and groups; attributes in front of them do not count. -/
def Expr.inside : Expr → Expr
  | .enclosed inner | .attributed _ (.enclosed inner) => inner.inside
  | .grouped inner | .attributed _ (.grouped inner) => inner.inside
  | expr => expr

def Expr.number? : Expr → Option String
  | .leaf (.integer numeral _) => some numeral.text
  | .prefixed (.sign ["-"]) operand => do
    let digits ← operand.number?
    if digits.toList.head? = some '-' then none else some ("-" ++ digits)
  | .enclosed inner | .grouped inner | .attributed _ inner => inner.number?
  | _ => none

/-- Sorts an expression into the shapes that an argument may have. Parentheses and groups do not matter,
and one minus sign may stand before a number. -/
def Expr.classify (expr : Expr) : ArgValue :=
  let found := expr.inside
  match found.number?, found.core with
  | some digits, _ => .number digits
  | none, .leaf (.string value _) => .string value
  | none, .leaf (.path ⟨none, path⟩) =>
    match MemberRef.ofSegments? path.names with
    | some member => .member member
    | none => .other (Code.text path.code)
  | none, _ => .other (Code.text found.code)

def NamedExpr.argument (found : NamedExpr) : Argument := ⟨found.name, found.expr.classify⟩

def readArguments? (trees : List TokenTree) : Option (List Argument) :=
  (argumentsOfTrees? trees).map fun found => found.map NamedExpr.argument

/-- The arguments of an attribute. A list that cannot be read is one argument of unknown shape. -/
def Attribute.arguments (found : Attribute) : List Argument :=
  match found.body with
  | .bare => []
  | .value expr => [⟨none, expr.classify⟩]
  | .list trees =>
    (readArguments? trees).getD [⟨none, .other (Code.text (Code.ofTrees trees))⟩]

end TypedLogging.Source
