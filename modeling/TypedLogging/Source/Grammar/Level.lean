import TypedLogging.Source.Grammar.Statement

namespace TypedLogging.Source.Grammar

def level : Nat → Grammar
  | 0 => bottom
  | n + 1 =>
    let below := level n
    { expr := exprOf below
      unary := unaryOf below
      early := earlyOf below
      climb := climbOf below
      type := typeOf below
      bound := boundOf below
      param := paramOf below
      pattern := patternOf below
      fields := fieldsOf below
      statements := statementsOf below
      item := itemOf below
      useTree := useTreeOf below }

/-- A level that is enough for the trees: no more than a few readers are nested in each other before
one of them consumes a token. -/
def levelFor (trees : List TokenTree) : Nat := 8 * (sizeOfTrees trees + 2)

end TypedLogging.Source.Grammar
