import TypedLogging.Source.Grammar.Operand

namespace TypedLogging.Source.Grammar

open Reader

def leaf (make : Code → Leaf) (reader : Reader Unit) : Reader Expr := do
  let ((), code) ← quietly reader
  return .leaf (make code)

def plain (reader : Reader Unit) : Reader Expr := leaf .other reader

def blockLike (reader : Reader Unit) : Reader Expr := leaf (.block .other) reader

def canBeginExpr : Ahead.Test := fun trees =>
  Ahead.anyWord trees && !Ahead.word "as" trees
    || Ahead.group .paren trees || Ahead.group .bracket trees
    || Ahead.group .brace trees || Ahead.literal trees
    || Ahead.op "!" trees && !Ahead.op "!=" trees
    || Ahead.op "-" trees && !Ahead.op "-=" trees && !Ahead.op "->" trees
    || Ahead.op "*" trees && !Ahead.op "*=" trees
    || Ahead.op "|" trees && !Ahead.op "|=" trees
    || Ahead.op "&" trees && !Ahead.op "&=" trees
    || Ahead.op ".." trees
    || Ahead.op "<" trees && !Ahead.op "<=" trees && !Ahead.op "<<=" trees
    || Ahead.op "::" trees || Ahead.lifetime trees || Ahead.op "#" trees

def values (g : Grammar) : Reader Unit := do
  let _ ← terminated Ahead.nothing "," g.value

def arrayExpr (g : Grammar) : Reader Expr :=
  plain (group .bracket do
    if ← ahead Ahead.nothing then return
    g.value
    if ← optionalOp ";" then g.value
    else if ← optionalOp "," then g.values)

def enclosedExpr (g : Grammar) : Reader Expr := do
  let (inner, code) ← quietly (group .paren do
    if ← ahead Ahead.nothing then return none
    let first ← writing .neutral (g.expr true)
    if ← optionalOp "," then
      g.values
      return none
    return some first)
  match inner with
  | some first => return .enclosed first
  | none => return .leaf (.other code)

def fieldValue (g : Grammar) : Reader Unit := do
  let _ ← g.outerAttributes
  let named ← member
  if !named || (← ahead (Ahead.op ":")) then
    op ":"
    g.value

def fieldValues (g : Grammar) : Reader Unit := do
  let _ ← exhaust (fun (more : Bool) => do
    if !more || (← ahead Ahead.nothing) then return none
    if ← ahead (Ahead.op "..") then
      op ".."
      if !(← ahead Ahead.nothing) then g.value
      return some false
    g.fieldValue
    if ← ahead Ahead.nothing then return some false
    op ","
    return some true) true

def pathExpr (g : Grammar) (allowStruct : Bool) : Reader Expr := do
  let found ← g.unwrittenQualifiedPath true
  if found.qualifier.isNone && found.path.isPlain
      && (← ahead fun trees => Ahead.op "!" trees && !Ahead.op "!=" trees) then
    let ((delimiter, _), tail) ← quietly do
      op "!"
      rawGroup
    return .leaf (.invocation delimiter (found.code ++ tail))
  if allowStruct && (← ahead (Ahead.group .brace)) then
    let ((), tail) ← quietly (group .brace g.fieldValues)
    return .leaf (.struct (found.code ++ tail))
  return .leaf (.path found)

/-- A parameter of a closure. Attributes of a range enclose it; code that is kept as it stands loses
them. -/
def closureParam (g : Grammar) : Reader Unit := do
  let attributes ← g.attributesCode
  let (form, code) ← quietly g.pattern
  if ← ahead (Ahead.op ":") then
    write (attributes ++ code)
    op ":"
    let _ ← g.type true
  else if form = .verbatim then write code
  else if !attributes.isEmpty && (form = .range || form = .openRange) then
    write (attributes ++ [.group .paren code])
  else write (attributes ++ code)

def closureHead (g : Grammar) : Reader Bool := do
  let _ ← g.binders
  let _ ← optionalWord "const"
  let _ ← optionalWord "static"
  let _ ← optionalWord "async"
  let _ ← optionalWord "move"
  op "|"
  let _ ← terminated (Ahead.op "|") "," g.closureParam
  op "|"
  let isTyped ← optionalOp "->"
  if isTyped then let _ ← g.type true
  return isTyped

def closureExpr (g : Grammar) (allowStruct : Bool) : Reader Expr := do
  let (isTyped, head) ← quietly g.closureHead
  let body ←
    if isTyped then
      leaf (.block .bare) g.block
    else g.expr allowStruct
  return .prefixed (.closure head isTyped) body

def ifExpr (g : Grammar) : Reader Expr :=
  blockLike do
    let _ ← exhaust (fun (more : Bool) => do
      if !more then return none
      word "if"
      g.condition
      g.block
      if !(← optionalWord "else") then return some false
      if ← ahead (Ahead.word "if") then return some true
      g.block
      return some false) true

def whileExpr (g : Grammar) : Reader Unit := do
  word "while"
  g.condition
  g.body

def forExpr (g : Grammar) : Reader Unit := do
  word "for"
  let _ ← g.patternAlternatives
  word "in"
  g.condition
  g.body

def loopExpr (g : Grammar) : Reader Unit := do
  word "loop"
  g.body

def blockExpr (g : Grammar) : Reader Expr := do
  let (isBare, code) ← quietly (group .brace do
    let attributes ← g.innerAttributes
    keep ((← g.statements).flatMap (·.items))
    return attributes.isEmpty)
  return .leaf (.block (if isBare then .bare else .other) code)

def labelledExpr (g : Grammar) : Reader Expr := do
  let isLabelled ← ahead Ahead.lifetime
  if !isLabelled && (← ahead (Ahead.group .brace)) then g.blockExpr
  else
    leaf (.block (if isLabelled then .labelled else .other)) do
      if isLabelled then
        lifetime
        op ":"
      if ← ahead (Ahead.word "while") then g.whileExpr
      else if ← ahead (Ahead.word "for") then g.forExpr
      else if ← ahead (Ahead.word "loop") then g.loopExpr
      else g.body

def matchExpr (g : Grammar) : Reader Expr :=
  blockLike do
    word "match"
    g.condition
    group .brace do
      let _ ← g.innerAttributes
      let _ ← many Ahead.nothing do
        let _ ← g.outerAttributes
        let _ ← g.patternAlternatives
        if ← optionalWord "if" then g.value
        op "=>"
        let result ← writing .ofArm g.early
        if result.needsComma && !(← ahead Ahead.nothing) then op ","
        else let _ ← optionalOp ","

def keywordBody (g : Grammar) (keyword : String) : Reader Expr :=
  blockLike do
    word keyword
    g.body

def tryExpr (g : Grammar) : Reader Expr :=
  blockLike do
    word "try"
    g.block

def asyncExpr (g : Grammar) : Reader Expr :=
  plain do
    word "async"
    let _ ← optionalWord "move"
    g.block

def exitExpr (g : Grammar) (exit : Exit) (hasValue : Ahead.Test) : Reader Expr := do
  if ← ahead hasValue then return .prefixed (.exit exit) (← g.expr true)
  else return .leaf (.exit exit)

def breakExpr (g : Grammar) (allowStruct : Bool) : Reader Expr := do
  skipWord "break"
  let label ← optionalLabel
  guard (label.isNone || !(← ahead (Ahead.op ":")))
  g.exitExpr (.leave label) fun trees =>
    canBeginExpr trees && (allowStruct || !Ahead.group .brace trees)

def resultExpr (g : Grammar) (keyword : String) : Reader Expr := do
  skipWord keyword
  g.exitExpr (.result keyword) canBeginExpr

def becomeExpr (g : Grammar) : Reader Expr :=
  leaf .verbatim (verbatim do
    word "become"
    g.value)

def letExpr (g : Grammar) (allowStruct : Bool) : Reader Expr := do
  let ((), head) ← quietly do
    word "let"
    let _ ← g.patternAlternatives
    op "="
  let operand ← g.unary allowStruct
  return .prefixed (.binding head) (← g.climb allowStruct .compare operand)

def closureBindersAhead : Ahead.Test := fun trees =>
  Ahead.word "for" trees && genericsAhead (Ahead.skip trees)

def asyncBlockAhead : Ahead.Test := fun trees =>
  Ahead.word "async" trees
    && (Ahead.second (Ahead.group .brace) trees
      || Ahead.second (Ahead.word "move") trees && Ahead.third (Ahead.group .brace) trees)

def closureAhead : Ahead.Test := fun trees =>
  Ahead.op "|" trees || Ahead.word "move" trees || closureBindersAhead trees
    || Ahead.word "const" trees && !Ahead.second (Ahead.group .brace) trees
    || Ahead.word "static" trees
    || Ahead.word "async" trees
      && (Ahead.second (Ahead.op "|") trees || Ahead.second (Ahead.word "move") trees)

def tryBlockAhead : Ahead.Test := fun trees =>
  Ahead.word "try" trees && Ahead.second (Ahead.group .brace) trees

def pathExprAhead : Ahead.Test := fun trees =>
  pathAhead trees
    || Ahead.word "try" trees
      && (Ahead.second (Ahead.op "!") trees || Ahead.second (Ahead.op "::") trees)

def atom (g : Grammar) (allowStruct : Bool) : Reader Expr := do
  if ← ahead Ahead.literal then literalExpr
  else if ← ahead asyncBlockAhead then g.asyncExpr
  else if ← ahead tryBlockAhead then g.tryExpr
  else if ← ahead closureAhead then g.closureExpr allowStruct
  else if ← ahead builtinAhead then leaf .verbatim (verbatim builtin)
  else if ← ahead pathExprAhead then g.pathExpr allowStruct
  else if ← ahead (Ahead.group .paren) then g.enclosedExpr
  else if ← ahead (Ahead.word "break") then g.breakExpr allowStruct
  else if ← ahead (Ahead.word "continue") then
    plain do
      word "continue"
      optionalLifetime
  else if ← ahead (Ahead.word "return") then g.resultExpr "return"
  else if ← ahead (Ahead.word "become") then g.becomeExpr
  else if ← ahead (Ahead.group .bracket) then g.arrayExpr
  else if ← ahead (Ahead.word "let") then g.letExpr allowStruct
  else if ← ahead (Ahead.word "if") then g.ifExpr
  else if ← ahead (Ahead.word "match") then g.matchExpr
  else if ← ahead (Ahead.word "yield") then g.resultExpr "yield"
  else if ← ahead (Ahead.word "unsafe") then g.keywordBody "unsafe"
  else if ← ahead (Ahead.word "const") then g.keywordBody "const"
  else if ← ahead (Ahead.op "..") then g.startlessRange allowStruct
  else if ← ahead (Ahead.word "_") then
    plain do
      let _ ← anyWord
  else g.labelledExpr

end TypedLogging.Source.Grammar
