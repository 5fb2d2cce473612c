import TypedLogging.Source.Grammar.Type

namespace TypedLogging.Source.Grammar

open Reader

def singleBarAhead : Ahead.Test := fun trees =>
  Ahead.op "|" trees && !Ahead.op "||" trees && !Ahead.op "|=" trees

def patternAlternatives (g : Grammar) : Reader PatternForm := do
  let leading ← optionalOp "|"
  let first ← g.pattern
  let more ← many (fun trees => !singleBarAhead trees) do
    op "|"
    g.pattern
  return if leading || !more.isEmpty then .other else first

def patternList (g : Grammar) (accept : PatternForm → Bool) : Reader (List PatternForm) :=
  terminated Ahead.nothing "," do
    let form ← g.patternAlternatives
    guard (accept form)
    return form

def endsRange : Ahead.Test := fun trees =>
  trees.isEmpty || Ahead.op "|" trees || Ahead.op "=" trees || Ahead.colon trees
    || Ahead.op "," trees || Ahead.op ";" trees || Ahead.word "if" trees

def constBlock (g : Grammar) : Reader Unit := do
  word "const"
  g.body

def rangeEnd (g : Grammar) : Reader Bool := do
  if ← ahead endsRange then return false
  if ← ahead Ahead.literal then
    let _ ← literal
  else if ← ahead pathAhead then
    write (← g.unwrittenQualifiedPath true).code
  else g.constBlock
  return true

/-- The operator of a range. The form with three dots is written like the closed one. -/
def rangeOp (allowThreeDots : Bool) : Reader Bool := do
  if ← optionalOp "..=" then return true
  else if ← ahead (Ahead.op "...") then
    guard allowThreeDots
    skipOp "..."
    write [.word "..="]
    return true
  else
    op ".."
    return false

def restOfRange (g : Grammar) : Reader PatternForm := do
  let isClosed ← rangeOp true
  let hasEnd ← g.rangeEnd
  guard (hasEnd || !isClosed)
  return if hasEnd then .range else .openRange

def fieldPattern (g : Grammar) : Reader Unit := do
  let plainAhead : Ahead.Test := fun trees =>
    !(Ahead.word "box" trees || Ahead.word "ref" trees || Ahead.word "mut" trees)
  if ← ahead plainAhead then
    let named ← member
    if !named || (← ahead (Ahead.op ":")) then
      op ":"
      let _ ← g.patternAlternatives
  else
    let modified : Reader Unit := do
      let _ ← optionalWord "box"
      let _ ← optionalWord "ref"
      let _ ← optionalWord "mut"
      let _ ← ident
    if ← ahead (Ahead.word "box") then verbatim modified else modified

def fieldPatterns (g : Grammar) : Reader Unit := do
  let _ ← exhaust (fun (more : Bool) => do
    if !more || (← ahead Ahead.nothing) then return none
    let _ ← g.outerAttributes
    if ← ahead (Ahead.op "..") then
      op ".."
      return some false
    g.fieldPattern
    if ← ahead Ahead.nothing then return some false
    op ","
    return some true) true

def pathPattern (g : Grammar) : Reader PatternForm := do
  let found ← g.unwrittenQualifiedPath true
  write found.code
  if found.qualifier.isNone && found.path.isPlain
      && (← ahead fun trees => Ahead.op "!" trees && !Ahead.op "!=" trees) then
    op "!"
    let _ ← rawGroup
    return .other
  if ← ahead (Ahead.group .brace) then
    group .brace g.fieldPatterns
    return .other
  if ← ahead (Ahead.group .paren) then
    group .paren do
      let _ ← g.patternList fun _ => true
    return .other
  if ← ahead (Ahead.op "..") then g.restOfRange else return .other

def bindingPattern (g : Grammar) : Reader Unit := do
  let _ ← optionalWord "ref"
  let _ ← optionalWord "mut"
  let _ ← if ← ahead (Ahead.word "self") then anyWord else ident
  if ← optionalOp "@" then let _ ← g.pattern

def pathPatternAhead : Ahead.Test := fun trees =>
  Ahead.ident trees && (Ahead.second (Ahead.op "::") trees || Ahead.second (Ahead.op "!") trees
      || Ahead.second (Ahead.group .brace) trees || Ahead.second (Ahead.group .paren) trees
      || Ahead.second (Ahead.op "..") trees)
    || Ahead.word "self" trees && Ahead.second (Ahead.op "::") trees
    || Ahead.op "::" trees || Ahead.op "<" trees || Ahead.word "Self" trees
    || Ahead.word "super" trees || Ahead.word "crate" trees

def patternOf (g : Grammar) : Reader PatternForm := do
  if ← ahead pathPatternAhead then g.pathPattern
  else if ← ahead (Ahead.word "_") then
    let _ ← anyWord
    return .other
  else if ← ahead (Ahead.word "box") then
    verbatim do
      word "box"
      let _ ← g.pattern
    return .verbatim
  else if ← ahead fun trees =>
      Ahead.op "-" trees || Ahead.literal trees || Ahead.word "const" trees then
    guard (← g.rangeEnd)
    if ← ahead (Ahead.op "..") then g.restOfRange else return .other
  else if ← ahead fun trees => Ahead.word "ref" trees || Ahead.word "mut" trees
      || Ahead.word "self" trees || Ahead.ident trees then
    g.bindingPattern
    return .other
  else if ← ahead (Ahead.op "&") then
    op "&"
    let _ ← optionalWord "mut"
    let _ ← g.pattern
    return .other
  else if ← ahead (Ahead.group .paren) then
    group .paren do
      let _ ← g.patternList fun _ => true
    return .other
  else if ← ahead (Ahead.group .bracket) then
    group .bracket do
      let _ ← g.patternList (· ≠ .openRange)
    return .other
  else
    let isClosed ← rangeOp false
    let hasEnd ← g.rangeEnd
    guard (hasEnd || !isClosed)
    return if hasEnd then .openRange else .rest

end TypedLogging.Source.Grammar
