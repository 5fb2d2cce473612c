import TypedLogging.Source.Grammar.Pattern

namespace TypedLogging.Source.Grammar

open Reader

def restriction : Reader Unit :=
  group .paren do
    if ← ahead (Ahead.word "in") then
      word "in"
      let _ ← plainPath
    else
      guard (← ahead fun trees => Ahead.word "crate" trees || Ahead.word "self" trees
        || Ahead.word "super" trees)
      let _ ← anyWord

/-- A visibility; nothing is read where it is inherited. Parentheses that restrict nothing are left
to what follows, which may be a tuple. Says whether the visibility is written out. -/
def visibility : Reader Bool := do
  if ← optionalWord "pub" then
    let _ ← attempt restriction
    return true
  else return false

def behindWord (name : String) (trees : List TokenTree) : List TokenTree :=
  if Ahead.word name trees then Ahead.skip trees else trees

def signatureAhead (allowSafe : Bool) : Ahead.Test := fun trees =>
  let trees := behindWord "async" (behindWord "const" trees)
  let trees :=
    if allowSafe && Ahead.word "safe" trees then Ahead.skip trees else behindWord "unsafe" trees
  let trees :=
    if Ahead.word "extern" trees then
      if Ahead.second Ahead.string trees then Ahead.skip (Ahead.skip trees) else Ahead.skip trees
    else trees
  Ahead.word "fn" trees

/-- How the value a method is called on begins: `self`, perhaps behind a reference. A path may begin
with `self` too. Says whether there is a reference. -/
def receiverStart : Reader Bool := do
  let isReference ← optionalOp "&"
  if isReference then optionalLifetime
  let _ ← optionalWord "mut"
  word "self"
  guard (!(← ahead (Ahead.op "::")))
  return isReference

inductive FunctionParam
  | receiver
  | typed
  | variadic
  deriving DecidableEq

/-- A parameter behind its attributes. A receiver without a reference may have a type of its own; a
bare generic type stands for an unnamed parameter. -/
def functionParam (g : Grammar) : Reader FunctionParam := do
  if ← optionalOp "..." then return .variadic
  if let some isReference ← attempt receiverStart then
    if !isReference && (← optionalOp ":") then let _ ← g.type true
    return .receiver
  if ← ahead fun trees => Ahead.ident trees && Ahead.second (Ahead.op "<") trees then
    write (words ["_", ":"])
    let _ ← g.type true
    return .typed
  let _ ← g.pattern
  op ":"
  if ← optionalOp "..." then return .variadic
  let _ ← g.type true
  return .typed

def functionParams (g : Grammar) : Reader Unit := do
  let _ ← exhaust (fun ((count, more) : Nat × Bool) => do
    if !more || (← ahead Ahead.nothing) then return none
    let _ ← g.outerAttributes
    let form ← g.functionParam
    guard (form ≠ .receiver || count = 0)
    if ← ahead Ahead.nothing then return some (count + 1, false)
    op ","
    return some (count + 1, form ≠ .variadic)) (0, true)

def signature (g : Grammar) (allowSafe : Bool) : Reader Bool := do
  let _ ← optionalWord "const"
  let _ ← optionalWord "async"
  let isUnsafe ← optionalWord "unsafe"
  let isSafe ← if allowSafe && !isUnsafe then optionalWord "safe" else pure false
  optionalAbi
  word "fn"
  let _ ← ident
  let _ ← g.generics
  group .paren g.functionParams
  let _ ← g.returnType true
  let _ ← g.whereClause
  return isSafe

end TypedLogging.Source.Grammar
