import TypedLogging.Source.Grammar.Generic

namespace TypedLogging.Source.Grammar

open Reader

def abi : Reader Unit := do
  word "extern"
  if ← ahead Ahead.string then let _ ← literal

def optionalAbi : Reader Unit := do
  if ← ahead (Ahead.word "extern") then abi

def namedAhead : Ahead.Test := fun trees =>
  (Ahead.ident trees || Ahead.word "_" trees) && Ahead.second (Ahead.op ":") trees

def variadicAhead : Ahead.Test := fun trees =>
  Ahead.op "..." trees || namedAhead trees && Ahead.third (Ahead.op "...") trees

/-- A parameter of a function pointer. Only the first one may be a receiver; with a mutable one it is
kept as it stands. -/
def pointerParam (g : Grammar) (allowSelf : Bool) : Reader Unit :=
  settled do
    let mutableAhead : Ahead.Test := fun trees =>
      allowSelf && Ahead.word "mut" trees && Ahead.second (Ahead.word "self") trees
    let nameAhead : Ahead.Test := fun trees =>
      (Ahead.ident trees || Ahead.word "_" trees || allowSelf && Ahead.word "self" trees)
        && Ahead.second Ahead.colon trees
    let isMutable ← ahead mutableAhead
    if isMutable then word "mut"
    if ← ahead nameAhead then
      let name ← anyWord
      op ":"
      if name ≠ "self" && (← ahead mutableAhead) then
        word "mut"
        word "self"
        return ((), true)
      let _ ← g.type true
    else if isMutable then word "self"
    else let _ ← g.type true
    return ((), isMutable)

def pointerParams (g : Grammar) : Reader Unit := do
  let _ ← exhaust (fun ((first, more) : Bool × Bool) => do
    if !more || (← ahead Ahead.nothing) then return none
    let _ ← g.outerAttributes
    if ← ahead variadicAhead then
      if ← ahead namedAhead then
        let _ ← anyWord
        op ":"
      op "..."
      let _ ← optionalOp ","
      return some (false, false)
    g.pointerParam first
    if ← ahead Ahead.nothing then return some (false, false)
    op ","
    return some (false, true)) (true, true)

def functionPointer (g : Grammar) : Reader Bool := do
  let _ ← optionalWord "unsafe"
  optionalAbi
  word "fn"
  group .paren g.pointerParams
  g.returnType false

/-- Bounds of an object type; lifetimes alone make none. -/
def objectBounds (g : Grammar) (allowPlus : Bool) : Reader (List BoundShape) := do
  let shapes ← g.bounds allowPlus false false
  guard (shapes.any (·.form = .capability))
  return shapes

def lastEndsInName (shapes : List BoundShape) : Bool :=
  (shapes.getLast?.map (·.endsInName)).getD false

def boundsShape (first : Bool) (more : List BoundShape) : TypeShape :=
  ⟨.bounds more.isEmpty, (more.getLast?.map (·.endsInName)).getD first⟩

def moreBounds (g : Grammar) : Reader (List BoundShape) :=
  many (fun trees => !Ahead.op "+" trees) do
    op "+"
    g.bound false false

inductive EnclosedType
  | complete
  | bound (endsInName : Bool)
  | single (shape : TypeShape)

def enclosedType (g : Grammar) : Reader EnclosedType := do
  if ← ahead Ahead.nothing then return .complete
  if ← ahead Ahead.lifetime then
    let _ ← g.objectBounds true
    return .complete
  if ← ahead (Ahead.op "?") then return .bound (← g.traitBound false).endsInName
  let first ← g.type true
  if ← optionalOp "," then
    let _ ← terminated Ahead.nothing "," (g.type true)
    return .complete
  return .single first

/-- The parentheses of a bound are written once. -/
def enclosedBoundCode : Code → Code
  | [.group .paren [.group .paren code]] => [.group .paren code]
  | code => code

def parenthesisedType (g : Grammar) (allowPlus : Bool) : Reader TypeShape := do
  let (enclosed, code) ← quietly (group .paren g.enclosedType)
  match enclosed with
  | .complete =>
    write code
    return ⟨.other, false⟩
  | .bound endsInName =>
    write code
    return boundsShape endsInName (← g.moreBounds)
  | .single first =>
    let isBound := match first.form with
      | .path _ | .bounds true => true
      | _ => false
    if allowPlus && isBound && (← ahead (Ahead.op "+")) then
      write (enclosedBoundCode code)
      return boundsShape first.endsInName (← g.moreBounds)
    else
      write code
      return ⟨.other, false⟩

def pathAhead : Ahead.Test := fun trees =>
  plainSegmentAhead trees || Ahead.op "::" trees || Ahead.op "<" trees

def pathType (g : Grammar) (lifetimes : Option Code) (allowPlus : Bool) : Reader TypeShape := do
  let found ← g.unwrittenQualifiedPath false
  let endsInName := found.path.lastArguments.isNone
  if found.qualifier.isSome then
    write found.code
    return ⟨.other, endsInName⟩
  if (← ahead fun trees => Ahead.op "!" trees && !Ahead.op "!=" trees) && found.path.isPlain then
    write found.code
    op "!"
    let _ ← rawGroup
    return ⟨.other, false⟩
  write (lifetimes.getD [] ++ found.code)
  if lifetimes.isSome || allowPlus && (← ahead (Ahead.op "+")) then
    let (isAlone, last, _) ← exhaust (fun ((_, last, more) : Bool × Bool × Bool) => do
      if !more || !allowPlus || !(← ahead (Ahead.op "+")) then return none
      op "+"
      if ← ahead (boundAhead false) then
        return some (false, (← g.bound false false).endsInName, true)
      else return some (false, last, false)) (true, endsInName, true)
    return ⟨.bounds isAlone, last⟩
  return ⟨.path found.path, endsInName⟩

def elementType (g : Grammar) : Reader TypeShape := do
  return ⟨.other, (← g.type false).endsInName⟩

def pointerType (g : Grammar) : Reader TypeShape := do
  op "*"
  if !(← optionalWord "const") then word "mut"
  g.elementType

def referenceType (g : Grammar) : Reader TypeShape := do
  op "&"
  optionalLifetime
  let _ ← optionalWord "mut"
  g.elementType

def arrayType (g : Grammar) : Reader Unit :=
  group .bracket do
    let _ ← g.type true
    if ← optionalOp ";" then g.value

def objectType (g : Grammar) (allowPlus : Bool) : Reader TypeShape := do
  if ← ahead (Ahead.second (Ahead.op "*")) then
    verbatim do
      word "dyn"
      op "*"
      let _ ← g.objectBounds allowPlus
    return ⟨.other, false⟩
  else
    word "dyn"
    return ⟨.other, lastEndsInName (← g.objectBounds allowPlus)⟩

def opaqueType (g : Grammar) (allowPlus : Bool) : Reader TypeShape := do
  word "impl"
  let shapes ← g.bounds allowPlus true true
  guard (shapes.any fun shape => shape.form = .capability || shape.form = .conditional)
  return ⟨.other, lastEndsInName shapes⟩

def functionAhead : Ahead.Test := fun trees =>
  Ahead.word "fn" trees || Ahead.word "unsafe" trees || Ahead.word "extern" trees

def builtinAhead : Ahead.Test := fun trees =>
  Ahead.word "builtin" trees && Ahead.second (Ahead.op "#") trees

def builtin : Reader Unit := do
  word "builtin"
  op "#"
  let _ ← ident
  guard (← ahead (Ahead.group .paren))
  let _ ← rawGroup

def boundType (g : Grammar) (allowPlus : Bool) : Reader TypeShape :=
  settled do
    let (_, binders) ← quietly g.binders
    if ← ahead functionAhead then
      write binders
      return (⟨.other, ← g.functionPointer⟩, false)
    else if ← ahead builtinAhead then
      builtin
      return (⟨.other, false⟩, true)
    else
      guard (← ahead plainSegmentAhead)
      return (← g.pathType (some binders) allowPlus, false)

def typeOf (g : Grammar) (allowPlus : Bool) : Reader TypeShape := do
  if ← ahead (Ahead.word "for") then g.boundType allowPlus
  else if ← ahead (Ahead.group .paren) then g.parenthesisedType allowPlus
  else if ← ahead functionAhead then return ⟨.other, ← g.functionPointer⟩
  else if ← ahead builtinAhead then
    verbatim builtin
    return ⟨.other, false⟩
  else if ← ahead pathAhead then g.pathType none allowPlus
  else if ← ahead (Ahead.word "dyn") then g.objectType allowPlus
  else if ← ahead (Ahead.group .bracket) then
    g.arrayType
    return ⟨.other, false⟩
  else if ← ahead (Ahead.op "*") then g.pointerType
  else if ← ahead (Ahead.op "&") then g.referenceType
  else if ← ahead (Ahead.op "!") then
    op "!"
    return ⟨.other, false⟩
  else if ← ahead (Ahead.word "impl") then g.opaqueType allowPlus
  else if ← ahead (Ahead.word "_") then
    let _ ← anyWord
    return ⟨.other, false⟩
  else
    guard (← ahead Ahead.lifetime)
    let shapes ← g.objectBounds true
    return ⟨.bounds (shapes.length == 1), lastEndsInName shapes⟩

end TypedLogging.Source.Grammar
