import TypedLogging.Source.Grammar.Basic

namespace TypedLogging.Source

structure AngledPart where
  isLifetime : Bool
  code : Code
  hasComma : Bool

namespace AngledPart

def separated (part : AngledPart) : Code :=
  part.code ++ if part.hasComma then [.word ","] else []

/-- Lifetimes are written first, whatever the order they were read in. -/
def inOrder (parts : List AngledPart) : Code :=
  let lifetimes := parts.filter (·.isLifetime)
  let others := parts.filter (!·.isLifetime)
  let open' := (lifetimes.getLast?.map (·.hasComma)).getD true
  let between : Code := if open' || others.isEmpty then [] else [.word ","]
  lifetimes.flatMap separated ++ between ++ others.flatMap separated

end AngledPart

namespace Grammar

open Reader

def angledParts (reader : Reader Bool) : Reader (List AngledPart) := do
  let (parts, _) ← exhaust (fun ((parts, more) : List AngledPart × Bool) => do
    if !more || (← ahead (Ahead.op ">")) then return none
    let (isLifetime, code) ← quietly reader
    if ← ahead (Ahead.op ">") then return some (⟨isLifetime, code, false⟩ :: parts, false)
    skipOp ","
    return some (⟨isLifetime, code, true⟩ :: parts, true)) ([], true)
  return parts.reverse

def constArgument (g : Grammar) : Reader Unit := do
  if ← ahead Ahead.literal then let _ ← literal
  else if ← ahead Ahead.ident then let _ ← ident
  else g.body

def closesAngle : Ahead.Test := fun trees => Ahead.op "," trees || Ahead.op ">" trees

def canBeAssociated : TypeForm → Bool
  | .path ⟨false, [_]⟩ => true
  | _ => false

def constAhead : Ahead.Test := fun trees => Ahead.literal trees || Ahead.group .brace trees

def genericArgument (g : Grammar) : Reader Bool := do
  if ← ahead fun trees => Ahead.lifetime trees && !Ahead.second (Ahead.op "+") trees then
    lifetime
    return true
  if ← ahead constAhead then
    g.constArgument
    return false
  let shape ← g.type true
  if canBeAssociated shape.form then
    if ← optionalOp "=" then
      if ← ahead constAhead then g.constArgument
      else let _ ← g.type true
    else if ← optionalOp ":" then
      let _ ← separated closesAngle "+" (g.bound false true)
  return false

def angledArguments (g : Grammar) : Reader SegmentArguments := do
  let ((opening, body), _) ← quietly do
    let colons ← optionalOp "::"
    op "<"
    let parts ← angledParts g.genericArgument
    op ">"
    return ((if colons then words ["::", "<"] else words ["<"]), AngledPart.inOrder parts)
  return .angled opening body

def segment (g : Grammar) (exprStyle : Bool) : Reader Segment := do
  if ← ahead fun trees => Ahead.word "super" trees || Ahead.word "self" trees
      || Ahead.word "crate" trees || Ahead.word "try" trees then
    return ⟨← anyWord, .none⟩
  let name ← if ← ahead (Ahead.word "Self") then anyWord else ident
  let angled ← ahead fun trees =>
    !exprStyle && Ahead.op "<" trees && !Ahead.op "<=" trees
      || Ahead.op "::" trees && Ahead.third (Ahead.op "<") trees
  return ⟨name, ← if angled then g.angledArguments else pure .none⟩

def furtherSegments (g : Grammar) (exprStyle : Bool) (path : Path) : Reader Path :=
  exhaust (fun (path : Path) => do
    if ← ahead fun trees =>
        Ahead.op "::" trees && !Ahead.third (Ahead.group .paren) trees then
      skipOp "::"
      let next ← g.segment exprStyle
      return some { path with segments := path.segments ++ [next] }
    else return none) path

def unwrittenPath (g : Grammar) (exprStyle : Bool) : Reader Path := do
  let (path, _) ← quietly do
    let leading ← optionalOp "::"
    let first ← g.segment exprStyle
    g.furtherSegments exprStyle ⟨leading, [first]⟩
  return path

def path (g : Grammar) (exprStyle : Bool) : Reader Path := do
  let found ← g.unwrittenPath exprStyle
  write found.code
  return found

def unwrittenQualifiedPath (g : Grammar) (exprStyle : Bool) : Reader QualifiedPath := do
  if ← ahead (Ahead.op "<") then
    let ((), qualifier) ← quietly do
      op "<"
      let _ ← g.type true
      if ← optionalWord "as" then let _ ← g.path false
      op ">"
    skipOp "::"
    let (path, _) ← quietly do
      let first ← g.segment exprStyle
      exhaust (fun (path : Path) => do
        if ← ahead (Ahead.op "::") then
          skipOp "::"
          let next ← g.segment exprStyle
          return some { path with segments := path.segments ++ [next] }
        else return none) ⟨false, [first]⟩
    return ⟨some qualifier, path⟩
  else return ⟨none, ← g.unwrittenPath exprStyle⟩

def returnType (g : Grammar) (allowPlus : Bool) : Reader Bool := do
  if ← optionalOp "->" then return (← g.type allowPlus).endsInName
  else return false

def parenthesisAhead : Ahead.Test := fun trees =>
  Ahead.group .paren trees || Ahead.op "::" trees && Ahead.third (Ahead.group .paren) trees

/-- Arguments in parentheses with a result type; `::` before them is dropped. Says whether the result
type ends in the name of a path. -/
def parenthesisedArguments (g : Grammar) : Reader (SegmentArguments × Bool) := do
  if ← ahead (Ahead.op "::") then skipOp "::"
  let (endsInName, code) ← quietly do
    let _ ← listIn .paren (g.type true)
    g.returnType false
  return (.parenthesised code, endsInName)

def binders (g : Grammar) : Reader Bool := do
  if ← optionalWord "for" then
    op "<"
    let _ ← terminated (Ahead.op ">") "," g.param
    op ">"
    return true
  else return false

def traitBound (g : Grammar) (allowConst : Bool) : Reader BoundShape := do
  let (hasBinders, binders) ← quietly g.binders
  let isConst ← silently do
    if ← ahead (Ahead.group .bracket) then
      group .bracket (word "const")
      return true
    else optionalWord "const"
  guard (!isConst || allowConst)
  let (isOptional, modifier) ← quietly (optionalOp "?")
  guard (!(isOptional && (hasBinders || (← ahead (Ahead.word "for")))))
  let path ← g.unwrittenPath false
  let (path, endsInName) ←
    if path.lastArguments.isEmpty && (← ahead parenthesisAhead) then
      let (arguments, endsInName) ← g.parenthesisedArguments
      pure (path.withLastArguments arguments, endsInName)
    else pure (path, path.lastArguments.isNone)
  write (modifier ++ binders ++ path.code)
  return if isConst then ⟨.conditional, false⟩ else ⟨.capability, endsInName⟩

def captures : Reader Unit := do
  word "use"
  op "<"
  let parts ← angledParts do
    if ← ahead Ahead.lifetime then
      lifetime
      return true
    else
      guard (← ahead fun trees => Ahead.ident trees || Ahead.word "Self" trees)
      let _ ← anyWord
      return false
  write (AngledPart.inOrder parts)
  op ">"

def boundOf (g : Grammar) (allowCapture allowConst : Bool) : Reader BoundShape := do
  if ← ahead Ahead.lifetime then
    lifetime
    return ⟨.lifetime, false⟩
  if ← ahead (Ahead.word "use") then
    captures
    guard allowCapture
    return ⟨.capture, false⟩
  settled do
    let shape ←
      if ← ahead (Ahead.group .paren) then group .paren (g.traitBound allowConst)
      else g.traitBound allowConst
    return (shape, shape.form = .conditional)

def boundAhead (allowConst : Bool) : Ahead.Test := fun trees =>
  Ahead.anyWord trees || Ahead.op "::" trees || Ahead.op "?" trees || Ahead.lifetime trees
    || Ahead.group .paren trees
    || allowConst && (Ahead.group .bracket trees || Ahead.word "const" trees)

def bounds (g : Grammar) (allowPlus allowCapture allowConst : Bool) :
    Reader (List BoundShape) := do
  let (shapes, _) ← exhaust (fun ((shapes, more) : List BoundShape × Bool) => do
    if !more then return none
    let shape ← g.boundOf allowCapture allowConst
    if allowPlus && (← ahead (Ahead.op "+")) then
      op "+"
      return some (shape :: shapes, ← ahead (boundAhead allowConst))
    else return some (shape :: shapes, false)) ([], true)
  return shapes.reverse

/-- Bounds behind a colon; a colon without bounds is dropped. -/
def optionalBounds (stop : Ahead.Test) (bound : Reader Unit) : Reader Unit := do
  if ← ahead (Ahead.op ":") then
    let (found, code) ← quietly do
      skipOp ":"
      separated stop "+" bound
    if !found.isEmpty then write (.word ":" :: code)

def traitBoundOnly (g : Grammar) : Reader Unit := do
  let _ ← g.bound false true

def paramOf (g : Grammar) : Reader Bool := do
  let _ ← g.outerAttributes
  if ← ahead Ahead.ident then
    let _ ← ident
    optionalBounds (fun trees => trees.isEmpty || closesAngle trees || Ahead.op "=" trees)
      g.traitBoundOnly
    if ← optionalOp "=" then let _ ← g.type true
    return false
  else if ← ahead Ahead.lifetime then
    lifetime
    optionalBounds (fun trees => trees.isEmpty || closesAngle trees) lifetime
    return true
  else
    word "const"
    let _ ← ident
    op ":"
    let _ ← g.type true
    if ← optionalOp "=" then g.constArgument
    return false

def generics (g : Grammar) : Reader Bool := do
  if ← ahead (Ahead.op "<") then
    skipOp "<"
    let parts ← angledParts do
      let (_, code) ← quietly g.outerAttributes
      write code
      if ← ahead (Ahead.word "_") then
        let _ ← anyWord
        return false
      else g.paramOf
    skipOp ">"
    if parts.isEmpty then return false
    write (.word "<" :: AngledPart.inOrder parts ++ [.word ">"])
    return true
  else return false

def endsPredicate : Ahead.Test := fun trees =>
  trees.isEmpty || Ahead.group .brace trees || Ahead.op "," trees || Ahead.op ";" trees
    || Ahead.colon trees || Ahead.op "=" trees

def endsOutlives : Ahead.Test := fun trees =>
  trees.isEmpty || Ahead.group .brace trees || Ahead.op "," trees || Ahead.op ";" trees
    || Ahead.op ":" trees || Ahead.op "=" trees

def predicate (g : Grammar) : Reader Unit := do
  if ← ahead fun trees => Ahead.lifetime trees && Ahead.second (Ahead.op ":") trees then
    lifetime
    op ":"
    let _ ← separated endsOutlives "+" lifetime
  else
    let _ ← g.binders
    let _ ← g.type true
    op ":"
    let _ ← separated endsPredicate "+" g.traitBoundOnly

/-- Whether `<` behind a keyword begins generic parameters rather than a qualified path. -/
def genericsAhead : Ahead.Test := fun trees =>
  Ahead.op "<" trees
    && (Ahead.second (Ahead.op ">") trees || Ahead.second (Ahead.op "#") trees
      || (Ahead.second Ahead.lifetime trees || Ahead.second Ahead.ident trees)
        && (Ahead.third (Ahead.op ">") trees || Ahead.third (Ahead.op ",") trees
          || Ahead.third Ahead.colon trees || Ahead.third (Ahead.op "=") trees)
      || Ahead.second (Ahead.word "const") trees)

def whereClause (g : Grammar) : Reader Bool := do
  if ← ahead (Ahead.word "where") then
    let (found, code) ← quietly do
      word "where"
      guard (!(← ahead genericsAhead))
      separated endsPredicate "," g.predicate
    if !found.isEmpty then write code
    return true
  else return false

end Grammar

end TypedLogging.Source
