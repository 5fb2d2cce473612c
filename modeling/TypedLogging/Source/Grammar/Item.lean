import TypedLogging.Source.Grammar.Expression
import TypedLogging.Source.Grammar.Function

namespace TypedLogging.Source.Grammar

open Reader

/-- A field in braces. A field without a name may have a struct of its own as its type. -/
def namedField (g : Grammar) : Reader Unit := do
  let _ ← g.outerAttributes
  let _ ← visibility
  let isUnnamed ← ahead (Ahead.word "_")
  let _ ← if isUnnamed then anyWord else ident
  op ":"
  if ← ahead fun trees => isUnnamed && (Ahead.word "struct" trees
      || Ahead.word "union" trees && Ahead.second (Ahead.group .brace) trees) then
    verbatim do
      let _ ← anyWord
      g.fields
  else
    let _ ← g.type true

def fieldsOf (g : Grammar) : Reader Unit := do
  let _ ← listIn .brace g.namedField

def tupleField (g : Grammar) : Reader Unit := do
  let _ ← g.outerAttributes
  let _ ← visibility
  let _ ← g.type true

def tupleFields (g : Grammar) : Reader Unit := do
  let _ ← listIn .paren g.tupleField

def structBody (g : Grammar) : Reader Unit := do
  let hasWhere ← g.whereClause
  if !hasWhere && (← ahead (Ahead.group .paren)) then
    g.tupleFields
    let _ ← g.whereClause
    op ";"
  else if ← ahead (Ahead.group .brace) then g.fields
  else op ";"

def variant (g : Grammar) : Reader Unit := do
  let _ ← g.outerAttributes
  let _ ← quietly visibility
  let _ ← ident
  if ← ahead (Ahead.group .brace) then g.fields
  else if ← ahead (Ahead.group .paren) then g.tupleFields
  if ← optionalOp "=" then g.value

def enumBody (g : Grammar) : Reader Unit := do
  let _ ← g.whereClause
  let _ ← listIn .brace g.variant

def unionBody (g : Grammar) : Reader Unit := do
  let _ ← g.whereClause
  g.fields

def typeItem (g : Grammar) (keyword : String) (attributes : List Attribute) (visible : Code)
    (body : Reader Unit) : Reader Item := do
  word keyword
  let name ← ident
  let isGeneric ← g.generics
  body
  return .typeItem ⟨name, visible, attributes, isGeneric⟩

/-- The tree of an import. It is none where a path begins at the root of all crates, which the tree
does not record. -/
def useTreeOf (g : Grammar) (allowRoot : Bool) : Reader (Option UseTree) := do
  if ← ahead fun trees => Ahead.ident trees || Ahead.word "self" trees
      || Ahead.word "super" trees || Ahead.word "crate" trees || Ahead.word "try" trees then
    let name ← anyWord
    if ← optionalOp "::" then return (← g.useTree false).map (.step name)
    else if ← optionalWord "as" then
      let visible ← if ← ahead (Ahead.word "_") then anyWord else ident
      return some (.renamed name visible)
    else return some (.leaf name)
  else if ← optionalOp "*" then return some .glob
  else
    let trees ← listIn .brace do
      let isRoot ← if allowRoot then optionalOp "::" else pure false
      let tree ← g.useTree (allowRoot && !isRoot)
      return if isRoot then none else tree
    return (trees.mapM id).map .group

def useItem (g : Grammar) : Reader (Option UseTree) := do
  word "use"
  let isRoot ← optionalOp "::"
  let tree ← g.useTree (!isRoot)
  op ";"
  return tree

def constant (g : Grammar) : Reader (Bool × Bool) := do
  word "const"
  let _ ← if ← ahead (Ahead.word "_") then anyWord else ident
  let isGeneric ← ahead (Ahead.op "<")
  let _ ← g.generics
  op ":"
  let _ ← g.type true
  let hasValue ← optionalOp "="
  if hasValue then g.value
  let hasWhere ← g.whereClause
  op ";"
  return (hasValue, isGeneric || hasWhere)

def staticItem (g : Grammar) : Reader Bool := do
  word "static"
  let _ ← optionalWord "mut"
  let _ ← ident
  let hasType ← ahead (Ahead.op ":")
  if hasType then
    op ":"
    let _ ← g.type true
  let hasValue ← ahead (Ahead.op "=")
  if hasValue then
    op "="
    g.value
  guard (hasType || hasValue)
  op ";"
  return !hasType || !hasValue

structure TypeDefinition where
  name : String
  isBounded : Bool
  isDefined : Bool

def typeDefinition (g : Grammar) (whereBefore whereBehind : Bool) : Reader TypeDefinition := do
  word "type"
  let name ← ident
  let _ ← g.generics
  let isBounded ← ahead (Ahead.op ":")
  optionalBounds
    (fun trees => Ahead.word "where" trees || Ahead.op "=" trees || Ahead.op ";" trees)
    g.traitBoundOnly
  let hasWhere ← if whereBefore then g.whereClause else pure false
  let isDefined ← optionalOp "="
  if isDefined then let _ ← g.type true
  let _ ← if whereBehind && !hasWhere then g.whereClause else pure false
  op ";"
  return ⟨name, isBounded, isDefined⟩

def invocationAhead : Ahead.Test := fun trees =>
  Ahead.ident trees || Ahead.word "self" trees || Ahead.word "super" trees
    || Ahead.word "crate" trees || Ahead.op "::" trees

def invocationBody : Reader Unit := do
  let (delimiter, _) ← rawGroup
  if delimiter ≠ .brace then op ";"

def memberInvocation : Reader Unit := do
  guard (← ahead invocationAhead)
  let _ ← plainPath
  op "!"
  invocationBody

def itemInvocation : Reader Unit := do
  guard (← ahead invocationAhead)
  let _ ← plainPath
  op "!"
  if ← ahead fun trees => Ahead.ident trees || Ahead.word "try" trees then let _ ← anyWord
  invocationBody

def members (g : Grammar) (member : Reader Unit) : Reader Unit :=
  group .brace do
    let _ ← g.innerAttributes
    let _ ← many Ahead.nothing member

def foreignStaticAhead : Ahead.Test := fun trees =>
  Ahead.word "static" trees
    || (Ahead.word "unsafe" trees || Ahead.word "safe" trees)
      && Ahead.second (Ahead.word "static") trees

def foreignStatic (g : Grammar) : Reader Bool := do
  let isMarked ← if ← optionalWord "unsafe" then pure true else optionalWord "safe"
  word "static"
  let _ ← optionalWord "mut"
  let _ ← ident
  op ":"
  let _ ← g.type true
  let hasValue ← optionalOp "="
  if hasValue then g.value
  op ";"
  return isMarked || hasValue

def foreignMember (g : Grammar) : Reader Unit :=
  settled do
    let _ ← g.outerAttributes
    let isVisible ← visibility
    if ← ahead (signatureAhead true) then
      let isSafe ← g.signature true
      let hasBody ← ahead (Ahead.group .brace)
      if hasBody then g.body
      else op ";"
      return ((), isSafe || hasBody)
    else if ← ahead foreignStaticAhead then return ((), ← g.foreignStatic)
    else if ← ahead (Ahead.word "type") then
      let found ← g.typeDefinition true true
      return ((), found.isBounded || found.isDefined)
    else
      guard (!isVisible)
      memberInvocation
      return ((), false)

def foreignItem (g : Grammar) : Reader Unit := do
  let _ ← optionalWord "unsafe"
  abi
  g.members g.foreignMember

def traitMember (g : Grammar) : Reader Unit :=
  settled do
    let _ ← g.outerAttributes
    let isVisible ← visibility
    let isDefault ← optionalWord "default"
    let isMarked := isVisible || isDefault
    if ← ahead (signatureAhead false) then
      let _ ← g.signature false
      if ← ahead (Ahead.group .brace) then g.body
      else op ";"
      return ((), isMarked)
    else if ← ahead (Ahead.word "const") then
      let (_, isGeneric) ← g.constant
      return ((), isMarked || isGeneric)
    else if ← ahead (Ahead.word "type") then
      let _ ← g.typeDefinition false true
      return ((), isMarked)
    else
      guard (!isMarked)
      memberInvocation
      return ((), false)

def bodyAhead : Ahead.Test := fun trees =>
  Ahead.word "where" trees || Ahead.group .brace trees

def traitBody (g : Grammar) : Reader Unit := do
  optionalBounds bodyAhead g.traitBoundOnly
  let _ ← g.whereClause
  g.members g.traitMember

def traitOrAlias (g : Grammar) : Reader Item := do
  word "trait"
  let name ← ident
  let _ ← g.generics
  if ← ahead (Ahead.op "=") then
    op "="
    let _ ← separated (fun trees => Ahead.word "where" trees || Ahead.op ";" trees) "+"
      (g.bound false false)
    let _ ← g.whereClause
    op ";"
    return .other
  else
    g.traitBody
    return .trait name

def markedTrait (g : Grammar) : Reader Item := do
  let _ ← optionalWord "unsafe"
  let _ ← optionalWord "auto"
  word "trait"
  let name ← ident
  let _ ← g.generics
  g.traitBody
  return .trait name

def implMember (g : Grammar) : Reader Unit :=
  settled do
    let _ ← g.outerAttributes
    let isVisible ← visibility
    let isDefault ← ahead fun trees =>
      Ahead.word "default" trees && !Ahead.second (Ahead.op "!") trees
    if isDefault then word "default"
    if ← ahead (signatureAhead false) then
      let _ ← g.signature false
      if ← optionalOp ";" then return ((), true)
      g.body
      return ((), false)
    else if ← ahead (Ahead.word "const") then
      let (hasValue, isGeneric) ← g.constant
      return ((), !hasValue || isGeneric)
    else if ← ahead (Ahead.word "type") then
      let found ← g.typeDefinition false true
      return ((), found.isBounded || !found.isDefined)
    else
      guard (!isVisible && !isDefault)
      memberInvocation
      return ((), false)

def implementation (g : Grammar) (isVisible : Bool) : Reader Bool := do
  let _ ← optionalWord "default"
  let _ ← optionalWord "unsafe"
  word "impl"
  if ← ahead genericsAhead then let _ ← g.generics
  let isConst ← ahead fun trees =>
    Ahead.word "const" trees || Ahead.op "?" trees && Ahead.second (Ahead.word "const") trees
  if isConst then
    let _ ← optionalOp "?"
    word "const"
  let isNegative ← ahead fun trees =>
    Ahead.op "!" trees && !Ahead.second (Ahead.group .brace) trees
  if isNegative then op "!"
  let isPath := match (← g.type true).form with
    | .path _ => true
    | _ => false
  let isFor ← optionalWord "for"
  if isFor then let _ ← g.type true
  guard (isFor || !isNegative)
  let _ ← g.whereClause
  g.members g.implMember
  return isVisible || isConst || isFor && !isPath

def externCrate : Reader Unit := do
  word "extern"
  word "crate"
  let _ ← if ← ahead (Ahead.word "self") then anyWord else ident
  if ← optionalWord "as" then
    let _ ← if ← ahead (Ahead.word "_") then anyWord else ident
  op ";"

def submodule (g : Grammar) : Reader Item := do
  let _ ← optionalWord "unsafe"
  word "mod"
  let name ← if ← ahead (Ahead.word "try") then anyWord else ident
  if ← optionalOp ";" then return .submodule name none
  group .brace do
    let _ ← g.innerAttributes
    return .submodule name (some (← many Ahead.nothing g.item))

def ruleSet : Reader Unit := do
  word "macro"
  let _ ← ident
  if ← ahead (Ahead.group .paren) then let _ ← rawGroup
  guard (← ahead (Ahead.group .brace))
  let _ ← rawGroup

def function (g : Grammar) : Reader (Item × Bool) := do
  let _ ← g.signature false
  if ← optionalOp ";" then return (.other, true)
  return (.function (← g.functionBody), false)

def foreignItemAhead : Ahead.Test := fun trees =>
  Ahead.word "extern" trees
    && (Ahead.second (Ahead.group .brace) trees
      || Ahead.second Ahead.string trees && Ahead.third (Ahead.group .brace) trees)

def markedTraitAhead : Ahead.Test := fun trees =>
  Ahead.word "auto" trees && Ahead.second (Ahead.word "trait") trees
    || Ahead.word "unsafe" trees
      && (Ahead.second (Ahead.word "trait") trees
        || Ahead.second (Ahead.word "auto") trees && Ahead.third (Ahead.word "trait") trees)

def implementationAhead : Ahead.Test := fun trees =>
  Ahead.word "impl" trees
    || Ahead.word "default" trees && !Ahead.second (Ahead.op "!") trees
    || Ahead.word "unsafe" trees && Ahead.second (Ahead.word "impl") trees

def submoduleAhead : Ahead.Test := fun trees =>
  Ahead.word "mod" trees || Ahead.word "unsafe" trees && Ahead.second (Ahead.word "mod") trees

def itemBehind (g : Grammar) (attributes : List Attribute) (isVisible : Bool) (visible : Code) :
    Reader (Item × Bool) := do
  let ordinary (reader : Reader Item) : Reader (Item × Bool) := do return (← reader, false)
  if ← ahead (signatureAhead false) then g.function
  else if ← ahead fun trees =>
      Ahead.word "extern" trees && Ahead.second (Ahead.word "crate") trees then
    externCrate
    return (.other, false)
  else if ← ahead fun trees => foreignItemAhead trees
      || Ahead.word "unsafe" trees && Ahead.second (Ahead.word "extern") trees then
    guard (!isVisible)
    g.foreignItem
    return (.other, false)
  else if ← ahead (Ahead.word "use") then
    match ← g.useItem with
    | some tree => return (.useItem tree, false)
    | none => return (.other, true)
  else if ← ahead (Ahead.word "static") then return (.other, ← g.staticItem)
  else if ← ahead (Ahead.word "const") then
    let (hasValue, isGeneric) ← g.constant
    return (.other, !hasValue || isGeneric)
  else if ← ahead markedTraitAhead then ordinary g.markedTrait
  else if ← ahead implementationAhead then return (.other, ← g.implementation isVisible)
  else if ← ahead submoduleAhead then ordinary g.submodule
  else if ← ahead (Ahead.word "type") then
    let found ← g.typeDefinition true false
    if found.isDefined && !found.isBounded then return (.typeAlias found.name, false)
    return (.other, true)
  else if ← ahead (Ahead.word "struct") then
    ordinary (g.typeItem "struct" attributes visible g.structBody)
  else if ← ahead (Ahead.word "enum") then
    ordinary (g.typeItem "enum" attributes visible g.enumBody)
  else if ← ahead fun trees => Ahead.word "union" trees && Ahead.second Ahead.ident trees then
    ordinary (g.typeItem "union" attributes visible g.unionBody)
  else if ← ahead (Ahead.word "trait") then ordinary g.traitOrAlias
  else if ← ahead (Ahead.word "macro") then
    ruleSet
    return (.other, true)
  else
    guard (!isVisible)
    itemInvocation
    return (.other, false)

def itemOf (g : Grammar) : Reader Item :=
  settled do
    let attributes ← g.outerAttributes
    let (isVisible, visible) ← quietly visibility
    write visible
    let ((item, asItStands), inner) ← collecting (g.itemBehind attributes isVisible visible)
    return (item.with inner, asItStands)

end TypedLogging.Source.Grammar
