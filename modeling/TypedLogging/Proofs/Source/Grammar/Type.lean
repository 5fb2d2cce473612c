import TypedLogging.Proofs.Source.Expressions
import TypedLogging.Proofs.Source.Advancing
import TypedLogging.Source.Grammar.Level

namespace TypedLogging.Source.Grammar

open Reader
open Judged (IsSound)

set_option synthInstance.maxSize 2000

instance : Inert Attribute := ⟨⟩

instance : Inert TypeShape := ⟨⟩

instance : Inert BoundShape := ⟨⟩

instance : Inert PatternForm := ⟨⟩

instance : Inert UseTree := ⟨⟩

/-- What is nested inside is read orderly. -/
class IsOrderly (g : Grammar) : Prop where
  expr : ∀ origin allowStruct, Orderly origin (g.expr allowStruct)
  unary : ∀ origin allowStruct, Orderly origin (g.unary allowStruct)
  early : ∀ origin, Orderly origin g.early
  climb : ∀ origin allowStruct base expr, [Sound expr] → Orderly origin (g.climb allowStruct base expr)
  type : ∀ origin allowPlus, Orderly origin (g.type allowPlus)
  bound : ∀ origin allowCapture allowConst, Orderly origin (g.bound allowCapture allowConst)
  param : ∀ origin, Orderly origin g.param
  pattern : ∀ origin, Orderly origin g.pattern
  fields : ∀ origin, Orderly origin g.fields
  statements : ∀ origin, Orderly origin g.statements
  item : ∀ origin, Orderly origin g.item
  useTree : ∀ origin allowRoot, Orderly origin (g.useTree allowRoot)
  advances : ∀ origin allowStruct, Advances origin (g.unary allowStruct)

attribute [instance] IsOrderly.expr IsOrderly.unary IsOrderly.early IsOrderly.climb IsOrderly.type
  IsOrderly.bound IsOrderly.param IsOrderly.pattern IsOrderly.fields IsOrderly.statements IsOrderly.item
  IsOrderly.useTree IsOrderly.advances

variable {g : Grammar} [IsOrderly g] {origin : List TokenTree}

section Basic

instance : Orderly origin plainPath := by unfold plainPath; infer_instance

instance (around : Surroundings) (reader : Reader Expr) [Orderly origin reader] :
    Orderly origin (writing around reader) := by unfold writing; infer_instance

instance : Orderly origin g.value := by unfold value; infer_instance

instance : Orderly origin g.condition := by unfold condition; infer_instance

instance : Orderly origin literalExpr := by
  unfold literalExpr
  refine .bind fun (found, code) hsound => ?_
  have : Sound code := ⟨hsound.2⟩
  cases found <;> infer_instance

theorem legible_index {numeral : Numeral} (h : isIndex numeral = true) : Code.Legible [.word numeral.text] := by
  have hsign : numeral.isNegative = false := (Bool.not_eq_true' _).mp ((Bool.and_eq_true _ _).mp h).1
  have htext : numeral.text = toString numeral.magnitude := by simp [Numeral.text, hsign]
  rw [htext]
  exact legible_of_isLiteral (isLiteral_natural _)

instance : Orderly origin index := by
  unfold index
  refine .bind fun (found, _) _ => ?_
  dsimp only
  split
  next numeral _ =>
    refine .bind_guard fun h => ?_
    have : Sound ([.word numeral.text] : Code) := ⟨legible_index h⟩
    infer_instance
  next => infer_instance

instance : Orderly origin member := by unfold member; infer_instance

instance : Orderly origin attributePath := by unfold attributePath; infer_instance

instance : Orderly origin g.attributeBody := by unfold attributeBody; infer_instance

instance : Orderly origin g.outerAttribute := by unfold outerAttribute; infer_instance

instance : Orderly origin g.outerAttributes := by unfold outerAttributes; infer_instance

instance : Orderly origin g.attributesCode := by unfold attributesCode; infer_instance

instance : Orderly origin g.innerAttribute := by unfold innerAttribute; infer_instance

instance : Orderly origin g.innerAttributes := by unfold innerAttributes; infer_instance

instance : Orderly origin g.functionBody := by unfold functionBody; infer_instance

instance : Orderly origin g.body := by unfold body; infer_instance

instance : Orderly origin g.block := by unfold block; infer_instance

end Basic

section Generic

instance (reader : Reader Bool) [Orderly origin reader] : Orderly origin (angledParts reader) := by
  unfold angledParts; infer_instance

instance : Orderly origin g.constArgument := by unfold constArgument; infer_instance

instance : Orderly origin g.genericArgument := by unfold genericArgument; infer_instance

instance : Orderly origin g.angledArguments := by unfold angledArguments; infer_instance

instance (exprStyle : Bool) : Orderly origin (g.segment exprStyle) := by unfold segment; infer_instance

instance (exprStyle : Bool) (path : Path) [Sound path] : Orderly origin (g.furtherSegments exprStyle path) := by
  unfold furtherSegments; infer_instance

instance (exprStyle : Bool) : Orderly origin (g.unwrittenPath exprStyle) := by
  unfold unwrittenPath; infer_instance

instance (exprStyle : Bool) : Orderly origin (g.path exprStyle) := by unfold path; infer_instance

instance (exprStyle : Bool) : Orderly origin (g.unwrittenQualifiedPath exprStyle) := by
  unfold unwrittenQualifiedPath; infer_instance

instance (allowPlus : Bool) : Orderly origin (g.returnType allowPlus) := by
  unfold returnType; infer_instance

instance : Orderly origin g.parenthesisedArguments := by unfold parenthesisedArguments; infer_instance

instance : Orderly origin g.binders := by unfold binders; infer_instance

instance (allowConst : Bool) : Orderly origin (g.traitBound allowConst) := by
  unfold traitBound; infer_instance

instance : Orderly origin captures := by unfold captures; infer_instance

instance (allowCapture allowConst : Bool) : Orderly origin (g.boundOf allowCapture allowConst) := by
  unfold boundOf; infer_instance

instance (allowPlus allowCapture allowConst : Bool) :
    Orderly origin (g.bounds allowPlus allowCapture allowConst) := by unfold bounds; infer_instance

instance (stop : Ahead.Test) (bound : Reader Unit) [Orderly origin bound] :
    Orderly origin (optionalBounds stop bound) := by unfold optionalBounds; infer_instance

instance : Orderly origin g.traitBoundOnly := by unfold traitBoundOnly; infer_instance

instance : Orderly origin g.paramOf := by unfold paramOf; infer_instance

instance : Orderly origin g.generics := by unfold generics; infer_instance

instance : Orderly origin g.predicate := by unfold predicate; infer_instance

instance : Orderly origin g.whereClause := by unfold whereClause; infer_instance

end Generic

section Types

instance : Orderly origin abi := by unfold abi; infer_instance

instance : Orderly origin optionalAbi := by unfold optionalAbi; infer_instance

instance (allowSelf : Bool) : Orderly origin (g.pointerParam allowSelf) := by
  unfold pointerParam; infer_instance

instance : Orderly origin g.pointerParams := by unfold pointerParams; infer_instance

instance : Orderly origin g.functionPointer := by unfold functionPointer; infer_instance

instance (allowPlus : Bool) : Orderly origin (g.objectBounds allowPlus) := by
  unfold objectBounds; infer_instance

instance : Orderly origin g.moreBounds := by unfold moreBounds; infer_instance

instance : Inert EnclosedType := ⟨⟩

instance : Orderly origin g.enclosedType := by unfold enclosedType; infer_instance

theorem legible_enclosedBoundCode {body : Code} (h : body.Legible) :
    (enclosedBoundCode [.group .paren body]).Legible := by
  unfold enclosedBoundCode
  split
  next heq =>
    cases heq
    exact h
  next => exact legible_parenthesised h

instance (allowPlus : Bool) : Orderly origin (g.parenthesisedType allowPlus) := by
  unfold parenthesisedType
  refine .bind_quietly_group fun enclosed body _ hbody => ?_
  have : Sound body := ⟨hbody⟩
  have : Sound (enclosedBoundCode [.group .paren body]) := ⟨legible_enclosedBoundCode hbody⟩
  cases enclosed <;> infer_instance

instance (lifetimes : Option Code) (allowPlus : Bool) [Sound lifetimes] :
    Orderly origin (g.pathType lifetimes allowPlus) := by
  unfold pathType; infer_instance

instance : Orderly origin g.elementType := by unfold elementType; infer_instance

instance : Orderly origin g.pointerType := by unfold pointerType; infer_instance

instance : Orderly origin g.referenceType := by unfold referenceType; infer_instance

instance : Orderly origin g.arrayType := by unfold arrayType; infer_instance

instance (allowPlus : Bool) : Orderly origin (g.objectType allowPlus) := by
  unfold objectType; infer_instance

instance (allowPlus : Bool) : Orderly origin (g.opaqueType allowPlus) := by
  unfold opaqueType; infer_instance

instance : Orderly origin builtin := by unfold builtin; infer_instance

instance (allowPlus : Bool) : Orderly origin (g.boundType allowPlus) := by unfold boundType; infer_instance

instance (allowPlus : Bool) : Orderly origin (g.typeOf allowPlus) := by unfold typeOf; infer_instance

end Types

section Patterns

instance : Orderly origin g.patternAlternatives := by unfold patternAlternatives; infer_instance

instance (accept : PatternForm → Bool) : Orderly origin (g.patternList accept) := by
  unfold patternList; infer_instance

instance : Orderly origin g.constBlock := by unfold constBlock; infer_instance

instance : Orderly origin g.rangeEnd := by unfold rangeEnd; infer_instance

instance (allowThreeDots : Bool) : Orderly origin (rangeOp allowThreeDots) := by
  unfold rangeOp; infer_instance

instance : Orderly origin g.restOfRange := by unfold restOfRange; infer_instance

instance : Orderly origin g.fieldPattern := by unfold fieldPattern; infer_instance

instance : Orderly origin g.fieldPatterns := by unfold fieldPatterns; infer_instance

instance : Orderly origin g.pathPattern := by unfold pathPattern; infer_instance

instance : Orderly origin g.bindingPattern := by unfold bindingPattern; infer_instance

instance : Orderly origin g.patternOf := by unfold patternOf; infer_instance

end Patterns

end TypedLogging.Source.Grammar
