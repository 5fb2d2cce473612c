import TypedLogging.Proofs.Source.Grammar.Expression

namespace TypedLogging.Source.Grammar

open Reader
open Judged (IsSound)

set_option synthInstance.maxSize 2000

variable {g : Grammar} [IsOrderly g] {origin : List TokenTree}

section Items

instance : Inert FunctionParam := ⟨⟩

instance : Inert TypeDefinition := ⟨⟩

instance : Orderly origin restriction := by unfold restriction; infer_instance

instance : Orderly origin visibility := by unfold visibility; infer_instance

instance : Orderly origin receiverStart := by unfold receiverStart; infer_instance

instance : Orderly origin g.functionParam := by
  unfold functionParam
  refine .bind fun isVariadic _ => ?_
  split
  · infer_instance
  · refine .bind fun receiver _ => ?_
    cases receiver <;> infer_instance

instance : Orderly origin g.functionParams := by unfold functionParams; infer_instance

instance (allowSafe : Bool) : Orderly origin (g.signature allowSafe) := by unfold signature; infer_instance

instance : Orderly origin g.namedField := by unfold namedField; infer_instance

instance : Orderly origin g.fieldsOf := by unfold fieldsOf; infer_instance

instance : Orderly origin g.tupleField := by unfold tupleField; infer_instance

instance : Orderly origin g.tupleFields := by unfold tupleFields; infer_instance

instance : Orderly origin g.structBody := by unfold structBody; infer_instance

instance : Orderly origin g.variant := by unfold variant; infer_instance

instance : Orderly origin g.enumBody := by unfold enumBody; infer_instance

instance : Orderly origin g.unionBody := by unfold unionBody; infer_instance

instance (keyword : String) (attributes : List Attribute) (visible : Code) (body : Reader Unit)
    [Orderly origin body] : Orderly origin (g.typeItem keyword attributes visible body) := by
  unfold typeItem
  refine .bind fun _ _ => .bind_ident fun name hname => ?_
  have hitem : ∀ isGeneric, Sound (Item.typeItem ⟨name, visible, attributes, isGeneric⟩) :=
    fun isGeneric => ⟨fun found hfound => List.mem_singleton.mp hfound ▸ hname⟩
  infer_instance

instance (allowRoot : Bool) : Orderly origin (g.useTreeOf allowRoot) := by unfold useTreeOf; infer_instance

instance : Orderly origin g.useItem := by unfold useItem; infer_instance

instance : Orderly origin g.constant := by unfold constant; infer_instance

instance : Orderly origin g.staticItem := by unfold staticItem; infer_instance

instance (whereBefore whereBehind : Bool) : Orderly origin (g.typeDefinition whereBefore whereBehind) := by
  unfold typeDefinition; infer_instance

instance : Orderly origin invocationBody := by unfold invocationBody; infer_instance

instance : Orderly origin memberInvocation := by unfold memberInvocation; infer_instance

instance : Orderly origin itemInvocation := by unfold itemInvocation; infer_instance

instance (member : Reader Unit) [∀ origin, Orderly origin member] : Orderly origin (g.members member) := by
  unfold members; infer_instance

instance : Orderly origin g.foreignStatic := by unfold foreignStatic; infer_instance

instance : Orderly origin g.foreignMember := by unfold foreignMember; infer_instance

instance : Orderly origin g.foreignItem := by unfold foreignItem; infer_instance

instance : Orderly origin g.traitMember := by unfold traitMember; infer_instance

instance : Orderly origin g.traitBody := by unfold traitBody; infer_instance

instance : Orderly origin g.traitOrAlias := by unfold traitOrAlias; infer_instance

instance : Orderly origin g.markedTrait := by unfold markedTrait; infer_instance

instance : Orderly origin g.implMember := by unfold implMember; infer_instance

instance (isVisible : Bool) : Orderly origin (g.implementation isVisible) := by
  unfold implementation; infer_instance

instance : Orderly origin externCrate := by unfold externCrate; infer_instance

instance : Orderly origin g.submodule := by unfold submodule; infer_instance

instance : Orderly origin ruleSet := by unfold ruleSet; infer_instance

instance : Orderly origin g.function := by unfold function; infer_instance

instance (attributes : List Attribute) (isVisible : Bool) (visible : Code) :
    Orderly origin (g.itemBehind attributes isVisible visible) := by
  have huse : Orderly origin (do
      match ← g.useItem with
      | some tree => return (Item.useItem tree, false)
      | none => return (Item.other, true)) := by
    refine .bind fun tree _ => ?_
    cases tree <;> infer_instance
  unfold itemBehind
  infer_instance

instance : Orderly origin g.itemOf := by unfold itemOf; infer_instance

end Items

section Statements

instance : Inert InvocationKind := ⟨⟩

instance : Orderly origin invocationKindAhead where
  passes before kind behind hreached hread := by
    obtain ⟨_, _, hget, hread⟩ := bind_eq_some.mp hread
    cases hget
    obtain ⟨found, between, hpath, hread⟩ := bind_eq_some.mp hread
    cases found with
    | some path =>
        cases hread
        exact ⟨.refl _, trivial⟩
    | none =>
        cases hread
        exact ⟨(Orderly.passes hreached hpath).1, trivial⟩

instance : Orderly origin g.localVariable := by unfold localVariable; infer_instance

instance : Orderly origin statementInvocation := by unfold statementInvocation; infer_instance

instance (attributes : Code) [Sound attributes] : Orderly origin (g.expressionStatement origin attributes) := by
  unfold expressionStatement
  refine .bind fun expr hexpr => ?_
  have : Sound expr := ⟨hexpr⟩
  dsimp only
  split <;> infer_instance

instance : Orderly origin g.statement where
  passes before found behind hreached hread := by
    have hstart : Reached before.rest before.rest := .refl hreached.lexed_rest
    obtain ⟨_, _, hget, hread⟩ := bind_eq_some.mp hread
    cases hget
    obtain ⟨attributes, between, hattributes, hread⟩ := bind_eq_some.mp hread
    obtain ⟨kind, here, hkind, hread⟩ := bind_eq_some.mp hread
    obtain ⟨hfirst, hsound⟩ := Orderly.passes hstart hattributes
    have : Sound attributes := ⟨hsound⟩
    have hpasses := hfirst.trans (Orderly.passes (hstart.passes hfirst) hkind).1
    have hbehind {reader : Reader (Statement × Bool)} [Orderly before.rest reader]
        (h : reader here = some (found, behind)) : before.Passes behind ∧ IsSound found :=
      (Orderly.passes (hstart.passes hpasses) h).imp_left hpasses.trans
    split at hread
    next => exact hbehind hread
    next =>
      rw [ahead_bind_eq_some] at hread
      split at hread
      next => exact hbehind hread
      next =>
        rw [ahead_bind_eq_some] at hread
        split at hread
        next =>
          obtain ⟨_, _, hset, hitem⟩ := bind_eq_some.mp hread
          cases hset
          exact Orderly.passes hreached hitem
        next => exact hbehind hread

instance : Orderly origin g.statementsOf := by unfold statementsOf; infer_instance

end Statements

end TypedLogging.Source.Grammar
