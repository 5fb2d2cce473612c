import TypedLogging.Proofs.Source.Grammar.Type

namespace TypedLogging.Source.Grammar

open Reader
open Judged (IsSound)

set_option synthInstance.maxSize 2000

variable {g : Grammar} [IsOrderly g] {origin : List TokenTree}

section Operators

theorem of_mem_operators : ∀ operator ∈ Operator.all, isOperator operator.text.toList = true ∧
    (operator.text = "/" ∨ operator.text.toList.getLast? ≠ some '/' ∧ operator.text.toList ≠ []) := by
  decide

instance (allowStruct : Bool) (precedence : Precedence) :
    Orderly origin (g.rightOperand allowStruct precedence) := by unfold rightOperand; infer_instance

instance (allowStruct : Bool) (precedence : Precedence) :
    Advances origin (g.rightOperand allowStruct precedence) := by unfold rightOperand; infer_instance

instance (allowStruct : Bool) : Orderly origin (g.rangeTail allowStruct) := by
  unfold rangeTail; infer_instance

instance (allowStruct : Bool) : Orderly origin (g.startlessRange allowStruct) := by
  unfold startlessRange
  refine .bind fun (isClosed, stop) hsound => ?_
  cases stop with
  | none => infer_instance
  | some stop =>
      have : Sound stop := ⟨hsound.2 stop rfl⟩
      infer_instance

instance (allowStruct : Bool) (start : Expr) [Sound start] : Orderly origin (g.rangeBehind allowStruct start) := by
  unfold rangeBehind
  refine .bind fun (isClosed, stop) hsound => ?_
  cases stop with
  | none => infer_instance
  | some stop =>
      have : Sound stop := ⟨hsound.2 stop rfl⟩
      infer_instance

instance : Orderly origin g.castTail := by unfold castTail; infer_instance

theorem orderly_binary (start : List TokenTree) (lhs : Expr) [Sound lhs] (operator : Operator)
    (allowStruct : Bool) (h : isOperator operator.text.toList = true)
    (hslash : operator.text = "/" ∨ operator.text.toList.getLast? ≠ some '/' ∧ operator.text.toList ≠ []) :
    Orderly start (do
      skipOp operator.text
      return some (Expr.joined lhs (.operator operator) (← g.rightOperand allowStruct operator.precedence))) := by
  have hjoined : ∀ right : {right : Expr // IsSound right}, Sound (Expr.joined lhs (.operator operator) right.val) :=
    fun right => sound_joined h inferInstance ⟨right.property⟩
  rcases hslash with hslash | ⟨hclosed, hne⟩
  · rw [hslash]
    exact .bind_slash
  · have : IsSign operator.text := ⟨h, hclosed, hne⟩
    infer_instance

instance (allowStruct : Bool) (base : Precedence) (lhs : Expr) [Sound lhs] :
    Orderly origin (g.climbStep allowStruct base lhs) := by
  unfold climbStep
  dsimp only
  split
  · infer_instance
  · refine .bind_get fun before => ?_
    split
    next operator hahead =>
      obtain ⟨hoperator, hslash⟩ := of_mem_operators operator (List.mem_of_find?_eq_some hahead)
      have := orderly_binary (g := g) before.rest lhs operator allowStruct hoperator hslash
      infer_instance
    next =>
      have := orderly_binary (g := g) before.rest lhs .assignment allowStruct (by decide) (.inr (by decide))
      infer_instance

instance (allowStruct : Bool) (base : Precedence) (lhs : Expr) [Sound lhs] :
    Orderly origin (g.climbOf allowStruct base lhs) := by unfold climbOf; infer_instance

end Operators

section Expressions

instance (make : Code → Leaf) (reader : Reader Unit) [Orderly origin reader]
    [h : ∀ code : {code : Code // IsSound code}, Sound (make code.val)] : Orderly origin (leaf make reader) := by
  unfold leaf
  refine .bind fun (_, code) hsound => ?_
  have := h ⟨code, hsound.2⟩
  infer_instance

instance (reader : Reader Unit) [Orderly origin reader] : Orderly origin (plain reader) := by
  unfold plain; infer_instance

instance (reader : Reader Unit) [Orderly origin reader] : Orderly origin (blockLike reader) := by
  unfold blockLike; infer_instance

instance : Orderly origin g.values := by unfold values; infer_instance

instance : Orderly origin g.arrayExpr := by unfold arrayExpr; infer_instance

instance : Orderly origin g.enclosedExpr := by
  unfold enclosedExpr
  refine .bind fun (inner, code) hsound => ?_
  have : Sound code := ⟨hsound.2⟩
  cases inner with
  | none => infer_instance
  | some first =>
      have : Sound first := ⟨hsound.1 first rfl⟩
      infer_instance

instance : Orderly origin g.fieldValue := by unfold fieldValue; infer_instance

instance : Orderly origin g.fieldValues := by unfold fieldValues; infer_instance

instance (allowStruct : Bool) : Orderly origin (g.pathExpr allowStruct) := by
  unfold pathExpr; infer_instance

instance : Orderly origin g.closureParam := by unfold closureParam; infer_instance

instance : Orderly origin g.closureHead := by unfold closureHead; infer_instance

instance (allowStruct : Bool) : Orderly origin (g.closureExpr allowStruct) := by
  unfold closureExpr; infer_instance

instance : Orderly origin g.ifExpr := by unfold ifExpr; infer_instance

instance : Orderly origin g.whileExpr := by unfold whileExpr; infer_instance

instance : Orderly origin g.forExpr := by unfold forExpr; infer_instance

instance : Orderly origin g.loopExpr := by unfold loopExpr; infer_instance

instance : Orderly origin g.blockExpr := by unfold blockExpr; infer_instance

instance : Orderly origin g.labelledExpr := by unfold labelledExpr; infer_instance

instance : Orderly origin g.matchExpr := by unfold matchExpr; infer_instance

instance (keyword : String) : Orderly origin (g.keywordBody keyword) := by
  unfold keywordBody; infer_instance

instance : Orderly origin g.tryExpr := by unfold tryExpr; infer_instance

instance : Orderly origin g.asyncExpr := by unfold asyncExpr; infer_instance

instance (exit : Exit) (hasValue : Ahead.Test) [Sound exit] : Orderly origin (g.exitExpr exit hasValue) := by
  unfold exitExpr; infer_instance

instance (allowStruct : Bool) : Orderly origin (g.breakExpr allowStruct) := by
  unfold breakExpr; infer_instance

instance (keyword : String) [Sound keyword] : Orderly origin (g.resultExpr keyword) := by
  unfold resultExpr; infer_instance

instance : Orderly origin g.becomeExpr := by unfold becomeExpr; infer_instance

instance (allowStruct : Bool) : Orderly origin (g.letExpr allowStruct) := by unfold letExpr; infer_instance

instance (allowStruct : Bool) : Orderly origin (g.atom allowStruct) := by unfold atom; infer_instance

instance : Orderly origin g.afterDot := by unfold afterDot; infer_instance

theorem legible_intersperse {digits : List String} (h : ∀ text ∈ digits, Code.Legible [.word text]) :
    Code.Legible ((digits.map (Piece.word ·)).intersperse (.word ".")) := by
  induction digits with
  | nil => exact ⟨_, Code.gives_nil⟩
  | cons text rest ih =>
      have : Sound text := ⟨h text List.mem_cons_self⟩
      cases rest with
      | nil => exact (inferInstance : Sound ([.word text] : Code)).sound
      | cons next rest =>
          have := ih fun other hother => h other (List.mem_cons_of_mem _ hother)
          exact Code.Legible.append (inferInstance : Sound ([.word text, .word "."] : Code)).sound this

theorem exists_of_mapM_eq_some {α β : Type} {f : α → Option β} {found : List α} {made : List β} {b : β}
    (h : found.mapM f = some made) (hb : b ∈ made) : ∃ a, f a = some b := by
  induction found generalizing made with
  | nil =>
      cases h
      cases hb
  | cons a rest ih =>
      rw [List.mapM_cons, Option.bind_eq_bind, Option.bind_eq_some_iff] at h
      obtain ⟨first, hfirst, h⟩ := h
      obtain ⟨more, hmore, hmade⟩ := Option.bind_eq_some_iff.mp h
      cases hmade
      rcases List.mem_cons.mp hb with rfl | hb
      · exact ⟨a, hfirst⟩
      · exact ih hmore hb

theorem legible_indexParts {text : String} {digits : List String} {endsInDot : Bool}
    (h : indexParts? text = some (digits, endsInDot)) : ∀ text ∈ digits, Code.Legible [.word text] := by
  obtain ⟨_, hdigits, hpair⟩ := Option.map_eq_some_iff.mp h
  cases hpair
  intro digit hdigit
  obtain ⟨part, hpart⟩ := exists_of_mapM_eq_some hdigits hdigit
  split at hpart
  next numeral _ =>
    split at hpart
    next hindex =>
      cases hpart
      exact legible_index hindex
    next => cases hpart
  next => cases hpart

instance : Orderly origin g.dotTrailer where
  passes before u behind hreached hread := by
    obtain ⟨_, ⟨trees, written, inner⟩, hdot, hbehind⟩ := bind_eq_some.mp hread
    obtain ⟨hpasses, -⟩ := Orderly.passes hreached hdot
    have hthere := hreached.passes hpasses
    obtain ⟨_, _, hget, hnext⟩ := bind_eq_some.mp hbehind
    cases hget
    have hafter (h : g.afterDot ⟨trees, written, inner⟩ = some (u, behind)) : before.Passes behind :=
      hpasses.trans (Orderly.passes hthere h).1
    dsimp only at hnext
    refine ⟨?_, trivial⟩
    split at hnext
    next text rest =>
      generalize Literal.ofText text = found at hnext
      cases found with
      | float =>
          cases hparts : indexParts? text with
          | none =>
              rw [hparts] at hnext
              cases hnext
          | some parts =>
              rw [hparts] at hnext
              obtain ⟨_, _, hmodify, hwrite⟩ := bind_eq_some.mp hnext
              cases hmodify
              have hskip : Cursor.Passes ⟨.literal text :: rest, written, inner⟩ ⟨rest, written, inner⟩ :=
                .of_tree rfl rfl
              have : Sound ((parts.1.map (Piece.word ·)).intersperse (.word ".")) :=
                ⟨legible_intersperse (legible_indexParts hparts)⟩
              exact hpasses.trans (hskip.trans (Orderly.passes (hthere.passes hskip) hwrite).1)
      | _ => exact hafter hnext
    next => exact hafter hnext

instance (expr : Expr) [Sound expr] : Orderly origin (g.trailerStep expr) := by unfold trailerStep; infer_instance

instance (expr : Expr) [Sound expr] : Orderly origin (g.trailers expr) := by unfold trailers; infer_instance

instance : Orderly origin ampersand := by unfold ampersand; infer_instance

instance : Orderly origin sign := by
  unfold sign
  refine .bind fun isReference _ => ?_
  split
  · infer_instance
  · have hsign : ∀ text ∈ ["*", "!", "-"], IsSign text := by
      intro text htext
      simp only [List.mem_cons, List.not_mem_nil, or_false] at htext
      rcases htext with rfl | rfl | rfl <;> infer_instance
    refine @Orderly.bind _ _ _ _ _ _ _ (.forIn (fun text htext state hstate => ?_) ?_) fun (result, _) hresult => ?_
    · have := hsign text htext
      infer_instance
    · exact ⟨(fun _ h => nomatch h), trivial⟩
    · cases result with
      | none => infer_instance
      | some found =>
          have : Sound found := ⟨hresult.1 found rfl⟩
          infer_instance

instance (allowStruct : Bool) : Orderly origin (g.unaryOf allowStruct) := by
  unfold unaryOf
  refine .bind_get fun before => .bind fun attributes hattributes => .bind fun texts htexts => ?_
  have : Sound attributes := ⟨hattributes⟩
  cases texts with
  | some texts =>
      have : Sound texts := ⟨htexts texts rfl⟩
      infer_instance
  | none =>
      refine .bind fun atom hatom => ?_
      have : Sound atom := ⟨hatom⟩
      refine .bind fun expr hexpr => ?_
      have : Sound expr := ⟨hexpr⟩
      split <;> infer_instance

instance (allowStruct : Bool) : Orderly origin (g.exprOf allowStruct) := by unfold exprOf; infer_instance

instance : Orderly origin g.earlyStart := by unfold earlyStart; infer_instance

instance : Orderly origin g.earlyOf := by unfold earlyOf; infer_instance

end Expressions

section Advancing

instance (make : Code → Leaf) (reader : Reader Unit) [Orderly origin reader] [Advances origin reader]
    [h : ∀ code : {code : Code // IsSound code}, Sound (make code.val)] : Advances origin (leaf make reader) := by
  unfold leaf
  refine .bind fun (_, code) hsound => ?_
  have := h ⟨code, hsound.2⟩
  infer_instance

instance (reader : Reader Unit) [Orderly origin reader] [Advances origin reader] :
    Advances origin (plain reader) := by unfold plain; infer_instance

instance (reader : Reader Unit) [Orderly origin reader] [Advances origin reader] :
    Advances origin (blockLike reader) := by unfold blockLike; infer_instance

instance : Advances origin literalExpr := by
  unfold literalExpr
  refine .bind fun (found, code) hsound => ?_
  have : Sound code := ⟨hsound.2⟩
  cases found <;> infer_instance

instance : Advances origin g.asyncExpr := by unfold asyncExpr; infer_instance

instance : Advances origin g.tryExpr := by unfold tryExpr; infer_instance

instance : Advances origin g.closureHead := by unfold closureHead; infer_instance

instance (allowStruct : Bool) : Advances origin (g.closureExpr allowStruct) := by unfold closureExpr; infer_instance

instance : Advances origin builtin := by unfold builtin; infer_instance

instance (exprStyle : Bool) : Advances origin (g.segment exprStyle) := by unfold segment; infer_instance

instance (exprStyle : Bool) : Advances origin (g.unwrittenPath exprStyle) := by
  unfold unwrittenPath; infer_instance

instance (exprStyle : Bool) : Advances origin (g.unwrittenQualifiedPath exprStyle) := by
  unfold unwrittenQualifiedPath; infer_instance

instance (allowStruct : Bool) : Advances origin (g.pathExpr allowStruct) := by unfold pathExpr; infer_instance

instance : Advances origin g.enclosedExpr := by
  unfold enclosedExpr
  refine .bind fun (inner, code) hsound => ?_
  have : Sound code := ⟨hsound.2⟩
  cases inner with
  | none => infer_instance
  | some first =>
      have : Sound first := ⟨hsound.1 first rfl⟩
      infer_instance

instance (allowStruct : Bool) : Advances origin (g.breakExpr allowStruct) := by unfold breakExpr; infer_instance

instance (keyword : String) [Sound keyword] : Advances origin (g.resultExpr keyword) := by
  unfold resultExpr; infer_instance

instance : Advances origin g.becomeExpr := by unfold becomeExpr; infer_instance

instance : Advances origin g.arrayExpr := by unfold arrayExpr; infer_instance

instance (allowStruct : Bool) : Advances origin (g.letExpr allowStruct) := by unfold letExpr; infer_instance

instance : Advances origin g.ifExpr := by
  have hloop {step : Bool → Reader (Option Bool)}
      [∀ more : {more : Bool // IsSound more}, Orderly origin (step more.val)]
      (h : Advances origin (step true)) : Advances origin (blockLike (do let _ ← exhaust step true)) := by
    have := Advances.exhaust true h
    infer_instance
  refine hloop ?_
  rw [if_neg (by decide)]
  infer_instance

instance : Advances origin g.matchExpr := by unfold matchExpr; infer_instance

instance (keyword : String) : Advances origin (g.keywordBody keyword) := by unfold keywordBody; infer_instance

instance (allowThreeDots : Bool) : Advances origin (rangeOp allowThreeDots) where
  advances before isClosed behind hreached hread := by
    obtain ⟨found, between, hfound, hbehind⟩ := bind_eq_some.mp hread
    rcases optionalOp_eq_some hfound with ⟨rfl, hop⟩ | ⟨rfl, rfl⟩
    · cases hbehind
      exact Advances.advances hreached hop
    · rw [if_neg Bool.false_ne_true] at hbehind
      exact Advances.advances hreached hbehind

instance (allowStruct : Bool) : Advances origin (g.rangeTail allowStruct) := by unfold rangeTail; infer_instance

instance (allowStruct : Bool) : Advances origin (g.startlessRange allowStruct) := by
  unfold startlessRange
  refine .bind fun (isClosed, stop) hsound => ?_
  cases stop with
  | none => infer_instance
  | some stop =>
      have : Sound stop := ⟨hsound.2 stop rfl⟩
      infer_instance

instance : Advances origin g.functionBody := by unfold functionBody; infer_instance

instance : Advances origin g.body := by unfold body; infer_instance

instance : Advances origin g.blockExpr := by unfold blockExpr; infer_instance

instance : Advances origin g.labelledExpr := by unfold labelledExpr whileExpr forExpr loopExpr; infer_instance

instance (allowStruct : Bool) : Advances origin (g.atom allowStruct) := by unfold atom; infer_instance

instance (allowStruct : Bool) : Advances origin (g.unaryOf allowStruct) := by
  unfold unaryOf
  have (before : Cursor) : Advances before.rest (do
      let attributes ← g.attributesCode
      match ← sign with
      | some texts => return (Expr.prefixed (.sign texts) (← g.unary allowStruct)).withAttributes attributes
      | none =>
        match ← g.trailers (← g.atom allowStruct) with
        | .leaf (.verbatim _) => return .leaf (.verbatim (← codeSince before.rest))
        | expr =>
          guard (attributes.isEmpty || !expr.isRange)
          return expr.withAttributes attributes) := by
    refine Orderly.bind_advances fun attributes hattributes => Orderly.bind_advances fun texts htexts => ?_
    have : Sound attributes := ⟨hattributes⟩
    cases texts with
    | some texts =>
        have : Sound texts := ⟨htexts texts rfl⟩
        infer_instance
    | none =>
        refine .bind fun atom hatom => ?_
        have : Sound atom := ⟨hatom⟩
        refine .bind fun expr hexpr => ?_
        have : Sound expr := ⟨hexpr⟩
        split <;> infer_instance
  infer_instance

end Advancing

end TypedLogging.Source.Grammar
