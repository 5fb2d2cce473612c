import TypedLogging.Proofs.Source.Orderly
import TypedLogging.Source.Grammar.Generic

namespace TypedLogging.Source

open Judged (IsSound)

section Paths

variable (name : String) (path : Path) (segments : List Segment) (opening body : Code)

instance : Judged SegmentArguments := ⟨fun arguments => arguments.code.Legible⟩

instance (arguments : SegmentArguments) [h : Sound arguments] : Sound arguments.code := ⟨h.sound⟩

instance : Sound SegmentArguments.none := ⟨_, Code.gives_nil⟩

instance [Sound opening] [Sound body] : Sound (SegmentArguments.angled opening body) :=
  ⟨(inferInstance : Sound (opening ++ body ++ [.word ">"])).sound⟩

instance [h : Sound body] : Sound (SegmentArguments.parenthesised body) := ⟨h.sound⟩

instance : Judged Segment := ⟨fun segment => IsSound segment.name ∧ IsSound segment.arguments⟩

instance (arguments : SegmentArguments) [h : Sound name] [harguments : Sound arguments] :
    Sound (Segment.mk name arguments) := ⟨h.sound, harguments.sound⟩

instance (segment : Segment) [h : Sound segment] : Sound segment.name := ⟨h.sound.1⟩

instance (segment : Segment) [h : Sound segment] : Sound segment.arguments := ⟨h.sound.2⟩

instance (segment : Segment) [Sound segment] : Sound segment.code := by
  unfold Segment.code
  infer_instance

theorem sound_segmentsCode (h : IsSound segments) : Sound (segmentsCode segments) := by
  fun_induction segmentsCode segments with
  | case1 => infer_instance
  | case2 segment =>
      have : Sound segment := ⟨h segment List.mem_cons_self⟩
      infer_instance
  | case3 segment rest _ ih =>
      have : Sound segment := ⟨h segment List.mem_cons_self⟩
      have := ih fun other hother => h other (List.mem_cons_of_mem _ hother)
      infer_instance

instance : Judged Path := ⟨fun path => IsSound path.segments⟩

instance (leading : Bool) [h : Sound segments] : Sound (Path.mk leading segments) := ⟨h.sound⟩

instance [h : Sound path] : Sound path.segments := ⟨h.sound⟩

instance [h : Sound path] : Sound path.code := by
  have := sound_segmentsCode _ h.sound
  unfold Path.code
  infer_instance

instance (arguments : SegmentArguments) [h : Sound path] [Sound arguments] :
    Sound (path.withLastArguments arguments) := by
  unfold Path.withLastArguments
  split
  next last hlast =>
    have : Sound last := ⟨h.sound last (List.mem_of_getLast? hlast)⟩
    have : Sound path.segments.dropLast := ⟨fun segment hsegment => h.sound segment ((List.dropLast_sublist _).mem hsegment)⟩
    infer_instance
  next => exact h

instance : Judged QualifiedPath := ⟨fun found => IsSound found.qualifier ∧ IsSound found.path⟩

instance (qualifier : Option Code) [h : Sound qualifier] [hpath : Sound path] :
    Sound (QualifiedPath.mk qualifier path) := ⟨h.sound, hpath.sound⟩

instance (found : QualifiedPath) [h : Sound found] : Sound found.path := ⟨h.sound.2⟩

instance (found : QualifiedPath) [h : Sound found] : Sound found.code := by
  unfold QualifiedPath.code
  split
  next => infer_instance
  next qualifier hqualifier =>
    have : Sound qualifier := ⟨h.sound.1 qualifier hqualifier⟩
    infer_instance

end Paths

section Angles

variable (parts : List AngledPart)

instance : Judged AngledPart := ⟨fun part => part.code.Legible⟩

instance (isLifetime hasComma : Bool) (code : Code) [h : Sound code] : Sound (AngledPart.mk isLifetime code hasComma) :=
  ⟨h.sound⟩

theorem sound_flatMap {α : Type} {parts : List α} {code : α → Code} (h : ∀ part ∈ parts, Sound (code part)) :
    Sound (parts.flatMap code) := by
  induction parts with
  | nil => exact (inferInstance : Sound ([] : Code))
  | cons part rest ih =>
      have := h part List.mem_cons_self
      have := ih fun other hother => h other (List.mem_cons_of_mem _ hother)
      rw [List.flatMap_cons]
      infer_instance

instance [h : Sound parts] : Sound (AngledPart.inOrder parts) := by
  have hseparated : ∀ part ∈ parts, Sound part.separated := by
    intro part hpart
    have : Sound part.code := ⟨h.sound part hpart⟩
    unfold AngledPart.separated
    infer_instance
  have hlifetimes : Sound ((parts.filter (·.isLifetime)).flatMap AngledPart.separated) :=
    sound_flatMap fun part hpart => hseparated part (List.mem_of_mem_filter hpart)
  have hothers : Sound ((parts.filter (!·.isLifetime)).flatMap AngledPart.separated) :=
    sound_flatMap fun part hpart => hseparated part (List.mem_of_mem_filter hpart)
  unfold AngledPart.inOrder
  infer_instance

end Angles

section Expressions

/-- Every code in an expression is legible. -/
def Expr.IsLegible : Expr → Prop
  | .leaf found => found.code.Legible
  | .enclosed inner | .grouped inner => inner.IsLegible
  | .prefixed front operand => front.code.Legible ∧ operand.IsLegible
  | .joined left joint right => left.IsLegible ∧ joint.code.Legible ∧ right.IsLegible
  | .continued operand tail => operand.IsLegible ∧ tail.code.Legible
  | .attributed attributes inner => attributes.Legible ∧ inner.IsLegible

instance : Judged Expr := ⟨Expr.IsLegible⟩

variable (code : Code) (expr : Expr)

theorem legible_parenthesised {code : Code} (h : code.Legible) : (Surroundings.parenthesised code).Legible :=
  let ⟨_, hcode⟩ := h
  ⟨_, Code.gives_group hcode .paren⟩

theorem legible_ite {p : Prop} [Decidable p] {code more : Code} (h : code.Legible) (hmore : more.Legible) :
    (if p then code else more).Legible := by
  split
  · exact h
  · exact hmore

theorem legible_enclosed {p : Prop} [Decidable p] {code : Code} (h : code.Legible) :
    (if p then Surroundings.parenthesised code else code).Legible :=
  legible_ite (legible_parenthesised h) h

section Operands

variable {around : Surroundings} {operand : Expr} {code : Surroundings → Code}

theorem legible_leftCode (h : ∀ around, (code around).Legible) (follower : Follower) :
    (around.leftCode follower operand code).Legible :=
  legible_ite (legible_parenthesised (h _)) (h _)

theorem legible_rightCode (h : ∀ around, (code around).Legible) (leader : Leader) :
    (around.rightCode leader operand code).Legible :=
  legible_ite (legible_parenthesised (h _)) (h _)

end Operands

/-- The printed form is legible in any surroundings. -/
theorem legible_codeIn {expr : Expr} (h : expr.IsLegible) (around : Surroundings) : (expr.codeIn around).Legible := by
  induction expr generalizing around with
  | leaf found =>
      rw [Expr.codeIn]
      exact legible_enclosed h
  | enclosed inner ih =>
      rw [Expr.codeIn]
      exact legible_enclosed (legible_parenthesised (ih h _))
  | grouped inner ih =>
      rw [Expr.codeIn]
      exact legible_enclosed (ih h _)
  | prefixed front operand ih =>
      rw [Expr.codeIn]
      exact legible_enclosed (Code.Legible.append h.1 (legible_rightCode (ih h.2) _))
  | joined left joint right ihleft ihright =>
      rw [Expr.codeIn]
      refine legible_enclosed (Code.Legible.append (Code.Legible.append ?_ h.2.1) ?_)
      · exact legible_leftCode (ihleft h.1) _
      · exact legible_rightCode (ihright h.2.2) _
  | continued operand tail ih =>
      rw [Expr.codeIn]
      exact legible_enclosed (Code.Legible.append (legible_leftCode (ih h.1) _) h.2)
  | attributed attributes inner ih =>
      cases inner with
      | leaf found =>
          rw [Expr.codeIn]
          exact legible_enclosed (Code.Legible.append h.1 (legible_enclosed h.2))
      | _ =>
          rw [Expr.codeIn]
          · exact legible_enclosed (Code.Legible.append h.1 (legible_ite (legible_parenthesised (ih h.2 _)) (ih h.2 _)))
          · simp

instance (around : Surroundings) [h : Sound expr] : Sound (expr.codeIn around) := ⟨legible_codeIn h.sound around⟩

instance : Judged Leaf := ⟨fun found => found.code.Legible⟩

instance : Judged Exit := ⟨fun found => found.code.Legible⟩

instance : Judged Tail := ⟨fun found => found.code.Legible⟩

instance (value : String) [h : Sound code] : Sound (Leaf.string value code) := ⟨h.sound⟩

instance (numeral : Numeral) [h : Sound code] : Sound (Leaf.integer numeral code) := ⟨h.sound⟩

instance [h : Sound code] : Sound (Leaf.struct code) := ⟨h.sound⟩

instance (form : BlockForm) [h : Sound code] : Sound (Leaf.block form code) := ⟨h.sound⟩

instance (delimiter : Delimiter) [h : Sound code] : Sound (Leaf.invocation delimiter code) := ⟨h.sound⟩

instance [h : Sound code] : Sound (Leaf.verbatim code) := ⟨h.sound⟩

instance [h : Sound code] : Sound (Leaf.other code) := ⟨h.sound⟩

instance (found : QualifiedPath) [h : Sound found] : Sound (Leaf.path found) :=
  ⟨(inferInstance : Sound found.code).sound⟩

instance (exit : Exit) [h : Sound exit] : Sound (Leaf.exit exit) := ⟨h.sound⟩

theorem legible_rangeCode (isClosed : Bool) : (rangeCode isClosed).Legible := by
  cases isClosed
  · exact (inferInstance : Sound ([.word ".."] : Code)).sound
  · exact (inferInstance : Sound ([.word "..="] : Code)).sound

instance : Sound Leaf.fullRange := ⟨legible_rangeCode false⟩

instance [h : Sound code] : Sound (Tail.dotted code) := ⟨h.sound⟩

instance [h : Sound code] : Sound (Tail.grouped code) := ⟨h.sound⟩

instance : Sound Tail.range := ⟨legible_rangeCode false⟩

instance (endsInName : Bool) [h : Sound code] : Sound (Tail.cast code endsInName) :=
  ⟨(inferInstance : Sound (Piece.word "as" :: code)).sound⟩

instance (label : Option String) [h : Sound label] : Sound (Exit.leave label) := by
  cases label with
  | none => exact ⟨(inferInstance : Sound ([.word "break"] : Code)).sound⟩
  | some label =>
      have : Sound label := ⟨h.sound label rfl⟩
      exact ⟨(inferInstance : Sound (words ["break", label])).sound⟩

instance (keyword : String) [h : Sound keyword] : Sound (Exit.result keyword) := ⟨h.sound⟩

instance (leaf : Leaf) [h : Sound leaf] : Sound (Expr.leaf leaf) := ⟨h.sound⟩

instance [h : Sound expr] : Sound (Expr.enclosed expr) := ⟨h.sound⟩

instance (texts : List String) [h : Sound texts] [hexpr : Sound expr] : Sound (Expr.prefixed (.sign texts) expr) :=
  ⟨(inferInstance : Sound (words texts)).sound, hexpr.sound⟩

instance (isClosed : Bool) [h : Sound expr] : Sound (Expr.prefixed (.range isClosed) expr) :=
  ⟨legible_rangeCode isClosed, h.sound⟩

instance (exit : Exit) [h : Sound exit] [hexpr : Sound expr] : Sound (Expr.prefixed (.exit exit) expr) :=
  ⟨h.sound, hexpr.sound⟩

instance (isTyped : Bool) [h : Sound code] [hexpr : Sound expr] : Sound (Expr.prefixed (.closure code isTyped) expr) :=
  ⟨h.sound, hexpr.sound⟩

instance [h : Sound code] [hexpr : Sound expr] : Sound (Expr.prefixed (.binding code) expr) := ⟨h.sound, hexpr.sound⟩

theorem sound_joined {operator : Operator} {left right : Expr} (h : isOperator operator.text.toList = true)
    (hleft : Sound left) (hright : Sound right) : Sound (Expr.joined left (.operator operator) right) :=
  ⟨hleft.sound, legible_of_isOperator h, hright.sound⟩

instance (isClosed : Bool) (right : Expr) [h : Sound expr] [hright : Sound right] :
    Sound (Expr.joined expr (.range isClosed) right) := ⟨h.sound, legible_rangeCode isClosed, hright.sound⟩

instance (tail : Tail) [h : Sound expr] [htail : Sound tail] : Sound (Expr.continued expr tail) :=
  ⟨h.sound, htail.sound⟩

instance [h : Sound expr] [hcode : Sound code] : Sound (expr.withAttributes code) := by
  unfold Expr.withAttributes
  split
  next => exact h
  next more inner =>
    exact ⟨⟨Code.Legible.append hcode.sound h.sound.1, h.sound.2⟩⟩
  next =>
    split
    · exact h
    · exact ⟨⟨hcode.sound, h.sound⟩⟩

theorem sound_withStatementAttributes {code : Code} {expr : Expr} (hcode : Sound code) (h : expr.IsLegible) :
    Sound (expr.withStatementAttributes code) := by
  fun_induction Expr.withStatementAttributes code expr with
  | case1 left operator right ih => exact ⟨⟨(ih h.1).sound, h.2⟩⟩
  | case2 operand type endsInName ih => exact ⟨⟨(ih h.1).sound, h.2⟩⟩
  | case3 expr =>
      have : Sound expr := ⟨h⟩
      infer_instance

instance [h : Sound expr] [hcode : Sound code] : Sound (expr.withStatementAttributes code) :=
  sound_withStatementAttributes hcode h.sound

end Expressions

end TypedLogging.Source
