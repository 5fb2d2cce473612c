import TypedLogging.Proofs.Discovery
import TypedLogging.Proofs.Source.Legible

namespace TypedLogging.Source

open Lexer

/-- Results of readers, and when what is made of them is sound. -/
class Judged (α : Type) where
  IsSound : α → Prop

/-- A sound result, as instances look for it. -/
class Sound {α : Type} [Judged α] (a : α) : Prop where
  sound : Judged.IsSound a

/-- Results that nothing is made of. -/
class Inert (α : Type) : Prop

open Judged (IsSound)

section Judging

variable {α β : Type}

instance [Inert α] : Judged α := ⟨fun _ => True⟩

instance [Inert α] (a : α) : Sound a := ⟨trivial⟩

instance [Judged α] (a : {a : α // IsSound a}) : Sound a.val := ⟨a.property⟩

instance [Judged α] [Judged β] : Judged (α × β) := ⟨fun p => IsSound p.1 ∧ IsSound p.2⟩

instance [Judged α] [Judged β] (p : α × β) [h : Sound p] : Sound p.1 := ⟨h.sound.1⟩

instance [Judged α] [Judged β] (p : α × β) [h : Sound p] : Sound p.2 := ⟨h.sound.2⟩

instance [Judged α] [Judged β] (a : α) (b : β) [ha : Sound a] [hb : Sound b] : Sound (a, b) :=
  ⟨ha.sound, hb.sound⟩

instance [Judged α] : Judged (Option α) := ⟨fun found => ∀ a ∈ found, IsSound a⟩

instance [Judged α] : Sound (none : Option α) := ⟨fun _ h => nomatch h⟩

instance [Judged α] (a : α) [h : Sound a] : Sound (some a) := ⟨fun _ hb => Option.some.inj hb ▸ h.sound⟩

instance [Judged α] : Judged (List α) := ⟨fun found => ∀ a ∈ found, IsSound a⟩

instance [Judged α] : Sound ([] : List α) := ⟨fun _ h => nomatch h⟩

theorem isSound_cons [Judged α] {a : α} {rest : List α} : IsSound (a :: rest) ↔ IsSound a ∧ IsSound rest :=
  show (∀ b ∈ a :: rest, IsSound b) ↔ _ from List.forall_mem_cons

instance [Judged α] (a : α) (rest : List α) [h : Sound a] [hrest : Sound rest] : Sound (a :: rest) :=
  ⟨isSound_cons.mpr ⟨h.sound, hrest.sound⟩⟩

instance [Judged α] (found more : List α) [h : Sound found] [hmore : Sound more] : Sound (found ++ more) :=
  ⟨List.forall_mem_append.mpr ⟨h.sound, hmore.sound⟩⟩

instance [Judged α] (found : List α) [h : Sound found] : Sound found.reverse :=
  ⟨fun a ha => h.sound a (List.mem_reverse.mp ha)⟩

instance [Judged α] [Judged β] (found : List α) (make : α → β) [h : Sound found]
    [hmake : ∀ a : {a : α // IsSound a}, Sound (make a.val)] : Sound (found.map make) := by
  refine ⟨fun b hb => ?_⟩
  obtain ⟨a, ha, rfl⟩ := List.mem_map.mp hb
  exact (hmake ⟨a, h.sound a ha⟩).sound

instance [Judged α] [Judged β] (found : List α) (make : α → List β) [h : Sound found]
    [hmake : ∀ a : {a : α // IsSound a}, Sound (make a.val)] : Sound (found.flatMap make) := by
  refine ⟨fun b hb => ?_⟩
  obtain ⟨a, ha, hmem⟩ := List.mem_flatMap.mp hb
  exact (hmake ⟨a, h.sound a ha⟩).sound b hmem

instance [Judged α] (found : Option α) (other : α) [h : Sound found] [hother : Sound other] :
    Sound (found.getD other) := by
  cases found with
  | none => exact hother
  | some a => exact ⟨h.sound a rfl⟩

instance [Inert α] (found : Option α) : Sound found := ⟨fun _ _ => trivial⟩

instance [Inert α] (found : List α) : Sound found := ⟨fun _ _ => trivial⟩

instance [Judged α] {p : Prop} [Decidable p] (a b : α) [ha : Sound a] [hb : Sound b] :
    Sound (if p then a else b) := by
  split
  · exact ha
  · exact hb

end Judging

instance : Judged String := ⟨fun text => Code.Legible [.word text]⟩

instance : Judged Code := ⟨Code.Legible⟩

section Codes

variable (text : String) (code more body : Code)

instance : Sound ([] : Code) := ⟨[], Code.gives_nil⟩

instance [h : Sound code] [hmore : Sound more] : Sound (code ++ more) := ⟨h.sound.append hmore.sound⟩

instance [h : Sound text] [hcode : Sound code] : Sound (Piece.word text :: code) :=
  ⟨Code.Legible.append h.sound hcode.sound⟩

instance (delimiter : Delimiter) [h : Sound body] [hcode : Sound code] :
    Sound (Piece.group delimiter body :: code) :=
  ⟨(Code.Legible.group h.sound delimiter).append hcode.sound⟩

instance {p : Prop} [Decidable p] [hcode : Sound code] [hmore : Sound more] :
    Sound (if p then code else more) := by
  split
  · exact hcode
  · exact hmore

theorem sound_words {texts : List String} (h : IsSound texts) : Sound (words texts) := by
  induction texts with
  | nil => exact (inferInstance : Sound ([] : Code))
  | cons text rest ih =>
      have : Sound text := ⟨h text List.mem_cons_self⟩
      have : Sound (words rest) := ih fun other hother => h other (List.mem_cons_of_mem _ hother)
      exact (inferInstance : Sound (Piece.word text :: words rest))

instance (texts : List String) [h : Sound texts] : Sound (words texts) := sound_words h.sound

end Codes

section Words

variable {text : String}

/-- An operator behind which anything can stand. -/
class IsSign (text : String) : Prop where
  isOperator : isOperator text.toList = true
  closed : text.toList.getLast? ≠ some '/'
  nonempty : text.toList ≠ []

instance (priority := low) [h : IsSign text] : Sound text := ⟨legible_of_isOperator h.isOperator⟩

instance : IsSign "::" := ⟨by decide, by decide, by decide⟩

instance : IsSign "," := ⟨by decide, by decide, by decide⟩

instance : IsSign "=" := ⟨by decide, by decide, by decide⟩

instance : IsSign "<" := ⟨by decide, by decide, by decide⟩

instance : IsSign ">" := ⟨by decide, by decide, by decide⟩

instance : IsSign "?" := ⟨by decide, by decide, by decide⟩

instance : IsSign "->" := ⟨by decide, by decide, by decide⟩

instance : IsSign "+" := ⟨by decide, by decide, by decide⟩

instance : IsSign ":" := ⟨by decide, by decide, by decide⟩

instance : IsSign "#" := ⟨by decide, by decide, by decide⟩

instance : IsSign "!" := ⟨by decide, by decide, by decide⟩

instance : IsSign "*" := ⟨by decide, by decide, by decide⟩

instance : IsSign "&" := ⟨by decide, by decide, by decide⟩

instance : IsSign ";" := ⟨by decide, by decide, by decide⟩

instance : IsSign "|" := ⟨by decide, by decide, by decide⟩

instance : IsSign "..." := ⟨by decide, by decide, by decide⟩

instance : IsSign ".." := ⟨by decide, by decide, by decide⟩

instance : IsSign "..=" := ⟨by decide, by decide, by decide⟩

instance : IsSign "@" := ⟨by decide, by decide, by decide⟩

instance : IsSign "=>" := ⟨by decide, by decide, by decide⟩

instance : IsSign "." := ⟨by decide, by decide, by decide⟩

instance : IsSign "-" := ⟨by decide, by decide, by decide⟩

instance : Sound "_" := ⟨legible_of_isIdent (by decide)⟩

instance : Sound "as" := ⟨legible_of_isIdent (by decide)⟩

instance : Sound "break" := ⟨legible_of_isIdent (by decide)⟩

instance : Sound "mut" := ⟨legible_of_isIdent (by decide)⟩

instance : Sound "raw" := ⟨legible_of_isIdent (by decide)⟩

instance : Sound "return" := ⟨legible_of_isIdent (by decide)⟩

instance : Sound "yield" := ⟨legible_of_isIdent (by decide)⟩

end Words

/-- A name that an item can have: an identifier, perhaps a raw one, that is no reserved word. -/
def IsItemName (name : String) : Prop := IsIdent name ∧ isReserved name = false

instance (name : String) : Decidable (IsItemName name) := inferInstanceAs (Decidable (_ ∧ _))

/-- All types have the name of an item. -/
def AreNamed (types : List Occurrence) : Prop := ∀ found ∈ types, IsItemName found.item.name

instance : Judged Item := ⟨fun item => AreNamed (typesOf item)⟩

instance : Judged Statement := ⟨fun statement => AreNamed (typesOfStatement statement)⟩

section Items

variable {types : List Occurrence} {items : List Item} {body : List Statement}

theorem areNamed_append {more : List Occurrence} :
    AreNamed (types ++ more) ↔ AreNamed types ∧ AreNamed more := List.forall_mem_append

theorem areNamed_inside (container : Container) :
    AreNamed (types.map (.inside container)) ↔ AreNamed types := List.forall_mem_map

theorem areNamed_items : AreNamed (typesOfItems items) ↔ IsSound items := by
  induction items with
  | nil => exact ⟨fun _ => Sound.sound, fun _ _ h => nomatch h⟩
  | cons item rest ih =>
      rw [typesOfItems, areNamed_append, ih, isSound_cons]
      rfl

theorem areNamed_body : AreNamed (typesOfBody body) ↔ IsSound body := by
  induction body with
  | nil => exact ⟨fun _ => Sound.sound, fun _ _ h => nomatch h⟩
  | cons statement rest ih =>
      rw [typesOfBody, areNamed_append, ih, isSound_cons]
      rfl

instance : Sound Item.other := ⟨fun _ h => nomatch h⟩

instance (name : String) : Sound (Item.typeAlias name) := ⟨fun _ h => nomatch h⟩

instance (name : String) : Sound (Item.trait name) := ⟨fun _ h => nomatch h⟩

instance (tree : UseTree) : Sound (Item.useItem tree) := ⟨fun _ h => nomatch h⟩

instance (name : String) (content : Option (List Item)) [h : Sound content] :
    Sound (Item.submodule name content) := by
  refine ⟨(areNamed_inside _).mpr ?_⟩
  cases content with
  | none => exact fun _ h => nomatch h
  | some items => exact areNamed_items.mpr (h.sound items rfl)

instance (body : List Statement) [h : Sound body] : Sound (Item.function body) :=
  ⟨(areNamed_inside _).mpr (areNamed_body.mpr h.sound)⟩

instance (item : Item) (inner : List Item) [h : Sound item] [hinner : Sound inner] :
    Sound (item.with inner) := by
  unfold Item.with
  split
  · exact h
  · exact ⟨areNamed_append.mpr ⟨h.sound, (areNamed_inside _).mpr (areNamed_items.mpr hinner.sound)⟩⟩

instance (item : Item) [h : Sound item] : Sound (Statement.item item) := ⟨h.sound⟩

instance (inner : List Item) [h : Sound inner] : Sound (Statement.other inner) :=
  ⟨(areNamed_inside _).mpr (areNamed_items.mpr h.sound)⟩

instance (statement : Statement) [h : Sound statement] : Sound statement.items := by
  cases statement with
  | item found =>
      have : Sound found := ⟨h.sound⟩
      exact (inferInstance : Sound [found])
  | other inner => exact ⟨areNamed_items.mp ((areNamed_inside _).mp h.sound)⟩

end Items

end TypedLogging.Source
