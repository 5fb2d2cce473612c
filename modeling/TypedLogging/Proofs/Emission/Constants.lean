import TypedLogging.Proofs.Emission.ReadBack
import TypedLogging.Proofs.EventId

namespace TypedLogging

/-- The number that an event id stands for: the derived one, or the one of 32 bits that its text
writes. -/
def EventId.Denotes : EventId → Int → Prop
  | .derived value, number => number = value
  | .explicit text, number => Text.Writes text.toList number ∧ Text.InInt32 number

namespace Emission

open Outcome
open Text (readInt32)

variable {binding : Binding} {eventId : EventId} {value : Int}

theorem denotes_of_eventIdOf (h : eventIdOf binding eventId = .ok value) : eventId.Denotes value := by
  cases eventId with
  | derived derived => exact (Except.ok.inj h).symm
  | explicit text =>
      simp only [eventIdOf] at h
      cases hread : readInt32 text with
      | error fault =>
          rw [hread] at h
          cases h
      | ok number =>
          rw [hread] at h
          cases h
          exact Text.readInt32Chars_eq_ok.mp hread

theorem eventId_of_helperOf {taken : List String} {helper : Helper}
    (h : helperOf binding eventId taken = .ok helper) : eventId.Denotes helper.eventId := by
  obtain ⟨value, types, level, hvalue, -, -, -, rfl⟩ := helperOf_eq_ok.mp h
  exact denotes_of_eventIdOf hvalue

theorem eventIds_of_helpersFrom {ordinal index : Nat} {taken : List String}
    {bindings : List Binding} {helpers : List Helper}
    (h : helpersFrom ordinal index taken bindings = .ok helpers) :
    List.Forall₂ (fun (binding, position) helper =>
      (binding.eventId ordinal position).Denotes helper.eventId) (bindings.zipIdx index) helpers := by
  induction bindings generalizing index taken helpers with
  | nil =>
      cases h
      exact .nil
  | cons binding rest ih =>
      obtain ⟨helper, hhelper, h⟩ := bind_eq_ok.mp h
      obtain ⟨more, hmore, h⟩ := bind_eq_ok.mp h
      cases h
      exact .cons (eventId_of_helperOf hhelper) (ih hmore)

theorem constants_of_extensionOf {ordinal : Nat} {declaration : Annotated} {extension : Extension}
    (h : extensionOf ordinal declaration = .ok extension) :
    List.Forall₂ (fun constant message => message.eventId.Denotes constant.value)
      extension.layout.constants (declaration.messages ordinal) := by
  obtain ⟨helpers, hhelpers, h⟩ := bind_eq_ok.mp h
  cases h
  rw [Extension.layout, Annotated.messages, List.forall₂_map_left_iff, List.forall₂_map_right_iff]
  exact (eventIds_of_helpersFrom hhelpers).flip

theorem typePath_of_extensionOf {ordinal : Nat} {declaration : Annotated} {extension : Extension}
    (h : extensionOf ordinal declaration = .ok extension) :
    extension.typePath = declaration.typePath := by
  obtain ⟨helpers, -, h⟩ := bind_eq_ok.mp h
  cases h
  rfl

end Emission

theorem Emitter.fields_of_emit {emitter : Emitter} {ordinal : Nat} {declaration : Annotated}
    {file : GeneratedFile} (h : emitter.emit ordinal declaration = .ok file) :
    file.name = Emission.fileName declaration ∧ file.typePath = declaration.typePath := by
  obtain ⟨extension, hextension, hprinted⟩ := Outcome.bind_eq_ok.mp h
  obtain ⟨helpers, -, hhelpers⟩ := Outcome.bind_eq_ok.mp hextension
  rw [← Outcome.pure_eq_ok.mp hprinted, ← Outcome.pure_eq_ok.mp hhelpers]
  exact ⟨rfl, rfl⟩

end TypedLogging
