import TypedLogging.Binding
import TypedLogging.Proofs.Outcome

namespace TypedLogging

/-- Every name stands for one type, whose full name it is. -/
def Lookup.plain : Lookup := fun _ token => [Symbol.type token token]

def MemberRef.logLevel (name : String) : MemberRef := ⟨["LogLevel", name], Nat.le_refl 2⟩

theorem MemberRef.two_le_length_debug : 2 ≤ ["LogLevel", "Debug"].length := Nat.le_refl 2

namespace Binding

open Outcome

variable {lookup : Lookup} {location : Location}

theorem formatOf_eq_ok {raw : String} {template : Template} :
    formatOf lookup location raw = .ok template ↔
      raw ≠ "" ∧ Template.parse lookup location raw = .ok template := by
  rw [formatOf]
  split <;> simp_all

theorem Fields.set_eq_ok {fields fields' : Fields} {parameter : Parameter} {value : ArgValue} :
    fields.set lookup location parameter value = .ok fields' ↔
      (∃ text, parameter = .name ∧ value = .string text ∧
        fields' = { fields with name := some text }) ∨
      (∃ path, parameter = .logLevel ∧ value = .member path ∧
        fields' = { fields with logLevel := some path }) ∨
      (∃ raw template, parameter = .format ∧ value = .string raw ∧
        formatOf lookup location raw = .ok template ∧
        fields' = { fields with template := some template }) ∨
      (∃ text, parameter = .eventId ∧ (value = .number text ∨ value = .string text) ∧
        fields' = { fields with explicitId := some text }) ∨
      (∃ path scope, parameter = .extensionScope ∧ value = .member path ∧
        scopeOf path = .ok scope ∧ fields' = { fields with scope := scope }) := by
  cases parameter with
  | name => cases value <;> simp [Fields.set, eq_comm]
  | logLevel => cases value <;> simp [Fields.set, eq_comm]
  | format => cases value <;> simp [Fields.set, map_eq_ok]
  | eventId => cases value <;> simp [Fields.set, eq_comm]
  | extensionScope => cases value <;> simp [Fields.set, map_eq_ok]

/-- The template that has been bound so far, if any, was parsed from some text. -/
def Fields.Parsed (lookup : Lookup) (location : Location) (fields : Fields) : Prop :=
  ∀ template, fields.template = some template →
    ∃ raw, Template.parse lookup location raw = .ok template

theorem Fields.parsed_empty : Fields.empty.Parsed lookup location := by
  intro template h
  simp [Fields.empty] at h

theorem Fields.Parsed.set {fields fields' : Fields} (hparsed : fields.Parsed lookup location)
    {parameter : Parameter} {value : ArgValue}
    (h : fields.set lookup location parameter value = .ok fields') :
    fields'.Parsed lookup location := by
  rcases Fields.set_eq_ok.mp h with ⟨_, -, -, rfl⟩ | ⟨_, -, -, rfl⟩ | ⟨raw, template, -, -, hraw, rfl⟩ |
    ⟨_, -, -, rfl⟩ | ⟨_, _, -, -, -, rfl⟩
  · exact hparsed
  · exact hparsed
  · intro template' he
    obtain rfl := Option.some.inj he
    exact ⟨raw, (formatOf_eq_ok.mp hraw).2⟩
  · exact hparsed
  · exact hparsed

theorem bindFields_cons_eq_ok {fields result : Fields} {position : Nat} {argument : Argument}
    {rest : List Argument} :
    bindFields lookup location fields position (argument :: rest) = .ok result ↔
      ∃ parameter fields', parameterOf position argument = .ok parameter ∧
        fields.set lookup location parameter argument.value = .ok fields' ∧
        bindFields lookup location fields' (nextPosition position argument) rest = .ok result := by
  simp only [bindFields, bind_eq_ok]
  constructor
  · rintro ⟨parameter, hparameter, fields', hset, hrest⟩
    exact ⟨parameter, fields', hparameter, hset, hrest⟩
  · rintro ⟨parameter, fields', hparameter, hset, hrest⟩
    exact ⟨parameter, hparameter, fields', hset, hrest⟩

theorem Fields.Parsed.bindFields {fields result : Fields} (hparsed : fields.Parsed lookup location)
    {position : Nat} {arguments : List Argument}
    (h : Binding.bindFields lookup location fields position arguments = .ok result) :
    result.Parsed lookup location := by
  induction arguments generalizing fields position with
  | nil =>
      obtain rfl := Except.ok.inj h
      exact hparsed
  | cons argument rest ih =>
      obtain ⟨parameter, fields', -, hset, hrest⟩ := bindFields_cons_eq_ok.mp h
      exact ih (hparsed.set hset) hrest

theorem required_eq_ok {α : Type} {parameter : Parameter} {field : Option α} {value : α} :
    required parameter field = .ok value ↔ field = some value := by
  cases field <;> simp [required]

theorem Fields.complete_eq_ok {fields : Fields} {binding : Binding} :
    fields.complete = .ok binding ↔
      fields.name = some binding.name ∧ binding.name ≠ "" ∧
        fields.logLevel = some binding.logLevel ∧ fields.template = some binding.template ∧
        fields.explicitId = binding.explicitId ∧ fields.scope = binding.scope := by
  cases binding
  simp only [Fields.complete, bind_eq_ok, required_eq_ok, pure_eq_ok, Option.filter_eq_some_iff,
    decide_eq_true_eq, Binding.mk.injEq]
  constructor
  · rintro ⟨name, ⟨hname, hne⟩, level, hlevel, template, htemplate, rfl, rfl, rfl, rfl, rfl⟩
    exact ⟨hname, hne, hlevel, htemplate, rfl, rfl⟩
  · rintro ⟨hname, hne, hlevel, htemplate, rfl, rfl⟩
    exact ⟨_, ⟨hname, hne⟩, _, hlevel, _, htemplate, rfl, rfl, rfl, rfl, rfl⟩

theorem exists_parse_of_bind {arguments : List Argument} {binding : Binding}
    (h : bind lookup location arguments = .ok binding) :
    ∃ raw, Template.parse lookup location raw = .ok binding.template := by
  obtain ⟨fields, hfields, hcomplete⟩ := bind_eq_ok.mp h
  obtain ⟨-, -, -, htemplate, -, -⟩ := Fields.complete_eq_ok.mp hcomplete
  exact Fields.parsed_empty.bindFields hfields _ htemplate

end Binding

end TypedLogging
