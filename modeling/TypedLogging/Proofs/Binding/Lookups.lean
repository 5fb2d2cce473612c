import TypedLogging.Binding
import TypedLogging.Proofs.Outcome

namespace TypedLogging

open Outcome

/-- The names that stand for one type at a location. -/
def Lookup.Finds (lookup : Lookup) (location : Location) (token : String) : Prop :=
  ∃ type, lookup.resolve location token = .ok type

def BindError.uncounted : BindError → BindError
  | .unresolvedType token _ => .unresolvedType token 0
  | error => error

def Slot.untyped (slot : Slot) : Slot := { slot with type := ⟨"", ""⟩ }

def Template.untyped (template : Template) : Template :=
  { template with slots := template.slots.map Slot.untyped }

def Binding.untyped (binding : Binding) : Binding :=
  { binding with template := binding.template.untyped }

def Binding.Fields.untyped (fields : Fields) : Fields :=
  { fields with template := fields.template.map Template.untyped }

/-- Two outcomes that differ in numbers of candidates and in what `view` leaves out alone. -/
abbrev Alike {α : Type} (view : α → α) : Except BindError α → Except BindError α → Prop :=
  Related (fun e e' => e.uncounted = e'.uncounted) fun a a' => view a = view a'

theorem Alike.refl {α : Type} (view : α → α) (outcome : Except BindError α) :
    Alike view outcome outcome := by
  cases outcome with
  | error e => exact .error rfl
  | ok a => exact .ok rfl

variable {first second : Lookup} {here there : Location}

namespace Template

theorem resolveType_alike {token : String}
    (h : first.Finds here token ↔ second.Finds there token) :
    Alike (fun _ => ⟨"", ""⟩) (resolveType first here token) (resolveType second there token) := by
  unfold resolveType
  unfold Lookup.Finds at h
  cases hfirst : first.resolve here token with
  | ok type =>
      obtain ⟨type', hsecond⟩ := h.mp ⟨type, hfirst⟩
      rw [hsecond]
      exact .ok rfl
  | error candidates =>
      cases hsecond : second.resolve there token with
      | ok type =>
          obtain ⟨type', hfirst'⟩ := h.mpr ⟨type, hsecond⟩
          rw [hfirst] at hfirst'
          cases hfirst'
      | error candidates' => exact .error rfl

theorem normalize_alike (h : ∀ token, first.Finds here token ↔ second.Finds there token)
    (offset written : Nat) (rest : List Char) (found : List Placeholder) :
    Alike (fun (text, slots) => (text, slots.map Slot.untyped))
      (normalize first here offset written rest found)
      (normalize second there offset written rest found) := by
  induction found generalizing offset written rest with
  | nil => exact Alike.refl _ _
  | cons placeholder more ih =>
      refine (resolveType_alike (h placeholder.type)).bind fun type type' _ => ?_
      refine (ih _ _ _).bind ?_
      rintro ⟨text, slots⟩ ⟨text', slots'⟩ hrest
      obtain ⟨rfl, hslots⟩ := Prod.mk.inj hrest
      refine .ok (Prod.ext rfl ?_)
      simp only [List.map_cons, hslots, Slot.untyped]

theorem parse_alike (h : ∀ token, first.Finds here token ↔ second.Finds there token)
    (raw : String) : Alike untyped (parse first here raw) (parse second there raw) := by
  unfold parse
  cases tokenize raw with
  | nil => exact .error rfl
  | cons placeholder more =>
      refine (normalize_alike h 0 0 raw.toList (placeholder :: more)).bind ?_
      rintro ⟨text, slots⟩ ⟨text', slots'⟩ hparts
      obtain ⟨rfl, hslots⟩ := Prod.mk.inj hparts
      refine .ok ?_
      simp only [untyped, hslots]

end Template

namespace Binding

theorem formatOf_alike (h : ∀ token, first.Finds here token ↔ second.Finds there token)
    (raw : String) : Alike Template.untyped (formatOf first here raw) (formatOf second there raw) := by
  unfold formatOf
  split
  · exact .error rfl
  · exact Template.parse_alike h raw

theorem Fields.set_alike (h : ∀ token, first.Finds here token ↔ second.Finds there token)
    {fields fields' : Fields} (hfields : fields.untyped = fields'.untyped) (parameter : Parameter)
    (value : ArgValue) :
    Alike Fields.untyped (fields.set first here parameter value)
      (fields'.set second there parameter value) := by
  obtain ⟨name, logLevel, template, explicitId, scope⟩ := fields
  obtain ⟨name', logLevel', template', explicitId', scope'⟩ := fields'
  obtain ⟨rfl, rfl, htemplate, rfl, rfl⟩ := Fields.mk.inj hfields
  have hunchanged : ∀ name logLevel explicitId scope,
      Alike Fields.untyped (.ok ⟨name, logLevel, template, explicitId, scope⟩)
        (.ok ⟨name, logLevel, template', explicitId, scope⟩) := by
    intro name logLevel explicitId scope
    exact .ok (by simp only [Fields.untyped, htemplate])
  cases parameter with
  | name =>
      cases value with
      | string text => exact hunchanged _ _ _ _
      | _ => exact .error rfl
  | logLevel =>
      cases value with
      | member path => exact hunchanged _ _ _ _
      | _ => exact .error rfl
  | format =>
      cases value with
      | string raw =>
          refine (formatOf_alike h raw).bind ?_
          intro parsed parsed' hparsed
          exact .ok (by simp only [Fields.untyped, Option.map_some, hparsed])
      | _ => exact .error rfl
  | eventId =>
      cases value with
      | string text => exact hunchanged _ _ _ _
      | number text => exact hunchanged _ _ _ _
      | _ => exact .error rfl
  | extensionScope =>
      cases value with
      | member path =>
          refine (Alike.refl id (scopeOf path)).bind ?_
          rintro scope _ rfl
          exact hunchanged _ _ _ _
      | _ => exact .error rfl

theorem bindFields_alike (h : ∀ token, first.Finds here token ↔ second.Finds there token)
    {fields fields' : Fields} (hfields : fields.untyped = fields'.untyped) (position : Nat)
    (arguments : List Argument) :
    Alike Fields.untyped (bindFields first here fields position arguments)
      (bindFields second there fields' position arguments) := by
  induction arguments generalizing fields fields' position with
  | nil => exact .ok hfields
  | cons argument rest ih =>
      refine (Alike.refl id (parameterOf position argument)).bind ?_
      rintro parameter _ rfl
      refine (Fields.set_alike h hfields parameter argument.value).bind ?_
      intro set set' hset
      exact ih hset _

theorem Fields.complete_alike {fields fields' : Fields} (h : fields.untyped = fields'.untyped) :
    Alike Binding.untyped fields.complete fields'.complete := by
  obtain ⟨name, logLevel, template, explicitId, scope⟩ := fields
  obtain ⟨name', logLevel', template', explicitId', scope'⟩ := fields'
  obtain ⟨rfl, rfl, htemplate, rfl, rfl⟩ := Fields.mk.inj h
  have hrequired : Alike Template.untyped (required .format template)
      (required .format template') := by
    cases template with
    | none =>
        cases template' with
        | none => exact .error rfl
        | some parsed' => cases htemplate
    | some parsed =>
        cases template' with
        | none => cases htemplate
        | some parsed' => exact .ok (Option.some.inj htemplate)
  refine (Alike.refl id (required .name (name.filter (· ≠ "")))).bind ?_
  rintro name _ rfl
  refine (Alike.refl id (required .logLevel logLevel)).bind ?_
  rintro logLevel _ rfl
  refine hrequired.bind ?_
  intro parsed parsed' hparsed
  exact .ok (by simp only [Binding.untyped, hparsed, id_eq])

theorem bind_alike (h : ∀ token, first.Finds here token ↔ second.Finds there token)
    (arguments : List Argument) :
    Alike Binding.untyped (bind first here arguments) (bind second there arguments) := by
  refine (bindFields_alike h rfl 0 arguments).bind ?_
  intro fields fields' hfields
  exact Fields.complete_alike hfields

end Binding

section SameSymbols

theorem Template.normalize_congr (h : first here = second here) (offset written : Nat)
    (rest : List Char) (found : List Placeholder) :
    normalize first here offset written rest found = normalize second here offset written rest found := by
  have htype : ∀ token, resolveType first here token = resolveType second here token := by
    intro token
    rw [resolveType, resolveType, Lookup.resolve, Lookup.resolve, h]
  induction found generalizing offset written rest with
  | nil => rfl
  | cons placeholder more ih =>
      rw [normalize, normalize, htype]
      simp only [ih]

theorem Binding.bindFields_congr (h : first here = second here) (fields : Fields) (position : Nat)
    (arguments : List Argument) :
    bindFields first here fields position arguments =
      bindFields second here fields position arguments := by
  have hformat : ∀ raw, formatOf first here raw = formatOf second here raw := by
    intro raw
    simp only [formatOf, Template.parse, Template.normalize_congr h]
  have hset : ∀ (fields : Fields) parameter value,
      fields.set first here parameter value = fields.set second here parameter value := by
    intro fields parameter value
    unfold Fields.set
    simp only [hformat]
  induction arguments generalizing fields position with
  | nil => rfl
  | cons argument rest ih =>
      rw [bindFields, bindFields]
      simp only [hset, ih]

theorem bind_of_same_symbols (h : first here = second here) (arguments : List Argument) :
    bind first here arguments = bind second here arguments := by
  rw [bind, bind, Binding.bindFields_congr h]

end SameSymbols

end TypedLogging
