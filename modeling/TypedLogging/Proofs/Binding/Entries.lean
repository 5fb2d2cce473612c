import TypedLogging.Proofs.Binding

namespace TypedLogging

namespace Parameter

/-- Either spelling of a parameter. -/
def Spelled (parameter : Parameter) (name : String) : Prop :=
  name = parameter.camel ∨ name = parameter.snake

instance (parameter : Parameter) (name : String) : Decidable (parameter.Spelled name) :=
  inferInstanceAs (Decidable (_ ∨ _))

theorem ofName?_eq_some {name : String} {parameter : Parameter} :
    ofName? name = some parameter ↔ parameter.Spelled name := by
  constructor
  · intro h
    simpa [Spelled] using List.find?_some h
  · rintro (rfl | rfl)
    · cases parameter <;> decide
    · cases parameter <;> decide

def Fits : Parameter → ArgValue → Prop
  | .name, .string _ | .format, .string _ | .eventId, .string _ | .eventId, .number _ => True
  | .logLevel, .member _ | .extensionScope, .member _ => True
  | _, _ => False

def expected : Parameter → String
  | .name | .format => "a string literal"
  | .logLevel | .extensionScope => "a member reference"
  | .eventId => "a number or string literal"

end Parameter

namespace Binding

open Outcome

/-- How an argument comes to its parameter: by its name, or by the number of unnamed arguments before
it. -/
inductive Place
  | named (name : String)
  | unnamed (before : Nat)

namespace Place

def Denotes : Place → Parameter → Prop
  | .named name, parameter => parameter.Spelled name
  | .unnamed before, parameter => Parameter.all[before]? = some parameter

instance : (place : Place) → (parameter : Parameter) → Decidable (place.Denotes parameter)
  | .named _, _ => inferInstanceAs (Decidable (Parameter.Spelled _ _))
  | .unnamed _, _ => inferInstanceAs (Decidable (_ = _))

def text : Place → String
  | .named name => s!"named `{name}`"
  | .unnamed before => s!"at position {before}"

def of (before : Nat) (argument : Argument) : Place :=
  match argument.name with
  | some name => .named name
  | none => .unnamed before

end Place

structure Placed where
  place : Place
  value : ArgValue

def countUnnamed (arguments : List Argument) : Nat := arguments.countP (·.name.isNone)

def placedFrom (before : List Argument) : List Argument → List Placed
  | [] => []
  | argument :: rest =>
    ⟨.of (countUnnamed before) argument, argument.value⟩ :: placedFrom (before ++ [argument]) rest

def placed (arguments : List Argument) : List Placed := placedFrom [] arguments

/-- A bound parameter with what it is bound to. -/
inductive Field
  | name (text : String)
  | logLevel (path : MemberRef)
  | format (template : Template)
  | eventId (text : String)
  | extensionScope (scope : ExtensionScope)

@[simp] def Field.parameter : Field → Parameter
  | .name _ => .name
  | .logLevel _ => .logLevel
  | .format _ => .format
  | .eventId _ => .eventId
  | .extensionScope _ => .extensionScope

section Specification

variable (lookup : Lookup) (location : Location)

/-- A value that fits the parameter of a field, and is read as that field. -/
inductive Reads : ArgValue → Field → Prop
  | name (text : String) : Reads (.string text) (.name text)
  | logLevel (path : MemberRef) : Reads (.member path) (.logLevel path)
  | format {raw : String} {template : Template} (hne : raw ≠ "")
      (hparse : Template.parse lookup location raw = .ok template) :
      Reads (.string raw) (.format template)
  | number (text : String) : Reads (.number text) (.eventId text)
  | string (text : String) : Reads (.string text) (.eventId text)
  | generic {path : MemberRef} (h : path.member = "Generic") :
      Reads (.member path) (.extensionScope .generic)
  | interface {path : MemberRef} (h : path.member = "Interface") :
      Reads (.member path) (.extensionScope .interface)

/-- Why a parameter does not take a value. -/
inductive Rejects : Parameter → ArgValue → BindError → Prop
  | shape {parameter : Parameter} {value : ArgValue} (h : ¬parameter.Fits value) :
      Rejects parameter value (.malformed parameter parameter.expected value.shape)
  | empty : Rejects .format (.string "") (.missing .format)
  | template {raw : String} {error : BindError} (hne : raw ≠ "")
      (hparse : Template.parse lookup location raw = .error error) :
      Rejects .format (.string raw) error
  | scope {path : MemberRef} (hgeneric : path.member ≠ "Generic")
      (hinterface : path.member ≠ "Interface") :
      Rejects .extensionScope (.member path) (.malformed .extensionScope
        "`Scope::Generic` or `Scope::Interface`" "a member reference")

namespace Placed

def Gives (entry : Placed) (field : Field) : Prop :=
  entry.place.Denotes field.parameter ∧ Reads lookup location entry.value field

def Acceptable (entry : Placed) : Prop := ∃ field, entry.Gives lookup location field

inductive Faults (entry : Placed) : BindError → Prop
  | nowhere (h : ∀ parameter, ¬entry.place.Denotes parameter) :
      Faults entry (.noParameter entry.place.text)
  | rejected {parameter : Parameter} {error : BindError} (h : entry.place.Denotes parameter)
      (hrejects : Rejects lookup location parameter entry.value error) : Faults entry error

end Placed

end Specification

variable {lookup : Lookup} {location : Location}

theorem Place.Denotes.unique {place : Place} {first second : Parameter}
    (hfirst : place.Denotes first) (hsecond : place.Denotes second) : first = second := by
  cases place with
  | named name =>
      exact Option.some.inj ((Parameter.ofName?_eq_some.mpr hfirst).symm.trans
        (Parameter.ofName?_eq_some.mpr hsecond))
  | unnamed before => exact Option.some.inj (hfirst.symm.trans hsecond)

theorem parameterOf_eq_ok {position : Nat} {argument : Argument} {parameter : Parameter} :
    parameterOf position argument = .ok parameter ↔ (Place.of position argument).Denotes parameter := by
  obtain ⟨name, value⟩ := argument
  cases name with
  | some name =>
      rw [Place.of, Place.Denotes, ← Parameter.ofName?_eq_some]
      cases hname : Parameter.ofName? name <;> simp [parameterOf, hname]
  | none =>
      rw [Place.of, Place.Denotes, ← Parameter.ofIndex?]
      cases hindex : Parameter.ofIndex? position <;> simp [parameterOf, hindex]

theorem parameterOf_eq_error {position : Nat} {argument : Argument} {error : BindError} :
    parameterOf position argument = .error error ↔
      (∀ parameter, ¬(Place.of position argument).Denotes parameter) ∧
        error = .noParameter (Place.of position argument).text := by
  simp only [← parameterOf_eq_ok]
  obtain ⟨name, value⟩ := argument
  cases name with
  | some name =>
      cases hname : Parameter.ofName? name <;>
        simp [parameterOf, hname, Place.of, Place.text, eq_comm]
  | none =>
      cases hindex : Parameter.ofIndex? position <;>
        simp [parameterOf, hindex, Place.of, Place.text, eq_comm]

theorem scopeOf_eq_ok {path : MemberRef} {scope : ExtensionScope} :
    scopeOf path = .ok scope ↔ path.member = scope.name := by
  rw [scopeOf]
  split <;> cases scope <;> simp_all [ExtensionScope.name]

theorem scopeOf_eq_error {path : MemberRef} {error : BindError} :
    scopeOf path = .error error ↔ path.member ≠ "Generic" ∧ path.member ≠ "Interface" ∧
      error = .malformed .extensionScope "`Scope::Generic` or `Scope::Interface`"
        "a member reference" := by
  rw [scopeOf]
  split
  · simp_all
  · simp_all
  · next hgeneric hinterface =>
      rw [Except.error.injEq, eq_comm]
      exact ⟨fun h => ⟨hgeneric, hinterface, h⟩, fun h => h.2.2⟩

theorem formatOf_eq_error {raw : String} {error : BindError} :
    formatOf lookup location raw = .error error ↔
      Rejects lookup location .format (.string raw) error := by
  rw [formatOf]
  split
  · next hempty =>
      subst hempty
      constructor
      · rintro ⟨⟩
        exact .empty
      · intro h
        cases h with
        | shape hfits => exact absurd trivial hfits
        | empty => rfl
        | template hne _ => exact absurd rfl hne
  · next hne =>
      constructor
      · exact .template hne
      · intro h
        cases h with
        | shape hfits => exact absurd trivial hfits
        | empty => exact absurd rfl hne
        | template _ hparse => exact hparse

namespace Fields

def put (fields : Fields) : Field → Fields
  | .name text => { fields with name := some text }
  | .logLevel path => { fields with logLevel := some path }
  | .format template => { fields with template := some template }
  | .eventId text => { fields with explicitId := some text }
  | .extensionScope scope => { fields with scope := scope }

@[simp] def get (fields : Fields) : Parameter → Option Field
  | .name => fields.name.map .name
  | .logLevel => fields.logLevel.map .logLevel
  | .format => fields.template.map .format
  | .eventId => fields.explicitId.map .eventId
  | .extensionScope => some (.extensionScope fields.scope)

theorem get_put (fields : Fields) (field : Field) (parameter : Parameter) :
    (fields.put field).get parameter =
      if field.parameter = parameter then some field else fields.get parameter := by
  cases field <;> cases parameter <;> rfl

theorem set_eq_put {fields fields' : Fields} {parameter : Parameter} {value : ArgValue} :
    fields.set lookup location parameter value = .ok fields' ↔
      ∃ field, field.parameter = parameter ∧ Reads lookup location value field ∧
        fields' = fields.put field := by
  rw [set_eq_ok]
  constructor
  · rintro (⟨text, rfl, rfl, rfl⟩ | ⟨path, rfl, rfl, rfl⟩ | ⟨raw, template, rfl, rfl, hformat, rfl⟩ |
      ⟨text, rfl, rfl | rfl, rfl⟩ | ⟨path, scope, rfl, rfl, hscope, rfl⟩)
    · exact ⟨.name text, rfl, .name text, rfl⟩
    · exact ⟨.logLevel path, rfl, .logLevel path, rfl⟩
    · obtain ⟨hne, hparse⟩ := formatOf_eq_ok.mp hformat
      exact ⟨.format template, rfl, .format hne hparse, rfl⟩
    · exact ⟨.eventId text, rfl, .number text, rfl⟩
    · exact ⟨.eventId text, rfl, .string text, rfl⟩
    · refine ⟨.extensionScope scope, rfl, ?_, rfl⟩
      cases scope with
      | generic => exact .generic (scopeOf_eq_ok.mp hscope)
      | interface => exact .interface (scopeOf_eq_ok.mp hscope)
  · rintro ⟨field, rfl, hreads, rfl⟩
    cases hreads with
    | name text => exact .inl ⟨text, rfl, rfl, rfl⟩
    | logLevel path => exact .inr (.inl ⟨path, rfl, rfl, rfl⟩)
    | @format raw template hne hparse =>
        exact .inr (.inr (.inl ⟨raw, template, rfl, rfl, formatOf_eq_ok.mpr ⟨hne, hparse⟩, rfl⟩))
    | number text => exact .inr (.inr (.inr (.inl ⟨text, rfl, .inl rfl, rfl⟩)))
    | string text => exact .inr (.inr (.inr (.inl ⟨text, rfl, .inr rfl, rfl⟩)))
    | @generic path h =>
        exact .inr (.inr (.inr (.inr ⟨path, .generic, rfl, rfl, scopeOf_eq_ok.mpr h, rfl⟩)))
    | @interface path h =>
        exact .inr (.inr (.inr (.inr ⟨path, .interface, rfl, rfl, scopeOf_eq_ok.mpr h, rfl⟩)))

theorem set_of_not_fits {fields : Fields} {parameter : Parameter} {value : ArgValue}
    (h : ¬parameter.Fits value) : fields.set lookup location parameter value =
      .error (.malformed parameter parameter.expected value.shape) := by
  cases parameter <;> cases value <;> first | rfl | exact absurd trivial h

theorem set_eq_error {fields : Fields} {parameter : Parameter} {value : ArgValue}
    {error : BindError} :
    fields.set lookup location parameter value = .error error ↔
      Rejects lookup location parameter value error := by
  constructor
  · intro h
    by_cases hfits : parameter.Fits value
    · cases parameter with
      | name | logLevel | eventId => cases value <;> first | exact False.elim hfits | cases h
      | format =>
          cases value with
          | string raw => exact formatOf_eq_error.mp (map_eq_error.mp h)
          | _ => exact False.elim hfits
      | extensionScope =>
          cases value with
          | member path =>
              obtain ⟨hgeneric, hinterface, rfl⟩ := scopeOf_eq_error.mp (map_eq_error.mp h)
              exact .scope hgeneric hinterface
          | _ => exact False.elim hfits
    · rw [set_of_not_fits hfits] at h
      cases h
      exact .shape hfits
  · intro h
    cases h with
    | shape hfits => exact set_of_not_fits hfits
    | empty => rfl
    | template hne hparse => exact map_eq_error.mpr (formatOf_eq_error.mpr (.template hne hparse))
    | scope hgeneric hinterface =>
        exact map_eq_error.mpr (scopeOf_eq_error.mpr ⟨hgeneric, hinterface, rfl⟩)

end Fields

theorem nextPosition_countUnnamed (before : List Argument) (argument : Argument) :
    nextPosition (countUnnamed before) argument = countUnnamed (before ++ [argument]) := by
  obtain ⟨name, value⟩ := argument
  cases name <;> simp [nextPosition, countUnnamed]

section Run

variable {before arguments : List Argument} {fields result : Fields} {error : BindError}

theorem bindFields_cons_eq_put {position : Nat} {argument : Argument} {rest : List Argument} :
    bindFields lookup location fields position (argument :: rest) = .ok result ↔
      ∃ field, Placed.Gives lookup location ⟨.of position argument, argument.value⟩ field ∧
        bindFields lookup location (fields.put field) (nextPosition position argument) rest =
          .ok result := by
  rw [bindFields_cons_eq_ok]
  simp only [parameterOf_eq_ok, Fields.set_eq_put]
  constructor
  · rintro ⟨_, _, hplace, ⟨field, rfl, hreads, rfl⟩, hrest⟩
    exact ⟨field, ⟨hplace, hreads⟩, hrest⟩
  · rintro ⟨field, ⟨hplace, hreads⟩, hrest⟩
    exact ⟨_, _, hplace, ⟨field, rfl, hreads, rfl⟩, hrest⟩

theorem bindFields_cons_eq_error {position : Nat} {argument : Argument} {rest : List Argument} :
    bindFields lookup location fields position (argument :: rest) = .error error ↔
      Placed.Faults lookup location ⟨.of position argument, argument.value⟩ error ∨
      ∃ field, Placed.Gives lookup location ⟨.of position argument, argument.value⟩ field ∧
        bindFields lookup location (fields.put field) (nextPosition position argument) rest =
          .error error := by
  simp only [bindFields, bind_eq_error, parameterOf_eq_ok, parameterOf_eq_error, Fields.set_eq_put,
    Fields.set_eq_error]
  constructor
  · rintro (⟨hnowhere, rfl⟩ | ⟨parameter, hplace, hrejects | ⟨_, ⟨field, rfl, hreads, rfl⟩, hrest⟩⟩)
    · exact .inl (.nowhere hnowhere)
    · exact .inl (.rejected hplace hrejects)
    · exact .inr ⟨field, ⟨hplace, hreads⟩, hrest⟩
  · rintro (hfault | ⟨field, ⟨hplace, hreads⟩, hrest⟩)
    · cases hfault with
      | nowhere hnowhere => exact .inl ⟨hnowhere, rfl⟩
      | rejected hplace hrejects => exact .inr ⟨_, hplace, .inl hrejects⟩
    · exact .inr ⟨_, hplace, .inr ⟨_, ⟨field, rfl, hreads, rfl⟩, hrest⟩⟩

theorem Placed.exists_argument (entry : Placed) :
    ∃ position argument, entry = ⟨.of position argument, argument.value⟩ := by
  obtain ⟨place, value⟩ := entry
  cases place with
  | named name => exact ⟨0, ⟨some name, value⟩, rfl⟩
  | unnamed before => exact ⟨before, ⟨none, value⟩, rfl⟩

theorem Placed.not_acceptable_iff (entry : Placed) :
    ¬entry.Acceptable lookup location ↔ ∃ error, entry.Faults lookup location error := by
  obtain ⟨position, argument, rfl⟩ := entry.exists_argument
  cases h : bindFields lookup location .empty position [argument] with
  | error error =>
      have hfaults := h
      rw [bindFields_cons_eq_error] at hfaults
      rcases hfaults with hfault | ⟨field, -, hrest⟩
      · refine iff_of_true ?_ ⟨error, hfault⟩
        rintro ⟨field, hgives⟩
        have hok : bindFields lookup location .empty position [argument] =
            .ok (Fields.empty.put field) := bindFields_cons_eq_put.mpr ⟨field, hgives, rfl⟩
        rw [h] at hok
        cases hok
      · cases hrest
  | ok fields =>
      obtain ⟨field, hgives, -⟩ := bindFields_cons_eq_put.mp h
      refine iff_of_false (fun hnot => hnot ⟨field, hgives⟩) ?_
      rintro ⟨error, hfault⟩
      have herror : bindFields lookup location .empty position [argument] = .error error :=
        bindFields_cons_eq_error.mpr (.inl hfault)
      rw [h] at herror
      cases herror

end Run

end Binding

end TypedLogging
