import TypedLogging.Validation
import TypedLogging.Proofs.Binding.Lookups
import TypedLogging.Proofs.Emission.Helper

namespace TypedLogging

open Outcome

/-- A lookup that finds a type under every name that reads as one, and under no other. -/
def Lookup.FindsTypes (lookup : Lookup) (location : Location) : Prop :=
  ∀ token, lookup.Finds location token ↔ (Source.typeOfText? token).isSome = true

/-- The body of an attribute and the tokens that are checked for it. -/
inductive Source.AttributeBody.Passes : AttributeBody → List TokenTree → Prop
  | bare : Passes .bare []
  | list (trees : List TokenTree) : Passes (.list trees) trees

/-- The level of a bound message can be written, and its event id, where it has one of its own. -/
def Emission.Accepts (binding : Binding) : Prop :=
  (∃ level, levelOf binding = .ok level) ∧
    ∀ text, binding.explicitId = some text → ∃ value, eventIdOf binding (.explicit text) = .ok value

namespace Emission

variable {binding : Binding}

theorem exists_levelOf_iff :
    (∃ level, levelOf binding = .ok level) ↔ isEmittable binding.logLevel = true := by
  simp only [levelOf_eq_ok, isEmittable, Binding.severity, exists_eq_left, decide_eq_true_eq,
    ne_eq, Bool.or_eq_true]
  tauto

theorem exists_eventIdOf_iff {text : String} :
    (∃ value, eventIdOf binding (.explicit text) = .ok value) ↔
      ∃ value, Text.readInt32 text = .ok value := by
  rw [eventIdOf]
  cases Text.readInt32 text with
  | ok value => simp
  | error fault => simp

theorem accepts_iff :
    Accepts binding ↔ isEmittable binding.logLevel = true ∧
      ∀ text, binding.explicitId = some text → ∃ value, Text.readInt32 text = .ok value := by
  simp only [Accepts, exists_levelOf_iff, exists_eventIdOf_iff]

theorem accepts_congr {binding' : Binding} (h : binding.untyped = binding'.untyped) :
    Accepts binding ↔ Accepts binding' := by
  have hlevel : binding.logLevel = binding'.logLevel := (Binding.mk.inj h).2.1
  have hid : binding.explicitId = binding'.explicitId := (Binding.mk.inj h).2.2.2.1
  rw [accepts_iff, accepts_iff, hlevel, hid]

end Emission

namespace Validation

theorem anyType_findsTypes (location : Location) : anyType.FindsTypes location := by
  intro token
  unfold Lookup.Finds Lookup.resolve anyType
  cases (Source.typeOfText? token).isSome with
  | true => simp [distinctTypes, Symbol.type]
  | false => simp [distinctTypes]

theorem checkLevel_eq_ok {level : MemberRef} :
    checkLevel level = .ok () ↔ Emission.isEmittable level = true := by
  rw [checkLevel]
  cases Emission.isEmittable level <;> simp

theorem checkEventId_eq_ok {explicitId : Option String} :
    checkEventId explicitId = .ok () ↔
      ∀ text, explicitId = some text → ∃ value, Text.readInt32 text = .ok value := by
  cases explicitId with
  | none => simp [checkEventId]
  | some text =>
      rw [checkEventId]
      cases hread : Text.readInt32 text with
      | ok value => simp [hread]
      | error fault => simp [hread]

theorem checkArguments_eq_ok {arguments : List Argument} :
    checkArguments arguments = .ok () ↔
      ∃ binding, bind anyType ⟨"", []⟩ arguments = .ok binding ∧ Emission.Accepts binding := by
  rw [checkArguments]
  cases hbind : bind anyType ⟨"", []⟩ arguments with
  | error error => simp
  | ok binding =>
      simp only [bind_eq_ok, Except.ok.injEq, exists_eq_left', Emission.accepts_iff,
        checkEventId_eq_ok]
      constructor
      · rintro ⟨⟨⟩, hlevel, hid⟩
        exact ⟨checkLevel_eq_ok.mp hlevel, hid⟩
      · rintro ⟨hlevel, hid⟩
        exact ⟨(), checkLevel_eq_ok.mpr hlevel, hid⟩

theorem validate_eq {trees itemTrees : List Source.TokenTree} {item : Source.TypeItem}
    (hitem : Source.Item.ofTrees? itemTrees = some (.typeItem item))
    (hgeneric : item.isGeneric = false) :
    validate trees itemTrees = match Source.readArguments? trees with
      | none => .error .unparsed
      | some arguments => checkArguments arguments := by
  simp only [validate, hitem, checkItem, hgeneric]
  rfl

end Validation

variable {lookup : Lookup} {location : Location}

theorem bind_unreadable (code : String) :
    bind lookup location [⟨none, .other code⟩] =
      .error (.malformed .name "a string literal" "an expression") := rfl

namespace Lookup.FindsTypes

theorem finds_iff (h : lookup.FindsTypes location) (token : String) :
    lookup.Finds location token ↔ Validation.anyType.Finds ⟨"", []⟩ token :=
  (h token).trans (Validation.anyType_findsTypes _ token).symm

theorem checkArguments_eq_ok (h : lookup.FindsTypes location) (arguments : List Argument) :
    Validation.checkArguments arguments = .ok () ↔
      ∃ binding, bind lookup location arguments = .ok binding ∧ Emission.Accepts binding := by
  rw [Validation.checkArguments_eq_ok]
  constructor
  · rintro ⟨shown, hshown, haccepts⟩
    have halike := Binding.bind_alike (fun token => (h.finds_iff token).symm) arguments
    obtain ⟨binding, hbinding, huntyped⟩ := halike.of_eq_ok hshown
    exact ⟨binding, hbinding, (Emission.accepts_congr huntyped).mp haccepts⟩
  · rintro ⟨binding, hbinding, haccepts⟩
    have halike := Binding.bind_alike h.finds_iff arguments
    obtain ⟨shown, hshown, huntyped⟩ := halike.of_eq_ok hbinding
    exact ⟨shown, hshown, (Emission.accepts_congr huntyped).mp haccepts⟩

theorem exists_shown (h : lookup.FindsTypes location) {arguments : List Argument}
    {error : BindError} (herror : bind lookup location arguments = .error error) :
    ∃ shown, bind Validation.anyType ⟨"", []⟩ arguments = .error shown ∧
      error.uncounted = shown.uncounted ∧
      Validation.checkArguments arguments =
        .error (.message s!"invalid logger message: {shown.message}") := by
  have halike := Binding.bind_alike h.finds_iff arguments
  obtain ⟨shown, hshown, huncounted⟩ := halike.of_eq_error herror
  exact ⟨shown, hshown, huncounted, by simp only [Validation.checkArguments, hshown]⟩

theorem exists_error (h : lookup.FindsTypes location) {arguments : List Argument}
    {shown : BindError} (hshown : bind Validation.anyType ⟨"", []⟩ arguments = .error shown) :
    ∃ error, bind lookup location arguments = .error error ∧ error.uncounted = shown.uncounted := by
  have halike := Binding.bind_alike (fun token => (h.finds_iff token).symm) arguments
  obtain ⟨error, herror, huncounted⟩ := halike.of_eq_error hshown
  exact ⟨error, herror, huncounted.symm⟩

end Lookup.FindsTypes

section Attributes

variable {found : Source.Attribute} {trees : List Source.TokenTree}

theorem readArguments?_nil : Source.readArguments? [] = some [] := by decide +kernel

theorem arguments_of_passes (h : found.body.Passes trees) {arguments : List Argument}
    (hread : Source.readArguments? trees = some arguments) : found.arguments = arguments := by
  obtain ⟨path, body⟩ := found
  cases h with
  | bare => exact Option.some.inj (readArguments?_nil.symm.trans hread)
  | list => simp only [Source.Attribute.arguments, hread, Option.getD_some]

theorem arguments_of_unreadable (h : found.body.Passes trees)
    (hread : Source.readArguments? trees = none) :
    ∃ code, found.arguments = [⟨none, .other code⟩] := by
  obtain ⟨path, body⟩ := found
  cases h with
  | bare =>
      rw [readArguments?_nil] at hread
      cases hread
  | list =>
      refine ⟨Source.Code.text (Source.Code.ofTrees trees), ?_⟩
      simp only [Source.Attribute.arguments, hread, Option.getD_none]

/-- Checking a message where it is declared and generating it agree on whether it is one, and on the
reason why it is not. -/
theorem validate_agrees (found : Source.Attribute) {itemTrees : List Source.TokenTree}
    {item : Source.TypeItem} (hbody : found.body.Passes trees)
    (hitem : Source.Item.ofTrees? itemTrees = some (.typeItem item))
    (hgeneric : item.isGeneric = false) (hlookup : lookup.FindsTypes location) :
    (validate trees itemTrees = .ok () ↔
      ∃ binding, bind lookup location found.arguments = .ok binding ∧ Emission.Accepts binding) ∧
    ∀ arguments, Source.readArguments? trees = some arguments →
      (∀ error, bind lookup location found.arguments = .error error →
        ∃ shown, bind Validation.anyType ⟨"", []⟩ arguments = .error shown ∧
          error.uncounted = shown.uncounted ∧
          validate trees itemTrees =
            .error (.message s!"invalid logger message: {shown.message}")) ∧
      (∀ shown, bind Validation.anyType ⟨"", []⟩ arguments = .error shown →
        ∃ error, bind lookup location found.arguments = .error error ∧
          error.uncounted = shown.uncounted) := by
  rw [Validation.validate_eq hitem hgeneric]
  cases hread : Source.readArguments? trees with
  | none =>
      obtain ⟨code, hcode⟩ := arguments_of_unreadable hbody hread
      refine ⟨?_, fun arguments h => by cases h⟩
      rw [hcode, bind_unreadable]
      simp
  | some arguments =>
      rw [arguments_of_passes hbody hread]
      refine ⟨hlookup.checkArguments_eq_ok arguments, ?_⟩
      intro arguments' he
      obtain rfl := Option.some.inj he
      exact ⟨fun error herror => hlookup.exists_shown herror,
        fun shown hshown => hlookup.exists_error hshown⟩

end Attributes

def Lookup.ofNamespace : Lookup := fun location name =>
  if (Source.typeOfText? name).isSome then
    [.type name s!"{location.namespaceName}::{name}"]
  else [.type name "core::Unknown", .type name "std::Unknown"]

theorem Lookup.ofNamespace_findsTypes (location : Location) :
    Lookup.ofNamespace.FindsTypes location := by
  intro token
  unfold Lookup.Finds Lookup.resolve Lookup.ofNamespace
  cases (Source.typeOfText? token).isSome with
  | true => simp [distinctTypes, Symbol.type]
  | false => simp [distinctTypes, Symbol.type, Symbol.qualified]

def tokensOf (text : String) : List Source.TokenTree := (Source.lex text).getD []

def Source.Item.isPlainType : Item → Bool
  | .typeItem item => !item.isGeneric
  | _ => false

theorem exists_plainType {found : Option Source.Item} (h : found.any (·.isPlainType) = true) :
    ∃ item, found = some (.typeItem item) ∧ item.isGeneric = false := by
  cases found with
  | none => cases h
  | some item =>
      cases item with
      | typeItem item => exact ⟨item, rfl, (Bool.not_eq_true' _).mp h⟩
      | _ => cases h

theorem validate_agrees_vec :
    let accepted := tokensOf "\"Up\", L::Error, \"\x7bp:Vec<u8>\x7d\", -7"
    let refused := tokensOf "\"Up\", L::Error, \"\x7bp:no type\x7d\""
    (∃ binding, bind .ofNamespace ⟨"crate", ["T"]⟩
        (Source.Attribute.arguments ⟨⟨false, []⟩, .list accepted⟩) = .ok binding ∧
      Emission.Accepts binding) ∧
    ∃ shown : BindError, shown.uncounted = .unresolvedType "no type" 0 ∧
      validate refused (tokensOf "struct S;") =
        .error (.message s!"invalid logger message: {shown.message}") := by
  intro accepted refused
  have hplain : (Source.Item.ofTrees? (tokensOf "struct S;")).any (·.isPlainType) = true := by
    decide +kernel
  obtain ⟨item, hitem, hgeneric⟩ := exists_plainType hplain
  have hagrees : ∀ trees, _ := fun trees =>
    validate_agrees ⟨⟨false, []⟩, .list trees⟩ (.list trees) hitem hgeneric
      (Lookup.ofNamespace_findsTypes ⟨"crate", ["T"]⟩)
  have hread : ∃ arguments, Source.readArguments? refused = some arguments :=
    Option.isSome_iff_exists.mp (by decide +kernel)
  obtain ⟨arguments, hread⟩ := hread
  have hrefused : bind .ofNamespace ⟨"crate", ["T"]⟩
      (Source.Attribute.arguments ⟨⟨false, []⟩, .list refused⟩) =
        .error (.unresolvedType "no type" 2) := by decide +kernel
  obtain ⟨shown, -, huncounted, hvalidate⟩ := ((hagrees refused).2 arguments hread).1 _ hrefused
  exact ⟨(hagrees accepted).1.mp (by decide +kernel), shown, huncounted.symm, hvalidate⟩

end TypedLogging
