import TypedLogging.Proofs.Binding.Description
import TypedLogging.Proofs.Emission.Checked
import TypedLogging.Proofs.Emission.Constants
import TypedLogging.Proofs.Source.Numerals
import TypedLogging.Proofs.Validation

namespace TypedLogging

open Outcome
open Text (InInt32 Writes readInt32)

namespace Binding

def withoutId (binding : Binding) : Binding := { binding with explicitId := none }

/-- The event id is bound to this value, whatever was bound to it before. -/
def IdComesFrom (arguments : List Argument) (value : ArgValue) : Prop :=
  ∃ earlier entry later, placed arguments = earlier ++ entry :: later ∧
    entry.place.Denotes .eventId ∧ entry.value = value ∧ Unbound later .eventId

variable {lookup : Lookup} {location : Location} {arguments : List Argument} {binding : Binding}

theorem explicitId_of_bind {text : String} (hfrom : IdComesFrom arguments (.number text))
    (hbind : bind lookup location arguments = .ok binding) : binding.explicitId = some text := by
  obtain ⟨earlier, entry, later, hentries, hplace, hvalue, hlater⟩ := hfrom
  have hgives : entry.Gives lookup location (.eventId text) := ⟨hplace, hvalue ▸ .number text⟩
  have hlast : Last lookup location (placed arguments) (.eventId text) :=
    ⟨earlier, entry, later, hentries, hgives, hlater⟩
  have hdescribes : Describes lookup location (placed arguments) (bind lookup location arguments) :=
    describes_bind arguments
  rw [hbind] at hdescribes
  cases hdescribes with
  | bound _ hyields =>
      rcases hyields.explicitId with ⟨found, hid, hfound⟩ | ⟨-, hunbound⟩
      · cases hfound.unique hlast rfl
        exact hid
      · exact absurd hunbound hlast.not_unbound

end Binding

namespace Emission

variable {binding : Binding} {eventId : EventId} {taken : List String} {helper : Helper}

theorem helperOf_of_withoutId {derived value : Int}
    (h : helperOf binding.withoutId (.derived derived) taken = .ok helper)
    (hvalue : eventIdOf binding eventId = .ok value) :
    helperOf binding eventId taken = .ok { helper with eventId := value } := by
  obtain ⟨_, types, level, -, htypes, hconstant, hlevel, rfl⟩ := helperOf_eq_ok.mp h
  exact helperOf_eq_ok.mpr ⟨value, types, level, hvalue, htypes, hconstant, hlevel, rfl⟩

theorem helperOf_of_eventIdOf_error {fault : Fault} (h : eventIdOf binding eventId = .error fault) :
    helperOf binding eventId taken = .error (.fault fault) := by
  rw [helperOf, h]
  rfl

theorem eventId_eq_explicit {text : String} (h : binding.explicitId = some text)
    (ordinal index : Nat) : binding.eventId ordinal index = .explicit text := by
  rw [Binding.eventId, h]

end Emission

namespace Emitter

open Emission (helpersFrom)

/-- The file of a declaration has a constant for each message, and the one at a position has this value. -/
def DeclaresConstant (emitter : Emitter) (ordinal : Nat) (declaration : Annotated) (position : Nat)
    (value : Int) : Prop :=
  ∃ file extension layout constant,
    emitter.emit ordinal declaration = .ok file ∧
    Emission.extensionOf ordinal declaration = .ok extension ∧
    emitter.Prints extension file layout ∧
    layout.constants.length = declaration.bindings.length ∧
    layout.constants[position]? = some constant ∧ constant.value = value

/-- A declaration in which nothing but the event id of a message can be wrong. -/
structure AwaitsId (emitter : Emitter) (ordinal : Nat) (declaration : Annotated)
    (before : List Binding) (binding : Binding) (after : List Binding) : Prop where
  bindings_eq : declaration.bindings = before ++ binding :: after
  emits : ∃ file, emitter.emit ordinal
    { declaration with bindings := before ++ binding.withoutId :: after } = .ok file

variable {emitter : Emitter} {ordinal : Nat} {declaration : Annotated} {before after : List Binding}
  {binding : Binding}

theorem exists_emit_iff : (∃ file, emitter.emit ordinal declaration = .ok file) ↔
    ∃ helpers, helpersFrom ordinal 0 [] declaration.bindings = .ok helpers := by
  have herror := @emit_eq_error emitter ordinal declaration
  cases hemit : emitter.emit ordinal declaration with
  | error stop => simp [herror.mp hemit]
  | ok file =>
      cases hhelpers : helpersFrom ordinal 0 [] declaration.bindings with
      | error stop =>
          rw [herror.mpr hhelpers] at hemit
          cases hemit
      | ok helpers => simp

/-- The helpers around the message, and its own but for the id. -/
theorem AwaitsId.exists_helpers (h : emitter.AwaitsId ordinal declaration before binding after) :
    ∃ first helper more,
      helpersFrom ordinal 0 [] before = .ok first ∧
      Emission.helperOf binding.withoutId (binding.withoutId.eventId ordinal before.length)
        (first.map (·.method)).reverse = .ok helper ∧
      helpersFrom ordinal (before.length + 1)
        (helper.method :: (first.map (·.method)).reverse) after = .ok more := by
  obtain ⟨helpers, hhelpers⟩ := exists_emit_iff.mp h.emits
  obtain ⟨first, rest, hfirst, hrest, -⟩ := Emission.helpersFrom_append_eq_ok.mp hhelpers
  rw [Nat.zero_add, List.append_nil] at hrest
  obtain ⟨helper, more, hhelper, hmore, -⟩ := Emission.helpersFrom_cons_eq_ok.mp hrest
  exact ⟨first, helper, more, hfirst, hhelper, hmore⟩

theorem AwaitsId.declaresConstant (h : emitter.AwaitsId ordinal declaration before binding after)
    {value : Int}
    (hvalue : Emission.eventIdOf binding (binding.eventId ordinal before.length) = .ok value) :
    emitter.DeclaresConstant ordinal declaration before.length value := by
  obtain ⟨first, helper, more, hfirst, hhelper, hmore⟩ := h.exists_helpers
  have hown := Emission.helperOf_of_withoutId hhelper hvalue
  have hall : helpersFrom ordinal 0 [] declaration.bindings =
      .ok (first ++ { helper with eventId := value } :: more) := by
    rw [h.bindings_eq]
    refine Emission.helpersFrom_append_eq_ok.mpr ⟨first, _, hfirst, ?_, rfl⟩
    rw [Nat.zero_add, List.append_nil]
    exact Emission.helpersFrom_cons_eq_ok.mpr ⟨_, more, hown, hmore, rfl⟩
  obtain ⟨file, hfile⟩ := exists_emit_iff.mpr ⟨_, hall⟩
  obtain ⟨extension, hextension, hprints⟩ := prints_of_emit hfile
  have hhelpers := Emission.helpers_of_extensionOf hextension
  have hconstants : extension.layout.constants =
      (first ++ { helper with eventId := value } :: more).map (·.asConstant) := by
    rw [Emission.Extension.layout, Except.ok.inj (hhelpers.symm.trans hall)]
  refine ⟨file, extension, extension.layout, ⟨helper.constant, value⟩, hfile, hextension, hprints,
    ?_, ?_, rfl⟩
  · rw [Emission.Extension.layout, List.length_map, Emission.length_helpersFrom hhelpers]
  · rw [hconstants, List.getElem?_map,
      List.getElem?_append_right (Nat.le_of_eq (Emission.length_helpersFrom hfirst)),
      Emission.length_helpersFrom hfirst, Nat.sub_self]
    rfl

theorem AwaitsId.emit_eq_error (h : emitter.AwaitsId ordinal declaration before binding after)
    {fault : Fault}
    (hfault : Emission.eventIdOf binding (binding.eventId ordinal before.length) = .error fault) :
    emitter.emit ordinal declaration = .error (.fault fault) := by
  obtain ⟨first, -, -, hfirst, -, -⟩ := h.exists_helpers
  rw [Emitter.emit_eq_error, h.bindings_eq, Emission.helpersFrom_eq_error]
  refine ⟨before, binding, after, first, rfl, hfirst, ?_⟩
  rw [Nat.zero_add]
  exact Emission.helperOf_of_eventIdOf_error hfault

end Emitter

namespace Validation

variable {arguments : List Argument} {binding : Binding}

theorem checkArguments_of_isEmittable (hbind : bind anyType ⟨"", []⟩ arguments = .ok binding)
    (hlevel : Emission.isEmittable binding.logLevel = true) :
    checkArguments arguments = checkEventId binding.explicitId := by
  rw [checkArguments, hbind]
  change (checkLevel binding.logLevel >>= fun _ => checkEventId binding.explicitId) = _
  rw [checkLevel_eq_ok.mpr hlevel]
  rfl

end Validation

/-- An argument is a number exactly if it is an integer under parentheses and groups and with one minus
sign at most, and its text writes the value. As the event id of a message that is right otherwise it
becomes a constant of this value and is accepted by the check if it has 32 bits, and both refuse it
otherwise. -/
theorem integer_keeps_value (expr : Source.Expr) :
    (∀ text, expr.classify = .number text ↔
      ∃ numeral, expr.IsInteger numeral ∧ text = numeral.text) ∧
    ∀ numeral, expr.IsInteger numeral →
      Writes numeral.text.toList numeral.value ∧
      ∀ arguments, Binding.IdComesFrom arguments expr.classify →
        (∀ lookup location binding, bind lookup location arguments = .ok binding →
          ∀ (emitter : Emitter) ordinal declaration before after,
            emitter.AwaitsId ordinal declaration before binding after →
              (InInt32 numeral.value →
                emitter.DeclaresConstant ordinal declaration before.length numeral.value) ∧
              (¬InInt32 numeral.value → ∃ cause, emitter.emit ordinal declaration = .error
                (.fault ((Failure.invalidEventId binding.name numeral.text).because cause)))) ∧
        (∀ binding, bind Validation.anyType ⟨"", []⟩ arguments = .ok binding →
          Emission.isEmittable binding.logLevel = true →
            (InInt32 numeral.value → Validation.checkArguments arguments = .ok ()) ∧
            (¬InInt32 numeral.value → Validation.checkArguments arguments =
              .error (.message s!"event id `{numeral.text}` is not a 32-bit integer"))) ∧
        ∀ trees itemTrees item, Source.readArguments? trees = some arguments →
          Source.Item.ofTrees? itemTrees = some (.typeItem item) → item.isGeneric = false →
            validate trees itemTrees = Validation.checkArguments arguments := by
  refine ⟨fun text => Source.Expr.classify_eq_number, fun numeral hinteger => ?_⟩
  have hwrites := numeral.writes_text
  have hclassify : expr.classify = .number numeral.text :=
    Source.Expr.classify_eq_number.mpr ⟨numeral, hinteger, rfl⟩
  refine ⟨hwrites, fun arguments hfrom => ?_⟩
  rw [hclassify] at hfrom
  refine ⟨?_, ?_, ?_⟩
  · intro lookup location binding hbind emitter ordinal declaration before after hawaits
    have hid := Emission.eventId_eq_explicit (Binding.explicitId_of_bind hfrom hbind) ordinal
      before.length
    constructor
    · intro hrange
      refine hawaits.declaresConstant ?_
      rw [hid, Emission.eventIdOf, Text.readInt32_of_inInt32 hwrites hrange]
    · intro hrange
      obtain ⟨fault, hfault⟩ := Text.readInt32_of_not_inInt32 hwrites hrange
      refine ⟨fault.message, hawaits.emit_eq_error ?_⟩
      rw [hid, Emission.eventIdOf, hfault]
  · intro binding hbind hlevel
    rw [Validation.checkArguments_of_isEmittable hbind hlevel, Binding.explicitId_of_bind hfrom hbind,
      Validation.checkEventId]
    constructor
    · intro hrange
      rw [Text.readInt32_of_inInt32 hwrites hrange]
    · intro hrange
      obtain ⟨fault, hfault⟩ := Text.readInt32_of_not_inInt32 hwrites hrange
      rw [hfault]
  · intro trees itemTrees item htrees hitem hgeneric
    rw [Validation.validate_eq hitem hgeneric, htrees]

def smallestId : Source.Expr :=
  .prefixed (.sign ["-"]) (.enclosed (.grouped (.leaf (.integer ⟨false, 2147483648⟩ []))))

def numberedArguments (expr : Source.Expr) : List Argument :=
  Emission.messageArguments "Up" ++ [⟨some "event_id", expr.classify⟩]

def numberedBinding (expr : Source.Expr) : Binding :=
  { Emission.plainBinding "Up" with explicitId := expr.number? }

def numberedDeclaration (expr : Source.Expr) : Annotated :=
  ⟨"crate::app", [], "pub", "Controller", [numberedBinding expr]⟩

theorem integer_keeps_value_smallest :
    smallestId.IsInteger ⟨true, 2147483648⟩ ∧
      Binding.IdComesFrom (numberedArguments smallestId) smallestId.classify ∧
      bind Validation.anyType ⟨"", []⟩ (numberedArguments smallestId) =
        .ok (numberedBinding smallestId) ∧
      Emitter.plain.AwaitsId 0 (numberedDeclaration smallestId) [] (numberedBinding smallestId)
        [] ∧
      Emitter.plain.DeclaresConstant 0 (numberedDeclaration smallestId) 0 (-2147483648) ∧
      Validation.checkArguments (numberedArguments smallestId) = .ok () := by
  have hinteger : smallestId.IsInteger ⟨true, 2147483648⟩ :=
    .minus (.enclosed (.grouped (.literal _ _)))
  have hfrom : Binding.IdComesFrom (numberedArguments smallestId) smallestId.classify :=
    ⟨Binding.placed (Emission.messageArguments "Up"), ⟨.named "event_id", smallestId.classify⟩, [],
      rfl, .inr rfl, rfl, List.forall_mem_nil _⟩
  have hbind : bind Validation.anyType ⟨"", []⟩ (numberedArguments smallestId) =
      .ok (numberedBinding smallestId) := by decide +kernel
  have hemits : (Emitter.plain.emit 0 { numberedDeclaration smallestId with
      bindings := [] ++ (numberedBinding smallestId).withoutId :: [] }).isOk = true := by
    decide +kernel
  have hawaits : Emitter.plain.AwaitsId 0 (numberedDeclaration smallestId) []
      (numberedBinding smallestId) [] := ⟨rfl, exists_eq_ok_of_isOk hemits⟩
  have hrange : InInt32 (Source.Numeral.mk true 2147483648).value := ⟨by decide, by decide⟩
  obtain ⟨hgenerated, hchecked, -⟩ :=
    ((integer_keeps_value smallestId).2 _ hinteger).2 _ hfrom
  exact ⟨hinteger, hfrom, hbind, hawaits, (hgenerated _ _ _ hbind _ _ _ _ _ hawaits).1 hrange,
    (hchecked _ hbind (by decide +kernel)).1 hrange⟩

end TypedLogging
