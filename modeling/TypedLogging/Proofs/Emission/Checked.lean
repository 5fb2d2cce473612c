import TypedLogging.Proofs.Binding
import TypedLogging.Proofs.Emission.Identifier

namespace TypedLogging

open Text (isAsciiAlphanumeric isAsciiDigit isAsciiLetter isAsciiLower isAsciiUpper)

namespace Emission

open Outcome

/-- The parameters of a helper. A name is checked before its type is read. -/
def checkedParams (binding : Binding) (names : List String) (slots : List Slot) :
    Except Stop (List Param) :=
  (names.zip slots).mapM fun (name, slot) => do
    let name ← identifier name
    let type ← orStop (typeOf binding slot)
    return ⟨name, type⟩

def checkedHelper (binding : Binding) (eventId : EventId) (taken : List String) :
    Except Stop Helper := do
  let value ← orStop (eventIdOf binding eventId)
  let slots := binding.template.slots
  let names := paramNames slots
  let params ← checkedParams binding names slots
  let errorParam ← identifier (unique "error" names)
  let constant ← identifier (constantOf (methodOf binding taken))
  let method ← identifier (methodOf binding taken)
  let level ← orStop (levelOf binding)
  return {
    doc := docOf binding
    constant
    method
    eventId := value
    level
    format := formatString binding.template
    params
    errorParam
    scope := binding.scope }

def checkedHelpers (ordinal index : Nat) (taken : List String) :
    List Binding → Except Stop (List Helper)
  | [] => .ok []
  | binding :: rest => do
    let helper ← checkedHelper binding (binding.eventId ordinal index) taken
    let more ← checkedHelpers ordinal (index + 1) (helper.method :: taken) rest
    return helper :: more

/-- The name of the trait is needed only where there is one. -/
def checkedExtension (ordinal : Nat) (declaration : Annotated) : Except Stop Extension := do
  let helpers ← checkedHelpers ordinal 0 [] declaration.bindings
  let typeName ← identifier (sanitize declaration.typeName)
  let extension : Extension :=
    ⟨declaration.typePath, typeName, visibleOf declaration.modifiers, helpers⟩
  if extension.interface.isEmpty then return extension
  let _ ← identifier extension.traitName
  return extension

section Equal

variable {name : String}

theorem identifier_of_isPlain (h : IsPlain name) : identifier name = pure name := by
  rw [identifier, if_pos h.isIdentifierText]
  rfl

theorem checkedParams_eq (binding : Binding) {names : List String} {slots : List Slot}
    (hlength : names.length = slots.length) (hnames : ∀ name ∈ names, IsPlain name) :
    checkedParams binding names slots = do
      let types ← orStop (slots.mapM (typeOf binding))
      return (names.zip types).map fun (name, type) => ⟨name, type⟩ := by
  induction slots generalizing names with
  | nil =>
      rw [List.length_eq_zero_iff.mp hlength]
      rfl
  | cons slot rest ih =>
      cases names with
      | nil => cases hlength
      | cons name more =>
          rw [List.forall_mem_cons] at hnames
          have hrest := ih (Nat.succ.inj hlength) hnames.2
          rw [checkedParams] at hrest ⊢
          rw [List.zip_cons_cons, List.mapM_cons, hrest, List.mapM_cons]
          dsimp only
          rw [identifier_of_isPlain hnames.1]
          cases typeOf binding slot with
          | error fault => rfl
          | ok type =>
              cases rest.mapM (typeOf binding) with
              | error fault => rfl
              | ok types => rfl

theorem checkedHelper_eq (binding : Binding) (eventId : EventId) (taken : List String) :
    checkedHelper binding eventId taken = helperOf binding eventId taken := by
  have hnames : ∀ name ∈ paramNames binding.template.slots, IsPlain name :=
    fun name hname => isPlain_of_mem_paramNames hname
  simp only [checkedHelper, helperOf, checkedParams_eq binding (length_paramNames _) hnames,
    identifier_of_isPlain (isPlain_error.unique _), identifier_of_isPlain (isPlain_methodOf _ _),
    bind_assoc, pure_bind]

theorem checkedHelpers_eq (ordinal index : Nat) (taken : List String) (bindings : List Binding) :
    checkedHelpers ordinal index taken bindings = helpersFrom ordinal index taken bindings := by
  induction bindings generalizing index taken with
  | nil => rfl
  | cons binding rest ih =>
      rw [checkedHelpers, helpersFrom, checkedHelper_eq]
      simp only [ih]

theorem checkedExtension_eq (ordinal : Nat) (declaration : Annotated) :
    checkedExtension ordinal declaration = extensionOf ordinal declaration := by
  have htype := isPlain_sanitize declaration.typeName
  rw [checkedExtension, extensionOf, helpersOf, checkedHelpers_eq, identifier_of_isPlain htype]
  refine bind_congr fun helpers => ?_
  rw [pure_bind]
  dsimp only
  split
  · rfl
  · rw [Extension.traitName, identifier_of_isPlain htype.append_loggerMessages]
    rfl

end Equal

/-- The first letter or digit of a name in snake case; others are replaced in a method. -/
def firstPlain? (name : String) : Option Char :=
  (TypedLogging.snake name).toList.find? isAsciiAlphanumeric

/-- The constant of a message begins with a digit: the name has one before any letter, or it has neither
and a number is put behind the underscores that stand for it. -/
def ShoutsDigit (name : String) (taken : List String) : Prop :=
  (firstPlain? name).any isAsciiDigit = true ∨
    firstPlain? name = none ∧ TypedLogging.snake name ≠ "" ∧
      sanitize (TypedLogging.snake name) ∈ taken

theorem any_leading?_methodOf (binding : Binding) (taken : List String) :
    (leading? (methodOf binding taken)).any isAsciiDigit = true ↔ ShoutsDigit binding.name taken := by
  have hbase := leading?_sanitize (TypedLogging.snake binding.name)
  rw [← firstPlain?] at hbase
  rw [ShoutsDigit, methodOf]
  by_cases htaken : sanitize (TypedLogging.snake binding.name) ∈ taken
  · obtain ⟨number, -, hmethod, -, -⟩ := unique_of_mem htaken
    obtain ⟨c, hc, hdigit⟩ : ∃ c, (Nat.repr number).toList.head? = some c ∧ isAsciiDigit c = true := by
      cases hdigits : (Nat.repr number).toList with
      | nil => exact absurd hdigits (by simp [Nat.toDigits_ne_nil])
      | cons c rest => exact ⟨c, rfl, isAsciiDigit_of_mem_repr (hdigits ▸ List.mem_cons_self)⟩
    rw [hmethod, leading?_numbered, hbase, hc]
    by_cases hempty : TypedLogging.snake binding.name = ""
    · have hnone : firstPlain? binding.name = none := by rw [firstPlain?, hempty]; rfl
      simp [hempty, hnone]
      decide
    · cases hfirst : firstPlain? binding.name <;> simp [hempty, htaken, hdigit]
  · rw [unique_of_not_mem htaken, hbase]
    by_cases hempty : TypedLogging.snake binding.name = ""
    · have hnone : firstPlain? binding.name = none := by rw [firstPlain?, hempty]; rfl
      simp [hempty, hnone]
      decide
    · simp [hempty, htaken]

theorem not_shoutsDigit_of_letter {name : String}
    (h : (firstPlain? name).any isAsciiLetter = true) (taken : List String) :
    ¬ ShoutsDigit name taken := by
  obtain ⟨c, hc, hletter⟩ := (Option.any_eq_true _ _).mp h
  rintro (hdigit | ⟨hnone, -⟩)
  · rw [hc, Option.any_some, Text.isAsciiDigit_iff] at hdigit
    have hcase : isAsciiLower c = true ∨ isAsciiUpper c = true := by
      simpa [isAsciiLetter] using hletter
    rw [Text.isAsciiLower_iff, Text.isAsciiUpper_iff] at hcase
    omega
  · rw [hc] at hnone
    cases hnone

section Abort

variable {binding : Binding} {eventId : EventId} {taken : List String} {name : String}

theorem orStop_eq_badIdentifier {α : Type} {x : Except Fault α} :
    orStop x ≠ .error (.badIdentifier name) := by
  cases x <;> simp [orStop]

theorem identifier_eq_badIdentifier {name' : String} :
    identifier name' = .error (.badIdentifier name) ↔
      Source.Literal.isIdentifierText name'.toList = false ∧ name = name' := by
  rw [identifier]
  by_cases hname : Source.Literal.isIdentifierText name'.toList = true
  · simp [hname]
  · simp [hname, eq_comm]

theorem helperOf_eq_badIdentifier :
    helperOf binding eventId taken = .error (.badIdentifier name) ↔
      (∃ value, eventIdOf binding eventId = .ok value) ∧
        (∃ types, binding.template.slots.mapM (typeOf binding) = .ok types) ∧
        ShoutsDigit binding.name taken ∧ name = constantOf (methodOf binding taken) := by
  rw [← any_leading?_methodOf]
  have hconstant := isIdentifierText_constantOf (isSnakeChar_of_mem_methodOf binding taken)
  simp only [helperOf, bind_eq_error, orStop_eq_badIdentifier, identifier_eq_badIdentifier,
    orStop_eq_ok, hconstant, false_or]
  simp [pure, Except.pure]

end Abort

end Emission

namespace Emitter

open Outcome Emission

def checkedEmit (emitter : Emitter) (ordinal : Nat) (declaration : Annotated) :
    Except Stop GeneratedFile := do
  let extension ← checkedExtension ordinal declaration
  return ⟨fileName declaration, extension.typePath,
    extension.contents emitter.logCrate emitter.includeHeader⟩

variable {emitter : Emitter} {ordinal : Nat} {declaration : Annotated}

theorem emit_eq_error {stop : Stop} : emitter.emit ordinal declaration = .error stop ↔
    helpersFrom ordinal 0 [] declaration.bindings = .error stop := by
  simp only [emit, extensionOf, helpersOf, bind_eq_error]
  simp [pure, Except.pure]

/-- The names of a type, a trait, a method and its parameters are never refused. Emission aborts at the
constant of the first message that shouts a digit, if the messages before it are emitted and its own id
and types are right; where every name has a letter before any digit, emission gives a file or a failure. -/
theorem emit_aborts_iff (emitter : Emitter) (ordinal : Nat) (declaration : Annotated) :
    emitter.checkedEmit ordinal declaration = emitter.emit ordinal declaration ∧
      (∀ name, emitter.emit ordinal declaration = .error (.badIdentifier name) ↔
        ∃ before binding after helpers, declaration.bindings = before ++ binding :: after ∧
          helpersFrom ordinal 0 [] before = .ok helpers ∧
          (∃ value, eventIdOf binding (binding.eventId ordinal before.length) = .ok value) ∧
          (∃ types, binding.template.slots.mapM (typeOf binding) = .ok types) ∧
          ShoutsDigit binding.name (helpers.map (·.method)).reverse ∧
          name = constantOf (methodOf binding (helpers.map (·.method)).reverse)) ∧
      ((∀ binding ∈ declaration.bindings, (firstPlain? binding.name).any isAsciiLetter = true) →
        (∃ file, emitter.emit ordinal declaration = .ok file) ∨
          ∃ fault, emitter.emit ordinal declaration = .error (.fault fault)) := by
  have haborts : ∀ name, emitter.emit ordinal declaration = .error (.badIdentifier name) ↔
      ∃ before binding after helpers, declaration.bindings = before ++ binding :: after ∧
        helpersFrom ordinal 0 [] before = .ok helpers ∧
        (∃ value, eventIdOf binding (binding.eventId ordinal before.length) = .ok value) ∧
        (∃ types, binding.template.slots.mapM (typeOf binding) = .ok types) ∧
        ShoutsDigit binding.name (helpers.map (·.method)).reverse ∧
        name = constantOf (methodOf binding (helpers.map (·.method)).reverse) := by
    intro name
    rw [emit_eq_error, helpersFrom_eq_error]
    simp only [helperOf_eq_badIdentifier, Nat.zero_add, List.append_nil]
  refine ⟨?_, haborts, fun hletters => ?_⟩
  · rw [checkedEmit, checkedExtension_eq]
    rfl
  · cases hemit : emitter.emit ordinal declaration with
    | ok file => exact .inl ⟨file, rfl⟩
    | error stop =>
        cases stop with
        | fault fault => exact .inr ⟨fault, rfl⟩
        | badIdentifier name =>
            obtain ⟨before, binding, after, helpers, hbindings, -, -, -, hshouts, -⟩ :=
              (haborts name).mp hemit
            refine absurd hshouts (not_shoutsDigit_of_letter (hletters binding ?_) _)
            simp [hbindings]

end Emitter

namespace Emission

def messageArguments (name : String) : List Argument :=
  [⟨none, .string name⟩, ⟨none, .member ⟨["LogLevel", "Debug"], MemberRef.two_le_length_debug⟩⟩,
    ⟨none, .string "\x7bX:u32\x7d"⟩]

def carrier (names : List String) : Declaration :=
  ⟨"Controller", "pub", [.inNamespace "crate::app"],
    names.map fun name => ⟨"log::message", messageArguments name⟩⟩

def plainBinding (name : String) : Binding where
  name := name
  logLevel := ⟨["LogLevel", "Debug"], MemberRef.two_le_length_debug⟩
  template := {
    raw := "\x7bX:u32\x7d"
    normalized := "\x7bX\x7d"
    slots := [⟨"X", ⟨"u32", "u32"⟩, 0, 3⟩] }
  explicitId := none
  scope := .generic

def carried (names : List String) : Annotated :=
  ⟨"crate::app", [], "pub", "Controller", names.map plainBinding⟩

theorem emit_aborts_first :
    (collect "log::message" .plain (carrier ["1st"])).declarations = [carried ["1st"]] ∧
      (orStop (Emitter.ofConfig .default) >>= (·.emit 0 (carried ["1st"]))) =
        .error (.badIdentifier "1ST_EVENT_ID") := by
  decide

end Emission

end TypedLogging
