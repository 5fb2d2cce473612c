import Mathlib.Logic.Function.Basic
import TypedLogging.Proofs.Binding
import TypedLogging.Proofs.Emission.Helper

namespace TypedLogging.Emission

/-- What a name in a body can stand for: a parameter, or a variable that holds the level or the
metadata. -/
inductive Referent
  | placeholder (index : Nat)
  | error
  | level
  | metadata
  deriving DecidableEq

abbrev Names := String → Option Referent

def Helper.parameters (helper : Helper) : Names := fun name =>
  if name ∈ helper.paramNames then some (.placeholder (helper.paramNames.idxOf name))
  else if name = helper.errorParam then some .error
  else none

/-- What the arguments of an arm refer to. The variable of an arm holds what is matched. -/
def Arm.references (names : Names) (matched : String) (arm : Arm) : List (Option Referent) :=
  match arm.errorVariable with
  | some name => arm.arguments.map (Function.update names name (names matched))
  | none => arm.arguments.map names

structure Logged where
  withError : List (Option Referent)
  without : List (Option Referent)
  deriving DecidableEq

/-- A body that goes through a logger introduces its variables before it matches the error. -/
def Body.logged (names : Names) : Body → Option Logged
  | .silent _ => none
  | .direct _ matched withError without =>
    some ⟨withError.references names matched, without.references names matched⟩
  | .throughLogger _ level metadata matched withError without =>
    let names := Function.update names level (some .level)
    let names := Function.update names metadata (some .metadata)
    some ⟨withError.references names matched, without.references names matched⟩

/-- The arguments of the caller in the order of the placeholders, and the error behind them. -/
def Logged.intended (count : Nat) : Logged :=
  let arguments := (List.range count).map fun index => some (Referent.placeholder index)
  ⟨arguments ++ [some .error], arguments⟩

/-- No name that the body introduces is that of a placeholder. -/
def Helper.KeepsParameters (helper : Helper) : Prop :=
  ∀ name ∈ helper.body.introduced, name ∉ helper.paramNames

/-- Whatever the helper logs are the arguments of the caller. -/
def Helper.LogsArguments (helper : Helper) : Prop :=
  ∀ logged, helper.body.logged helper.parameters = some logged →
    logged = .intended helper.params.length

/-- A message that is logged through a logger and has a placeholder with the name of a variable of
its own. -/
def Hides (binding : Binding) : Prop :=
  binding.severity ≠ .unknown ∧ binding.scope = .interface ∧
    ∃ slot ∈ binding.template.slots, TypedLogging.snake slot.aliasName = "level" ∨
      TypedLogging.snake slot.aliasName = "metadata"

instance (binding : Binding) : Decidable (Hides binding) :=
  inferInstanceAs (Decidable (_ ∧ _ ∧ _))

def Helper.inForce (helper : Helper) : Names :=
  match helper.scope with
  | .generic => helper.parameters
  | .interface =>
    Function.update (Function.update helper.parameters "level" (some .level)) "metadata"
      (some .metadata)

section Names

variable (helper : Helper)

theorem Helper.references_armWithError (names : Names) :
    helper.armWithError.references names helper.errorParam =
      helper.paramNames.map names ++ [names helper.errorParam] := by
  simp only [Arm.references, Helper.armWithError, Function.update_eq_self, List.map_append,
    List.map_cons, List.map_nil]

theorem Helper.references_armWithout (names : Names) :
    helper.armWithout.references names helper.errorParam = helper.paramNames.map names := rfl

theorem Helper.logged_body :
    helper.body.logged helper.parameters = helper.level.map fun _ =>
      ⟨helper.paramNames.map helper.inForce ++ [helper.inForce helper.errorParam],
        helper.paramNames.map helper.inForce⟩ := by
  cases hlevel : helper.level with
  | none => simp [Helper.body, hlevel, Body.logged]
  | some level =>
      cases hscope : helper.scope <;>
        simp [Helper.body, hlevel, hscope, Body.logged, Helper.inForce,
          Helper.references_armWithError, Helper.references_armWithout]

theorem Helper.inForce_of_ne {name : String} (hlevel : name ≠ "level")
    (hmetadata : name ≠ "metadata") : helper.inForce name = helper.parameters name := by
  cases hscope : helper.scope with
  | generic => simp only [Helper.inForce, hscope]
  | interface =>
      simp only [Helper.inForce, hscope]
      rw [Function.update_of_ne hmetadata, Function.update_of_ne hlevel]

theorem Helper.inForce_generic (hscope : helper.scope = .generic) :
    helper.inForce = helper.parameters := by
  simp only [Helper.inForce, hscope]

theorem Helper.inForce_interface (hscope : helper.scope = .interface) :
    helper.inForce "level" = some .level ∧ helper.inForce "metadata" = some .metadata := by
  simp only [Helper.inForce, hscope]
  rw [Function.update_of_ne (by decide), Function.update_self, Function.update_self]
  exact ⟨rfl, rfl⟩

variable {helper}

theorem Helper.map_parameters (h : helper.paramNames.Nodup) :
    helper.paramNames.map helper.parameters =
      (List.range helper.params.length).map fun index => some (Referent.placeholder index) := by
  apply List.ext_getElem
  · simp [Helper.paramNames]
  · intro index hindex hrange
    rw [List.length_map] at hindex
    simp only [List.getElem_map, List.getElem_range, Helper.parameters, List.getElem_mem, if_true]
    rw [h.idxOf_getElem index hindex]

theorem Helper.parameters_errorParam (h : helper.errorParam ∉ helper.paramNames) :
    helper.parameters helper.errorParam = some .error := by
  simp [Helper.parameters, h]

end Names

section Helpers

variable {binding : Binding} {eventId : EventId} {taken : List String} {helper : Helper}

theorem untouched_level : Untouched "level" where
  plain := List.all_eq_true.mp (by decide)
  begins := ⟨'l', "evel".toList, rfl, by decide⟩
  ne_arg := by decide
  free := by decide

theorem untouched_metadata : Untouched "metadata" where
  plain := List.all_eq_true.mp (by decide)
  begins := ⟨'m', "etadata".toList, rfl, by decide⟩
  ne_arg := by decide
  free := by decide

theorem hides_iff (h : helperOf binding eventId taken = .ok helper) :
    Hides binding ↔ helper.level.isSome = true ∧ helper.scope = .interface ∧
      ("level" ∈ helper.paramNames ∨ "metadata" ∈ helper.paramNames) := by
  rw [level_of_helperOf h, isSome_levelName?, scope_of_helperOf h, paramNames_of_helperOf h,
    mem_paramNames_iff untouched_level, mem_paramNames_iff untouched_metadata, Hides]
  simp only [and_or_left, exists_or]

/-- The error parameter is called `error`, with a number behind it if a placeholder is. -/
theorem errorParam_ne (h : helperOf binding eventId taken = .ok helper) {name : String}
    (hname : Untouched name) (hne : name ≠ "error") : helper.errorParam ≠ name := by
  rw [errorParam_of_helperOf h]
  by_cases herror : "error" ∈ paramNames binding.template.slots
  · obtain ⟨k, -, hk, -, -⟩ := unique_of_mem herror
    rw [hk]
    exact (ne_numbered hname.underscore_not_mem "error" k).symm
  · rw [unique_of_not_mem herror]
    exact hne.symm

theorem inForce_errorParam (h : helperOf binding eventId taken = .ok helper) :
    helper.inForce helper.errorParam = some .error := by
  rw [helper.inForce_of_ne (errorParam_ne h untouched_level (by decide))
      (errorParam_ne h untouched_metadata (by decide)),
    Helper.parameters_errorParam (errorParam_not_mem h)]

theorem keepsParameters_iff (h : helperOf binding eventId taken = .ok helper) :
    helper.KeepsParameters ↔ ¬ Hides binding := by
  have hfree := errorParam_not_mem h
  rw [hides_iff h, Helper.KeepsParameters]
  cases hlevel : helper.level with
  | none => simp [Helper.body, hlevel, Body.introduced]
  | some level =>
      cases hscope : helper.scope with
      | generic =>
          simp [Helper.body, hlevel, hscope, Body.introduced, Helper.armWithError,
            Helper.armWithout, hfree]
      | interface =>
          simp [Helper.body, hlevel, hscope, Body.introduced, Helper.armWithError,
            Helper.armWithout, hfree]

theorem inForce_eq_parameters (h : helperOf binding eventId taken = .ok helper)
    (hlevel : helper.level.isSome = true) (hclear : ¬ Hides binding) :
    ∀ name ∈ helper.paramNames, helper.inForce name = helper.parameters name := by
  intro name hname
  cases hscope : helper.scope with
  | generic => rw [helper.inForce_generic hscope]
  | interface =>
      have hnot := fun hhidden => hclear ((hides_iff h).mpr ⟨hlevel, hscope, hhidden⟩)
      apply helper.inForce_of_ne
      · rintro rfl
        exact hnot (.inl hname)
      · rintro rfl
        exact hnot (.inr hname)

theorem exists_inForce_of_hides (h : helperOf binding eventId taken = .ok helper)
    (hhides : Hides binding) : ∃ name ∈ helper.paramNames,
      helper.inForce name = some .level ∨ helper.inForce name = some .metadata := by
  obtain ⟨-, hscope, hhidden⟩ := (hides_iff h).mp hhides
  obtain ⟨hlevel, hmetadata⟩ := helper.inForce_interface hscope
  rcases hhidden with hmem | hmem
  · exact ⟨_, hmem, .inl hlevel⟩
  · exact ⟨_, hmem, .inr hmetadata⟩

theorem logsArguments_iff (h : helperOf binding eventId taken = .ok helper) :
    helper.LogsArguments ↔ ¬ Hides binding := by
  have hnodup : helper.paramNames.Nodup := (List.nodup_append.mp (nodup_of_helperOf h)).1
  rw [Helper.LogsArguments, Helper.logged_body, inForce_errorParam h]
  constructor
  · intro hlogs hhides
    obtain ⟨level, hlevel⟩ := Option.isSome_iff_exists.mp ((hides_iff h).mp hhides).1
    obtain ⟨name, hname, hvariable⟩ := exists_inForce_of_hides h hhides
    have hwithout := congrArg Logged.without (hlogs _ (by rw [hlevel]; rfl))
    have hmem := List.mem_map_of_mem (f := helper.inForce) hname
    simp only [Logged.intended] at hwithout
    rw [hwithout] at hmem
    obtain ⟨index, -, he⟩ := List.mem_map.mp hmem
    rcases hvariable with hvariable | hvariable
    · rw [hvariable] at he
      cases he
    · rw [hvariable] at he
      cases he
  · intro hclear logged hlogged
    obtain ⟨level, hlevel, rfl⟩ := Option.map_eq_some_iff.mp hlogged
    have hkept := inForce_eq_parameters h (by rw [hlevel]; rfl) hclear
    rw [List.map_congr_left hkept, Helper.map_parameters hnodup]
    rfl

/-- Every placeholder has a parameter of its own and the error has one, and in either arm of a body the
error that is logged is that parameter. A body hides a placeholder, and logs something else in its
place, exactly when the message is logged through a logger and an alias in snake case is `level` or
`metadata`. -/
theorem logged_of_helperOf (h : helperOf binding eventId taken = .ok helper) :
    helper.params.length = binding.template.slots.length ∧
      (helper.paramNames ++ [helper.errorParam]).Nodup ∧
      ((helper.body.logged helper.parameters).isSome = true ↔ binding.severity ≠ .unknown) ∧
      (∀ logged, helper.body.logged helper.parameters = some logged →
        logged.without.length = helper.params.length ∧
          logged.withError = logged.without ++ [some .error]) ∧
      (helper.KeepsParameters ↔ ¬ Hides binding) ∧ (helper.LogsArguments ↔ ¬ Hides binding) := by
  refine ⟨?_, nodup_of_helperOf h, ?_, ?_, keepsParameters_iff h, logsArguments_iff h⟩
  · rw [← length_paramNames_of_helperOf h, Helper.paramNames, List.length_map]
  · rw [Helper.logged_body, Option.isSome_map, level_of_helperOf h, isSome_levelName?]
  · intro logged hlogged
    rw [Helper.logged_body, inForce_errorParam h] at hlogged
    obtain ⟨level, -, rfl⟩ := Option.map_eq_some_iff.mp hlogged
    exact ⟨by simp only [Helper.paramNames, List.length_map], rfl⟩

end Helpers

def raisedArguments (aliasName : String) : List Argument :=
  [⟨none, .string "Raised"⟩, ⟨none, .member ⟨["LogLevel", "Information"], by decide⟩⟩,
    ⟨none, .string ("raised to \x7b" ++ aliasName ++ ":u32\x7d")⟩,
    ⟨some "extensionScope", .member ⟨["Scope", "Interface"], by decide⟩⟩]

def raisedBinding (aliasName : String) : Binding where
  name := "Raised"
  logLevel := ⟨["LogLevel", "Information"], by decide⟩
  template := {
    raw := "raised to \x7b" ++ aliasName ++ ":u32\x7d"
    normalized := "raised to \x7b" ++ aliasName ++ "\x7d"
    slots := [⟨aliasName, ⟨"u32", "u32"⟩, 10, 12 + aliasName.utf8ByteSize⟩] }
  explicitId := none
  scope := .interface

theorem logged_of_helperOf_count :
    bind .plain ⟨"crate", []⟩ (raisedArguments "Count") = .ok (raisedBinding "Count") ∧
      ∃ helper, helperOf (raisedBinding "Count") (.derived 1) [] = .ok helper ∧
        helper.KeepsParameters ∧ helper.LogsArguments ∧
        (helper.body.logged helper.parameters).isSome = true := by
  have hbind : bind .plain ⟨"crate", []⟩ (raisedArguments "Count") = .ok (raisedBinding "Count") := by
    decide
  have hmade : (helperOf (raisedBinding "Count") (.derived 1) []).toOption.isSome = true := by
    decide
  cases h : helperOf (raisedBinding "Count") (.derived 1) [] with
  | error stop =>
      rw [h] at hmade
      cases hmade
  | ok helper =>
      obtain ⟨-, -, hlogged, -, hkeeps, hlogs⟩ := logged_of_helperOf h
      have hclear : ¬ Hides (raisedBinding "Count") := by decide
      exact ⟨hbind, helper, rfl, hkeeps.mpr hclear, hlogs.mpr hclear, hlogged.mpr (by decide)⟩

theorem logged_level :
    bind .plain ⟨"crate", []⟩ (raisedArguments "Level") = .ok (raisedBinding "Level") ∧
      ∃ helper, helperOf (raisedBinding "Level") (.derived 1) [] = .ok helper ∧
        helper.paramNames = ["level"] ∧ "level" ∈ helper.body.introduced ∧
        helper.body.logged helper.parameters = some ⟨[some .level, some .error], [some .level]⟩ := by
  have hbind : bind .plain ⟨"crate", []⟩ (raisedArguments "Level") = .ok (raisedBinding "Level") := by
    decide
  have hmade : (helperOf (raisedBinding "Level") (.derived 1) []).toOption.map (fun helper =>
        (helper.paramNames, helper.body.introduced, helper.body.logged helper.parameters)) =
      some (["level"], ["level", "metadata", "error"],
        some ⟨[some .level, some .error], [some .level]⟩) := by
    decide
  cases h : helperOf (raisedBinding "Level") (.derived 1) [] with
  | error stop =>
      rw [h] at hmade
      cases hmade
  | ok helper =>
      rw [h] at hmade
      have htriple := Option.some.inj hmade
      rw [Prod.mk.injEq, Prod.mk.injEq] at htriple
      obtain ⟨hnames, hintroduced, hlogged⟩ := htriple
      exact ⟨hbind, helper, rfl, hnames, by rw [hintroduced]; simp, hlogged⟩

end TypedLogging.Emission
