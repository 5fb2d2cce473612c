import TypedLogging.Emission.Helper
import TypedLogging.Proofs.Emission.Name
import TypedLogging.Proofs.Outcome

namespace TypedLogging.Emission

open Outcome

theorem orStop_eq_ok {α : Type} {x : Except Fault α} {value : α} :
    orStop x = .ok value ↔ x = .ok value := by
  cases x <;> simp [orStop]

theorem identifier_eq_ok {name name' : String} :
    identifier name = .ok name' ↔
      Source.Literal.isIdentifierText name.toList = true ∧ name' = name := by
  rw [identifier]
  by_cases hname : Source.Literal.isIdentifierText name.toList = true
  · simp [hname, eq_comm]
  · simp [hname]

theorem isSome_levelName? {severity : Severity} :
    (levelName? severity).isSome = true ↔ severity ≠ .unknown := by
  cases severity <;> simp [levelName?]

theorem levelOf_eq_ok {binding : Binding} {level : Option String} :
    levelOf binding = .ok level ↔
      level = levelName? binding.severity ∧
        (binding.severity = .unknown → binding.logLevel.member = neverLogs) := by
  rw [levelOf]
  cases hlevel : levelName? binding.severity with
  | some name =>
      have hknown : binding.severity ≠ .unknown := isSome_levelName?.mp (by simp [hlevel])
      simp [hknown, eq_comm]
  | none =>
      have hunknown : binding.severity = .unknown := by
        by_contra hne
        simpa [hlevel] using isSome_levelName?.mpr hne
      by_cases hnever : binding.logLevel.member = neverLogs <;> simp [hunknown, hnever, eq_comm]

variable {binding : Binding} {eventId : EventId} {taken : List String} {helper : Helper}

theorem helperOf_eq_ok :
    helperOf binding eventId taken = .ok helper ↔
      ∃ value types level,
        eventIdOf binding eventId = .ok value ∧
        binding.template.slots.mapM (typeOf binding) = .ok types ∧
        Source.Literal.isIdentifierText (constantOf (methodOf binding taken)).toList = true ∧
        levelOf binding = .ok level ∧
        helper = {
          doc := docOf binding
          constant := constantOf (methodOf binding taken)
          method := methodOf binding taken
          eventId := value
          level
          format := formatString binding.template
          params := ((paramNames binding.template.slots).zip types).map fun (name, type) =>
            ⟨name, type⟩
          errorParam := unique "error" (paramNames binding.template.slots)
          scope := binding.scope } := by
  simp only [helperOf, bind_eq_ok, pure_eq_ok, orStop_eq_ok, identifier_eq_ok]
  constructor
  · rintro ⟨value, hvalue, types, htypes, constant, ⟨hconstant, rfl⟩, level, hlevel, rfl⟩
    exact ⟨value, types, level, hvalue, htypes, hconstant, hlevel, rfl⟩
  · rintro ⟨value, types, level, hvalue, htypes, hconstant, hlevel, rfl⟩
    exact ⟨value, hvalue, types, htypes, _, ⟨hconstant, rfl⟩, level, hlevel, rfl⟩

theorem length_paramNames (slots : List Slot) : (paramNames slots).length = slots.length := by
  rw [paramNames, length_uniqueAll, List.length_map]

theorem paramNames_of_helperOf (h : helperOf binding eventId taken = .ok helper) :
    helper.paramNames = paramNames binding.template.slots := by
  obtain ⟨value, types, level, -, htypes, -, -, rfl⟩ := helperOf_eq_ok.mp h
  have hlength : (paramNames binding.template.slots).length = types.length := by
    rw [length_paramNames, length_of_mapM_eq_ok htypes]
  simp only [Helper.paramNames, List.map_map]
  exact List.map_fst_zip (Nat.le_of_eq hlength)

theorem length_paramNames_of_helperOf (h : helperOf binding eventId taken = .ok helper) :
    helper.paramNames.length = binding.template.slots.length := by
  rw [paramNames_of_helperOf h, length_paramNames]

theorem format_of_helperOf (h : helperOf binding eventId taken = .ok helper) :
    helper.format = formatString binding.template := by
  obtain ⟨value, types, level, -, -, -, -, rfl⟩ := helperOf_eq_ok.mp h
  rfl

theorem errorParam_of_helperOf (h : helperOf binding eventId taken = .ok helper) :
    helper.errorParam = unique "error" (paramNames binding.template.slots) := by
  obtain ⟨value, types, level, -, -, -, -, rfl⟩ := helperOf_eq_ok.mp h
  rfl

theorem scope_of_helperOf (h : helperOf binding eventId taken = .ok helper) :
    helper.scope = binding.scope := by
  obtain ⟨value, types, level, -, -, -, -, rfl⟩ := helperOf_eq_ok.mp h
  rfl

theorem level_of_helperOf (h : helperOf binding eventId taken = .ok helper) :
    helper.level = levelName? binding.severity := by
  obtain ⟨value, types, level, -, -, -, hlevel, rfl⟩ := helperOf_eq_ok.mp h
  exact (levelOf_eq_ok.mp hlevel).1

theorem method_of_helperOf (h : helperOf binding eventId taken = .ok helper) :
    helper.method = methodOf binding taken ∧ helper.constant = constantOf helper.method := by
  obtain ⟨value, types, level, -, -, -, -, rfl⟩ := helperOf_eq_ok.mp h
  exact ⟨rfl, rfl⟩

theorem nodup_of_helperOf (h : helperOf binding eventId taken = .ok helper) :
    (helper.paramNames ++ [helper.errorParam]).Nodup := by
  rw [paramNames_of_helperOf h, errorParam_of_helperOf h]
  have hnodup : (paramNames binding.template.slots).Nodup := (uniqueAll_nodup [] _).1
  have hfree := unique_not_mem "error" (paramNames binding.template.slots)
  exact List.nodup_append.mpr ⟨hnodup, List.nodup_singleton _, fun name hname other hother he =>
    hfree (List.mem_singleton.mp hother ▸ he ▸ hname)⟩

theorem errorParam_not_mem (h : helperOf binding eventId taken = .ok helper) :
    helper.errorParam ∉ helper.paramNames := by
  intro hmem
  exact (List.nodup_append.mp (nodup_of_helperOf h)).2.2 _ hmem _ (List.mem_singleton_self _) rfl

theorem helpersFrom_cons_eq_ok {ordinal index : Nat} {rest : List Binding} {helpers : List Helper} :
    helpersFrom ordinal index taken (binding :: rest) = .ok helpers ↔
      ∃ helper more, helperOf binding (binding.eventId ordinal index) taken = .ok helper ∧
        helpersFrom ordinal (index + 1) (helper.method :: taken) rest = .ok more ∧
        helpers = helper :: more := by
  simp only [helpersFrom, bind_eq_ok, pure_eq_ok]
  constructor
  · rintro ⟨helper, hhelper, more, hmore, rfl⟩
    exact ⟨helper, more, hhelper, hmore, rfl⟩
  · rintro ⟨helper, more, hhelper, hmore, rfl⟩
    exact ⟨helper, hhelper, more, hmore, rfl⟩

theorem length_helpersFrom {ordinal index : Nat} {bindings : List Binding} {helpers : List Helper}
    (h : helpersFrom ordinal index taken bindings = .ok helpers) : helpers.length = bindings.length := by
  induction bindings generalizing index taken helpers with
  | nil =>
      cases h
      rfl
  | cons binding rest ih =>
      obtain ⟨helper, more, -, hmore, rfl⟩ := helpersFrom_cons_eq_ok.mp h
      rw [List.length_cons, List.length_cons, ih hmore]

theorem taken_cons (helper : Helper) (helpers : List Helper) (taken : List String) :
    ((helper :: helpers).map (·.method)).reverse ++ taken =
      (helpers.map (·.method)).reverse ++ helper.method :: taken := by
  simp

theorem helpersFrom_append_eq_ok {ordinal index : Nat} {before rest : List Binding}
    {helpers : List Helper} :
    helpersFrom ordinal index taken (before ++ rest) = .ok helpers ↔
      ∃ first more, helpersFrom ordinal index taken before = .ok first ∧
        helpersFrom ordinal (index + before.length) ((first.map (·.method)).reverse ++ taken) rest =
          .ok more ∧ helpers = first ++ more := by
  induction before generalizing index taken helpers with
  | nil => simp [helpersFrom]
  | cons binding before ih =>
      have hindex : index + (binding :: before).length = index + 1 + before.length := by
        rw [List.length_cons, Nat.add_comm before.length, Nat.add_assoc]
      rw [List.cons_append, helpersFrom_cons_eq_ok, hindex]
      simp only [ih]
      constructor
      · rintro ⟨helper, _, hhelper, ⟨first, more, hfirst, hmore, rfl⟩, rfl⟩
        refine ⟨helper :: first, more,
          helpersFrom_cons_eq_ok.mpr ⟨helper, first, hhelper, hfirst, rfl⟩, ?_, rfl⟩
        rwa [taken_cons]
      · rintro ⟨_, more, hall, hmore, rfl⟩
        obtain ⟨helper, first, hhelper, hfirst, rfl⟩ := helpersFrom_cons_eq_ok.mp hall
        rw [taken_cons] at hmore
        exact ⟨helper, first ++ more, hhelper, ⟨first, more, hfirst, hmore, rfl⟩, rfl⟩

theorem helpersFrom_eq_error {ordinal index : Nat} {bindings : List Binding} {stop : Stop} :
    helpersFrom ordinal index taken bindings = .error stop ↔
      ∃ before binding after helpers, bindings = before ++ binding :: after ∧
        helpersFrom ordinal index taken before = .ok helpers ∧
        helperOf binding (binding.eventId ordinal (index + before.length))
          ((helpers.map (·.method)).reverse ++ taken) = .error stop := by
  induction bindings generalizing index taken with
  | nil => simp [helpersFrom]
  | cons binding rest ih =>
      rw [helpersFrom, bind_eq_error]
      constructor
      · rintro (hstop | ⟨helper, hhelper, h⟩)
        · exact ⟨[], binding, rest, [], rfl, rfl, hstop⟩
        · rw [bind_eq_error] at h
          rcases h with h | ⟨more, -, h⟩
          · obtain ⟨before, found, after, helpers, rfl, hbefore, hstop⟩ := ih.mp h
            refine ⟨binding :: before, found, after, helper :: helpers, rfl,
              helpersFrom_cons_eq_ok.mpr ⟨helper, helpers, hhelper, hbefore, rfl⟩, ?_⟩
            rwa [taken_cons, List.length_cons, Nat.add_comm before.length, ← Nat.add_assoc]
          · cases h
      · rintro ⟨before, found, after, helpers, hbindings, hbefore, hstop⟩
        cases before with
        | nil =>
            obtain ⟨rfl, rfl⟩ := List.cons.inj hbindings
            cases hbefore
            exact .inl hstop
        | cons first before =>
            obtain ⟨rfl, rfl⟩ := List.cons.inj hbindings
            obtain ⟨helper, more, hhelper, hmore, rfl⟩ := helpersFrom_cons_eq_ok.mp hbefore
            rw [taken_cons, List.length_cons, Nat.add_comm before.length, ← Nat.add_assoc] at hstop
            exact .inr ⟨helper, hhelper, bind_eq_error.mpr (.inl (ih.mpr
              ⟨before, found, after, more, rfl, hmore, hstop⟩))⟩

theorem mem_paramNames_iff {word : String} (h : Untouched word) {slots : List Slot} :
    word ∈ paramNames slots ↔ ∃ slot ∈ slots, TypedLogging.snake slot.aliasName = word := by
  rw [paramNames, mem_uniqueAll_iff (ne_numbered h.underscore_not_mem) List.not_mem_nil,
    List.mem_map]
  constructor
  · rintro ⟨slot, hslot, he⟩
    exact ⟨slot, hslot, (sanitize_eq_iff h).mp he⟩
  · rintro ⟨slot, hslot, he⟩
    exact ⟨slot, hslot, (sanitize_eq_iff h).mpr he⟩

end TypedLogging.Emission
