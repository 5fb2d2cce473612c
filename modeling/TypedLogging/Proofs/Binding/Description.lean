import TypedLogging.Proofs.Binding.Entries

namespace TypedLogging.Binding

open Outcome

section Specification

variable (lookup : Lookup) (location : Location)

/-- The last argument of the parameter gives the field. -/
def Last (entries : List Placed) (field : Field) : Prop :=
  ∃ earlier entry later, entries = earlier ++ entry :: later ∧ entry.Gives lookup location field ∧
    ∀ other ∈ later, ¬other.place.Denotes field.parameter

def Unbound (entries : List Placed) (parameter : Parameter) : Prop :=
  ∀ entry ∈ entries, ¬entry.place.Denotes parameter

structure Yields (entries : List Placed) (binding : Binding) : Prop where
  name : Last lookup location entries (.name binding.name)
  name_ne : binding.name ≠ ""
  logLevel : Last lookup location entries (.logLevel binding.logLevel)
  template : Last lookup location entries (.format binding.template)
  explicitId : (∃ text, binding.explicitId = some text ∧ Last lookup location entries (.eventId text)) ∨
    binding.explicitId = none ∧ Unbound entries .eventId
  scope : Last lookup location entries (.extensionScope binding.scope) ∨
    binding.scope = .generic ∧ Unbound entries .extensionScope

/-- The outcome of binding: the fault of the first argument that has one, else the first required
parameter that is missing, else the binding that the last arguments give. -/
inductive Describes (entries : List Placed) : Except BindError Binding → Prop
  | faulty {earlier later : List Placed} {entry : Placed} {error : BindError}
      (hentries : entries = earlier ++ entry :: later)
      (hearlier : ∀ other ∈ earlier, other.Acceptable lookup location)
      (hfault : entry.Faults lookup location error) : Describes entries (.error error)
  | noName (hall : ∀ entry ∈ entries, entry.Acceptable lookup location)
      (hname : Unbound entries .name ∨ Last lookup location entries (.name "")) :
      Describes entries (.error (.missing .name))
  | noLevel (hall : ∀ entry ∈ entries, entry.Acceptable lookup location) {text : String}
      (hname : Last lookup location entries (.name text)) (hne : text ≠ "")
      (hlevel : Unbound entries .logLevel) : Describes entries (.error (.missing .logLevel))
  | noFormat (hall : ∀ entry ∈ entries, entry.Acceptable lookup location) {text : String}
      {path : MemberRef} (hname : Last lookup location entries (.name text)) (hne : text ≠ "")
      (hlevel : Last lookup location entries (.logLevel path)) (hformat : Unbound entries .format) :
      Describes entries (.error (.missing .format))
  | bound (hall : ∀ entry ∈ entries, entry.Acceptable lookup location) {binding : Binding}
      (hyields : Yields lookup location entries binding) : Describes entries (.ok binding)

end Specification

variable {lookup : Lookup} {location : Location}

section Run

variable {before arguments : List Argument} {fields result : Fields} {error : BindError}

theorem bindFields_eq_error :
    bindFields lookup location fields (countUnnamed before) arguments = .error error ↔
      ∃ earlier entry later, placedFrom before arguments = earlier ++ entry :: later ∧
        (∀ other ∈ earlier, other.Acceptable lookup location) ∧
        entry.Faults lookup location error := by
  induction arguments generalizing before fields with
  | nil => simp [bindFields, placedFrom]
  | cons argument rest ih =>
      rw [bindFields_cons_eq_error, nextPosition_countUnnamed, placedFrom]
      constructor
      · rintro (hfault | ⟨field, hgives, hrest⟩)
        · exact ⟨[], _, _, rfl, List.forall_mem_nil _, hfault⟩
        · obtain ⟨earlier, entry, later, hentries, hearlier, hfault⟩ := ih.mp hrest
          refine ⟨_ :: earlier, entry, later, congrArg _ hentries, ?_, hfault⟩
          exact List.forall_mem_cons.mpr ⟨⟨field, hgives⟩, hearlier⟩
      · rintro ⟨earlier, entry, later, hentries, hearlier, hfault⟩
        cases earlier with
        | nil =>
            obtain ⟨rfl, -⟩ := List.cons.inj hentries
            exact .inl hfault
        | cons first earlier =>
            obtain ⟨rfl, hrest⟩ := List.cons.inj hentries
            obtain ⟨⟨field, hgives⟩, hearlier⟩ := List.forall_mem_cons.mp hearlier
            exact .inr ⟨field, hgives, ih.mpr ⟨earlier, entry, later, hrest, hearlier, hfault⟩⟩

theorem last_cons {entry : Placed} {rest : List Placed} {field : Field} :
    Last lookup location (entry :: rest) field ↔ Last lookup location rest field ∨
      entry.Gives lookup location field ∧ Unbound rest field.parameter := by
  constructor
  · rintro ⟨earlier, found, later, hentries, hgives, hlater⟩
    cases earlier with
    | nil =>
        obtain ⟨rfl, rfl⟩ := List.cons.inj hentries
        exact .inr ⟨hgives, hlater⟩
    | cons first earlier =>
        obtain ⟨-, rfl⟩ := List.cons.inj hentries
        exact .inl ⟨earlier, found, later, rfl, hgives, hlater⟩
  · rintro (⟨earlier, found, later, rfl, hgives, hlater⟩ | ⟨hgives, hrest⟩)
    · exact ⟨entry :: earlier, found, later, rfl, hgives, hlater⟩
    · exact ⟨[], entry, rest, rfl, hgives, hrest⟩

theorem acceptable_of_bindFields
    (h : bindFields lookup location fields (countUnnamed before) arguments = .ok result) :
    ∀ entry ∈ placedFrom before arguments, entry.Acceptable lookup location := by
  induction arguments generalizing before fields with
  | nil => exact List.forall_mem_nil _
  | cons argument rest ih =>
      obtain ⟨field, hgives, hrest⟩ := bindFields_cons_eq_put.mp h
      rw [nextPosition_countUnnamed] at hrest
      exact List.forall_mem_cons.mpr ⟨⟨field, hgives⟩, ih hrest⟩

theorem get_of_bindFields
    (h : bindFields lookup location fields (countUnnamed before) arguments = .ok result)
    (parameter : Parameter) :
    Unbound (placedFrom before arguments) parameter ∧
        result.get parameter = fields.get parameter ∨
      ∃ field, field.parameter = parameter ∧
        Last lookup location (placedFrom before arguments) field ∧
        result.get parameter = some field := by
  induction arguments generalizing before fields with
  | nil =>
      obtain rfl := Except.ok.inj h
      exact .inl ⟨List.forall_mem_nil _, rfl⟩
  | cons argument rest ih =>
      obtain ⟨field, hgives, hrest⟩ := bindFields_cons_eq_put.mp h
      rw [nextPosition_countUnnamed] at hrest
      rw [placedFrom]
      rcases ih hrest with ⟨hunbound, hget⟩ | ⟨later, rfl, hlater, hget⟩
      · rw [Fields.get_put] at hget
        split at hget
        · next he =>
            subst he
            exact .inr ⟨field, rfl, last_cons.mpr (.inr ⟨hgives, hunbound⟩), hget⟩
        · next hne =>
            refine .inl ⟨List.forall_mem_cons.mpr ⟨fun hdenotes => ?_, hunbound⟩, hget⟩
            exact hne (hgives.1.unique hdenotes)
      · exact .inr ⟨later, rfl, last_cons.mpr (.inl hlater), hget⟩

theorem Reads.unique {value : ArgValue} {first second : Field}
    (hfirst : Reads lookup location value first) (hsecond : Reads lookup location value second)
    (hparameter : first.parameter = second.parameter) : first = second := by
  cases hfirst with
  | format _ hparse =>
      cases hsecond with
      | format _ hparse' => rw [Except.ok.inj (hparse.symm.trans hparse')]
      | _ => cases hparameter
  | generic h =>
      cases hsecond with
      | generic => rfl
      | interface h' => exact absurd (h.symm.trans h') (by decide)
      | _ => cases hparameter
  | interface h =>
      cases hsecond with
      | interface => rfl
      | generic h' => exact absurd (h.symm.trans h') (by decide)
      | _ => cases hparameter
  | name | logLevel | number | string => cases hsecond <;> first | rfl | cases hparameter

theorem Last.not_unbound {entries : List Placed} {field : Field}
    (h : Last lookup location entries field) : ¬Unbound entries field.parameter := by
  obtain ⟨earlier, entry, later, rfl, hgives, -⟩ := h
  exact fun hunbound => hunbound entry List.mem_append_cons_self hgives.1

theorem Last.unique {entries : List Placed} {first second : Field}
    (hfirst : Last lookup location entries first) (hsecond : Last lookup location entries second)
    (hparameter : first.parameter = second.parameter) : first = second := by
  induction entries with
  | nil =>
      obtain ⟨earlier, entry, later, hentries, -⟩ := hfirst
      cases earlier <;> cases hentries
  | cons entry rest ih =>
      rcases last_cons.mp hfirst with hfirst | ⟨hfirst, hrest⟩
      · rcases last_cons.mp hsecond with hsecond | ⟨-, hrest⟩
        · exact ih hfirst hsecond
        · exact absurd (hparameter ▸ hrest) hfirst.not_unbound
      · rcases last_cons.mp hsecond with hsecond | ⟨hsecond, -⟩
        · exact absurd (hparameter ▸ hrest) hsecond.not_unbound
        · exact hfirst.2.unique hsecond.2 hparameter

theorem get_of_last
    (h : bindFields lookup location fields (countUnnamed before) arguments = .ok result)
    {field : Field} (hlast : Last lookup location (placedFrom before arguments) field) :
    result.get field.parameter = some field := by
  rcases get_of_bindFields h field.parameter with ⟨hunbound, -⟩ | ⟨other, he, hother, hget⟩
  · exact absurd hunbound hlast.not_unbound
  · rw [hget, hother.unique hlast he]

theorem get_of_unbound
    (h : bindFields lookup location fields (countUnnamed before) arguments = .ok result)
    {parameter : Parameter} (hunbound : Unbound (placedFrom before arguments) parameter) :
    result.get parameter = fields.get parameter := by
  rcases get_of_bindFields h parameter with ⟨-, hget⟩ | ⟨other, rfl, hother, -⟩
  · exact hget
  · exact absurd hunbound hother.not_unbound

theorem exists_bindFields (fields : Fields)
    (hall : ∀ entry ∈ placedFrom before arguments, entry.Acceptable lookup location) :
    ∃ result, bindFields lookup location fields (countUnnamed before) arguments = .ok result := by
  cases h : bindFields lookup location fields (countUnnamed before) arguments with
  | ok result => exact ⟨result, rfl⟩
  | error error =>
      obtain ⟨earlier, entry, later, hentries, -, hfault⟩ := bindFields_eq_error.mp h
      have hentry := hall entry (hentries ▸ List.mem_append_cons_self)
      exact absurd hentry (entry.not_acceptable_iff.mpr ⟨error, hfault⟩)

end Run

section Completed

variable {arguments : List Argument} {result : Fields}

theorem required_eq_error {α : Type} {parameter : Parameter} {field : Option α}
    {error : BindError} :
    required parameter field = .error error ↔ field = none ∧ error = .missing parameter := by
  cases field <;> simp [required, eq_comm]

theorem Fields.complete_eq_error {fields : Fields} {error : BindError} :
    fields.complete = .error error ↔
      fields.name.filter (· ≠ "") = none ∧ error = .missing .name ∨
      ∃ text, (fields.name = some text ∧ text ≠ "") ∧
        (fields.logLevel = none ∧ error = .missing .logLevel ∨
          ∃ path, fields.logLevel = some path ∧ fields.template = none ∧
            error = .missing .format) := by
  simp only [Fields.complete, bind_eq_error, required_eq_ok, required_eq_error,
    Option.filter_eq_some_iff, decide_eq_true_eq, pure, Except.pure, reduceCtorEq, and_false,
    exists_false, or_false]

theorem last_of_get (h : bindFields lookup location .empty (countUnnamed []) arguments = .ok result)
    {field : Field} (hget : result.get field.parameter = some field)
    (hempty : Fields.empty.get field.parameter ≠ some field) :
    Last lookup location (placed arguments) field := by
  rcases get_of_bindFields h field.parameter with ⟨-, hkept⟩ | ⟨other, -, hother, hset⟩
  · exact absurd (hkept.symm.trans hget) hempty
  · rw [hget] at hset
    exact Option.some.inj hset ▸ hother

theorem unbound_of_get
    (h : bindFields lookup location .empty (countUnnamed []) arguments = .ok result)
    {parameter : Parameter} (hget : result.get parameter = none) :
    Unbound (placed arguments) parameter := by
  rcases get_of_bindFields h parameter with ⟨hunbound, -⟩ | ⟨other, -, -, hset⟩
  · exact hunbound
  · rw [hget] at hset
    cases hset

theorem bind_eq_start (arguments : List Argument) : bind lookup location arguments =
    bindFields lookup location .empty (countUnnamed []) arguments >>= Fields.complete := rfl

theorem describes_complete
    (h : bindFields lookup location .empty (countUnnamed []) arguments = .ok result) :
    Describes lookup location (placed arguments) result.complete := by
  have hall := acceptable_of_bindFields h
  have hname {text : String} (he : result.name = some text) :
      Last lookup location (placed arguments) (.name text) :=
    last_of_get h (by simp [he]) nofun
  have hlevel {path : MemberRef} (he : result.logLevel = some path) :
      Last lookup location (placed arguments) (.logLevel path) :=
    last_of_get h (by simp [he]) nofun
  cases hcomplete : result.complete with
  | error error =>
      rcases Fields.complete_eq_error.mp hcomplete with
        ⟨hmissing, rfl⟩ | ⟨text, ⟨htext, hne⟩, ⟨hmissing, rfl⟩ | ⟨path, hpath, hmissing, rfl⟩⟩
      · refine .noName hall ?_
        cases hresult : result.name with
        | none => exact .inl (unbound_of_get h (by simp [hresult]))
        | some text =>
            rw [hresult, Option.filter_some] at hmissing
            have hempty : text = "" := by simpa using hmissing
            exact .inr (hname (hempty ▸ hresult))
      · exact .noLevel hall (hname htext) hne (unbound_of_get h (by simp [hmissing]))
      · exact .noFormat hall (hname htext) hne (hlevel hpath) (unbound_of_get h (by simp [hmissing]))
  | ok binding =>
      obtain ⟨htext, hne, hpath, htemplate, hid, hscope⟩ := Fields.complete_eq_ok.mp hcomplete
      refine .bound hall ⟨hname htext, hne, hlevel hpath, ?_, ?_, ?_⟩
      · exact last_of_get h (by simp [htemplate]) nofun
      · rw [← hid]
        cases hresult : result.explicitId with
        | none => exact .inr ⟨rfl, unbound_of_get h (by simp [hresult])⟩
        | some text =>
            exact .inl ⟨text, rfl, last_of_get h (by simp [hresult]) nofun⟩
      · rw [← hscope]
        rcases get_of_bindFields h .extensionScope with ⟨hunbound, hkept⟩ | ⟨other, -, hother, hset⟩
        · exact .inr ⟨by simpa [Fields.empty] using hkept, hunbound⟩
        · obtain rfl := Option.some.inj hset
          exact .inl hother

theorem describes_bind (arguments : List Argument) :
    Describes lookup location (placed arguments) (bind lookup location arguments) := by
  cases h : bindFields lookup location .empty (countUnnamed []) arguments with
  | error error =>
      obtain ⟨earlier, entry, later, hentries, hearlier, hfault⟩ := bindFields_eq_error.mp h
      rw [bind_eq_start, h]
      exact .faulty hentries hearlier hfault
  | ok result =>
      rw [bind_eq_start, h]
      exact describes_complete h

theorem bind_of_describes {outcome : Except BindError Binding}
    (h : Describes lookup location (placed arguments) outcome) :
    bind lookup location arguments = outcome := by
  have hcomplete (hall : ∀ entry ∈ placed arguments, entry.Acceptable lookup location) :
      ∃ result, bindFields lookup location .empty (countUnnamed []) arguments = .ok result ∧
        bind lookup location arguments = result.complete := by
    obtain ⟨result, hresult⟩ := exists_bindFields .empty hall
    rw [bind_eq_start, hresult]
    exact ⟨result, rfl, rfl⟩
  cases h with
  | faulty hentries hearlier hfault =>
      exact bind_eq_error.mpr
        (.inl (bindFields_eq_error.mpr ⟨_, _, _, hentries, hearlier, hfault⟩))
  | noName hall hname =>
      obtain ⟨result, hresult, hbind⟩ := hcomplete hall
      rw [hbind, Fields.complete_eq_error]
      refine .inl ⟨?_, rfl⟩
      rcases hname with hname | hname
      · have hget := get_of_unbound hresult hname
        simp_all [Fields.empty]
      · have hget := get_of_last hresult hname
        simp_all
  | noLevel hall hname hne hlevel =>
      obtain ⟨result, hresult, hbind⟩ := hcomplete hall
      have hname := get_of_last hresult hname
      have hlevel := get_of_unbound hresult hlevel
      rw [hbind, Fields.complete_eq_error]
      exact .inr ⟨_, ⟨by simpa using hname, hne⟩,
        .inl ⟨by simpa [Fields.empty] using hlevel, rfl⟩⟩
  | noFormat hall hname hne hlevel hformat =>
      obtain ⟨result, hresult, hbind⟩ := hcomplete hall
      have hname := get_of_last hresult hname
      have hlevel := get_of_last hresult hlevel
      have hformat := get_of_unbound hresult hformat
      rw [hbind, Fields.complete_eq_error]
      exact .inr ⟨_, ⟨by simpa using hname, hne⟩,
        .inr ⟨_, by simpa using hlevel, by simpa [Fields.empty] using hformat, rfl⟩⟩
  | bound hall hyields =>
      obtain ⟨result, hresult, hbind⟩ := hcomplete hall
      have hname := get_of_last hresult hyields.name
      have hlevel := get_of_last hresult hyields.logLevel
      have htemplate := get_of_last hresult hyields.template
      rw [hbind, Fields.complete_eq_ok]
      refine ⟨by simpa using hname, hyields.name_ne, by simpa using hlevel, by simpa using htemplate,
        ?_, ?_⟩
      · rcases hyields.explicitId with ⟨text, hid, hlast⟩ | ⟨hid, hunbound⟩
        · have hget := get_of_last hresult hlast
          simpa [hid] using hget
        · have hget := get_of_unbound hresult hunbound
          simpa [Fields.empty, hid] using hget
      · rcases hyields.scope with hlast | ⟨hscope, hunbound⟩
        · have hget := get_of_last hresult hlast
          simpa using hget
        · have hget := get_of_unbound hresult hunbound
          simpa [Fields.empty, hscope] using hget

end Completed

/-- Binding does what its arguments describe, and nothing else; an argument is not acceptable exactly if
it has a fault. -/
theorem bind_eq_iff_describes (lookup : Lookup) (location : Location) :
    (∀ arguments outcome, bind lookup location arguments = outcome ↔
      Describes lookup location (placed arguments) outcome) ∧
    ∀ entry : Placed, ¬entry.Acceptable lookup location ↔
      ∃ error, entry.Faults lookup location error := by
  refine ⟨fun arguments outcome => ⟨?_, bind_of_describes⟩, Placed.not_acceptable_iff⟩
  rintro rfl
  exact describes_bind arguments

end TypedLogging.Binding
