import Mathlib.Data.List.Perm.Basic
import TypedLogging.Proofs.Binding.Description

namespace TypedLogging.Binding

/-- The unnamed arguments in their order and the named ones in any, mixed in any way. -/
structure Mixes (unnamed named arguments : List Argument) : Prop where
  unnamed_eq : arguments.filter (·.name.isNone) = unnamed
  named_perm : (arguments.filter (·.name.isSome)).Perm named

def BoundOnce (entries : List Placed) : Prop :=
  ∀ parameter, entries.Pairwise fun first second =>
    ¬(first.place.Denotes parameter ∧ second.place.Denotes parameter)

/-- Arguments that differ in the spelling of a parameter alone. -/
inductive Respelled : Argument → Argument → Prop
  | same (argument : Argument) : Respelled argument argument
  | spelled {parameter : Parameter} {first second : String} (hfirst : parameter.Spelled first)
      (hsecond : parameter.Spelled second) (value : ArgValue) :
      Respelled ⟨some first, value⟩ ⟨some second, value⟩

variable {lookup : Lookup} {location : Location}

section Placing

theorem placedFrom_append (before first second : List Argument) :
    placedFrom before (first ++ second) =
      placedFrom before first ++ placedFrom (before ++ first) second := by
  induction first generalizing before with
  | nil => simp [placedFrom]
  | cons argument rest ih => simp [placedFrom, ih]

def namedEntry (argument : Argument) : Placed := ⟨.of 0 argument, argument.value⟩

theorem of_eq_of_named {argument : Argument} (h : argument.name.isSome) (position : Nat) :
    Place.of position argument = Place.of 0 argument := by
  obtain ⟨name, value⟩ := argument
  cases name with
  | none => cases h
  | some name => rfl

theorem placedFrom_named {named : List Argument} (h : ∀ argument ∈ named, argument.name.isSome)
    (before : List Argument) : placedFrom before named = named.map namedEntry := by
  induction named generalizing before with
  | nil => rfl
  | cons argument rest ih =>
      obtain ⟨hargument, hrest⟩ := List.forall_mem_cons.mp h
      rw [placedFrom, ih hrest, of_eq_of_named hargument]
      rfl

theorem placedFrom_congr {before before' : List Argument}
    (h : countUnnamed before = countUnnamed before') (arguments : List Argument) :
    placedFrom before arguments = placedFrom before' arguments := by
  induction arguments generalizing before before' with
  | nil => rfl
  | cons argument rest ih =>
      have hnext : countUnnamed (before ++ [argument]) = countUnnamed (before' ++ [argument]) := by
        rw [← nextPosition_countUnnamed, ← nextPosition_countUnnamed, h]
      rw [placedFrom, placedFrom, h, ih hnext]

/-- Taken apart, the unnamed and the named arguments have the places that they had together. -/
theorem placedFrom_perm_filter (before arguments : List Argument) :
    (placedFrom before arguments).Perm
      (placedFrom before (arguments.filter (·.name.isNone)) ++
        (arguments.filter (·.name.isSome)).map namedEntry) := by
  induction arguments generalizing before with
  | nil => exact .nil
  | cons argument rest ih =>
      have hrest := ih (before ++ [argument])
      cases hname : argument.name with
      | none =>
          rw [List.filter_cons_of_pos (by simp [hname]), List.filter_cons_of_neg (by simp [hname])]
          exact hrest.cons _
      | some name =>
          have hsome : argument.name.isSome := by rw [hname]; rfl
          have hcount : countUnnamed (before ++ [argument]) = countUnnamed before := by
            simp [countUnnamed, hname]
          rw [placedFrom_congr hcount (rest.filter _)] at hrest
          rw [List.filter_cons_of_neg (by simp [hname]), List.filter_cons_of_pos (by simp [hname]),
            placedFrom, of_eq_of_named hsome, List.map_cons]
          exact (hrest.cons _).trans List.perm_middle.symm

theorem Mixes.placed_perm {unnamed named arguments : List Argument}
    (h : Mixes unnamed named arguments) :
    (placed arguments).Perm (placed (unnamed ++ named)) := by
  have hnamed : ∀ argument ∈ named, argument.name.isSome := by
    intro argument hargument
    exact (List.mem_filter.mp (h.named_perm.mem_iff.mpr hargument)).2
  have hsplit := placedFrom_perm_filter [] arguments
  rw [h.unnamed_eq] at hsplit
  rw [placed, placed, placedFrom_append, placedFrom_named hnamed]
  exact hsplit.trans ((h.named_perm.map namedEntry).append_left _)

end Placing

section Bound

variable {entries entries' : List Placed}

theorem BoundOnce.perm (h : BoundOnce entries) (hperm : entries.Perm entries') :
    BoundOnce entries' := by
  intro parameter
  refine (hperm.pairwise_iff ?_).mp (h parameter)
  exact fun hnot hboth => hnot hboth.symm

theorem BoundOnce.last_iff (h : BoundOnce entries) {field : Field} :
    Last lookup location entries field ↔
      ∃ entry ∈ entries, entry.Gives lookup location field := by
  constructor
  · rintro ⟨earlier, entry, later, rfl, hgives, -⟩
    exact ⟨entry, List.mem_append_cons_self, hgives⟩
  · rintro ⟨entry, hentry, hgives⟩
    obtain ⟨earlier, later, rfl⟩ := List.append_of_mem hentry
    have hlater := (List.pairwise_append.mp (h field.parameter)).2.1
    refine ⟨earlier, entry, later, rfl, hgives, fun other hother hdenotes => ?_⟩
    exact (List.pairwise_cons.mp hlater).1 other hother ⟨hgives.1, hdenotes⟩

theorem Unbound.perm {parameter : Parameter} (h : Unbound entries parameter)
    (hperm : entries.Perm entries') : Unbound entries' parameter :=
  fun entry hentry => h entry (hperm.mem_iff.mpr hentry)

theorem BoundOnce.last_perm (h : BoundOnce entries) (hperm : entries.Perm entries') {field : Field}
    (hlast : Last lookup location entries field) : Last lookup location entries' field := by
  obtain ⟨entry, hentry, hgives⟩ := h.last_iff.mp hlast
  exact (h.perm hperm).last_iff.mpr ⟨entry, hperm.mem_iff.mp hentry, hgives⟩

theorem Yields.perm {binding : Binding} (hyields : Yields lookup location entries binding)
    (h : BoundOnce entries) (hperm : entries.Perm entries') :
    Yields lookup location entries' binding where
  name := h.last_perm hperm hyields.name
  name_ne := hyields.name_ne
  logLevel := h.last_perm hperm hyields.logLevel
  template := h.last_perm hperm hyields.template
  explicitId := hyields.explicitId.imp
    (fun ⟨text, hid, hlast⟩ => ⟨text, hid, h.last_perm hperm hlast⟩)
    (fun ⟨hid, hunbound⟩ => ⟨hid, hunbound.perm hperm⟩)
  scope := hyields.scope.imp (h.last_perm hperm)
    (fun ⟨hscope, hunbound⟩ => ⟨hscope, hunbound.perm hperm⟩)

theorem bind_perm {first second : List Argument} {binding : Binding}
    (honce : BoundOnce (placed first)) (hperm : (placed first).Perm (placed second))
    (h : bind lookup location first = .ok binding) :
    bind lookup location second = .ok binding := by
  have hdescribes : Describes lookup location (placed first) (bind lookup location first) :=
    describes_bind first
  rw [h] at hdescribes
  cases hdescribes with
  | bound hall hyields =>
      exact bind_of_describes (.bound (fun entry hentry => hall entry (hperm.mem_iff.mpr hentry))
        (hyields.perm honce hperm))

end Bound

section Spelling

variable {first second : List Argument}

theorem parameterOf_respelled {first second : Argument} (h : Respelled first second)
    (position : Nat) : parameterOf position first = parameterOf position second := by
  cases h with
  | same => rfl
  | spelled hfirst hsecond value =>
      simp only [parameterOf, Parameter.ofName?_eq_some.mpr hfirst,
        Parameter.ofName?_eq_some.mpr hsecond]

theorem bindFields_respelled (h : List.Forall₂ Respelled first second) (fields : Fields)
    (position : Nat) :
    bindFields lookup location fields position first =
      bindFields lookup location fields position second := by
  induction h generalizing fields position with
  | nil => rfl
  | @cons argument argument' rest rest' hargument _ ih =>
      have hvalue : argument.value = argument'.value := by cases hargument <;> rfl
      have hnext : nextPosition position argument = nextPosition position argument' := by
        cases hargument <;> rfl
      rw [bindFields, bindFields, parameterOf_respelled hargument, hvalue, hnext]
      simp only [ih]

end Spelling

/-- Named arguments may stand anywhere, as long as each parameter has one argument at most, and may be
spelled either way. -/
theorem bind_rearranged (lookup : Lookup) (location : Location) :
    (∀ unnamed named first second, BoundOnce (placed (unnamed ++ named)) →
      Mixes unnamed named first → Mixes unnamed named second → ∀ binding,
        bind lookup location first = .ok binding ↔ bind lookup location second = .ok binding) ∧
    ∀ first second, List.Forall₂ Respelled first second →
      bind lookup location first = bind lookup location second := by
  refine ⟨fun unnamed named first second honce hfirst hsecond binding => ?_, ?_⟩
  · have hfirst := hfirst.placed_perm
    have hsecond := hsecond.placed_perm
    exact ⟨bind_perm (honce.perm hfirst.symm) (hfirst.trans hsecond.symm),
      bind_perm (honce.perm hsecond.symm) (hsecond.trans hfirst.symm)⟩
  · intro first second h
    rw [bind_eq_start, bind_eq_start, bindFields_respelled h]

def startedUnnamed : List Argument :=
  [⟨none, .string "Started"⟩, ⟨none, .member (.logLevel "Debug")⟩]

def startedFormat : Argument := ⟨some "format", .string "\x7bId:u32\x7d"⟩

def startedId (name : String) : Argument := ⟨some name, .number "7"⟩

def startedBinding : Binding where
  name := "Started"
  logLevel := .logLevel "Debug"
  template := ⟨"\x7bId:u32\x7d", "\x7bId\x7d", [⟨"Id", ⟨"u32", "u32"⟩, 0, 4⟩]⟩
  explicitId := some "7"
  scope := .generic

theorem bind_rearranged_started :
    BoundOnce (placed (startedUnnamed ++ [startedFormat, startedId "event_id"])) ∧
      bind .plain ⟨"crate", []⟩ ([startedFormat] ++ startedUnnamed ++ [startedId "event_id"]) =
        .ok startedBinding ∧
      bind .plain ⟨"crate", []⟩ (startedUnnamed.take 1 ++ [startedId "eventId", startedFormat] ++
        startedUnnamed.drop 1) = .ok startedBinding := by
  have honce : BoundOnce (placed (startedUnnamed ++ [startedFormat, startedId "event_id"])) := by
    intro parameter
    cases parameter <;> decide
  have haround : Mixes startedUnnamed [startedFormat, startedId "event_id"]
      ([startedFormat] ++ startedUnnamed ++ [startedId "event_id"]) := ⟨by decide, by decide⟩
  have hbetween : Mixes startedUnnamed [startedFormat, startedId "event_id"]
      (startedUnnamed.take 1 ++ [startedId "event_id", startedFormat] ++
        startedUnnamed.drop 1) := ⟨by decide, by decide⟩
  have hbound : bind .plain ⟨"crate", []⟩
      ([startedFormat] ++ startedUnnamed ++ [startedId "event_id"]) = .ok startedBinding := by
    decide
  have hspelled : List.Forall₂ Respelled
      (startedUnnamed.take 1 ++ [startedId "event_id", startedFormat] ++ startedUnnamed.drop 1)
      (startedUnnamed.take 1 ++ [startedId "eventId", startedFormat] ++ startedUnnamed.drop 1) :=
    .cons (.same _) (.cons (@Respelled.spelled .eventId _ _ (.inr rfl) (.inl rfl) _)
      (.cons (.same _) (.cons (.same _) .nil)))
  obtain ⟨hanywhere, heither⟩ := bind_rearranged .plain ⟨"crate", []⟩
  refine ⟨honce, hbound, ?_⟩
  rw [← heither _ _ hspelled]
  exact (hanywhere _ _ _ _ honce haround hbetween _).mp hbound

end TypedLogging.Binding
