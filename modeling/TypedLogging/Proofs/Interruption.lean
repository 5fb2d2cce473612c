import Mathlib.Tactic.Choose
import TypedLogging.Proofs.Run

namespace TypedLogging

def cancelled : Stop := .fault Failure.cancelled.fault

namespace World

/-- The world in which so many checks pass; without a number, all of them do. -/
def cancelledAfter (world : World) (checks : Option Nat) : World := { world with checksLeft := checks }

def Allows (world : World) (checks : Nat) : Prop :=
  ∀ left, world.checksLeft = some left → checks ≤ left

def spent (world : World) (checks : Nat) : World :=
  { world with checksLeft := world.checksLeft.map (· - checks) }

variable {world : World}

theorem Calm.allows (h : world.Calm) (checks : Nat) : world.Allows checks := by
  intro left hleft
  rw [h] at hleft
  cases hleft

theorem allows_zero (world : World) : world.Allows 0 := fun _ _ => Nat.zero_le _

theorem allows_cancelledAfter_some (world : World) (left checks : Nat) :
    (world.cancelledAfter (some left)).Allows checks ↔ checks ≤ left := by
  constructor
  · exact fun h => h left rfl
  · rintro h _ ⟨⟩
    exact h

theorem allows_add {first second : Nat} :
    world.Allows (first + second) ↔ world.Allows first ∧ (world.spent first).Allows second := by
  obtain ⟨files, outDirVariable, checksLeft, written, records⟩ := world
  cases checksLeft with
  | none => simp [Allows, spent]
  | some left =>
      simp only [Allows, spent, Option.map_some, Option.some.injEq, forall_eq']
      omega

theorem spent_zero (world : World) : world.spent 0 = world := by
  obtain ⟨files, outDirVariable, checksLeft, written, records⟩ := world
  cases checksLeft <;> rfl

theorem spent_spent (world : World) (first second : Nat) :
    (world.spent first).spent second = world.spent (first + second) := by
  obtain ⟨files, outDirVariable, checksLeft, written, records⟩ := world
  cases checksLeft with
  | none => rfl
  | some left =>
      simp only [spent, Option.map_some]
      rw [Nat.sub_sub]

theorem spent_logged (world : World) (checks : Nat) (records : List LogRecord) :
    (world.logged records).spent checks = (world.spent checks).logged records := rfl

theorem cancelledAfter_logged (world : World) (checks : Option Nat) (records : List LogRecord) :
    (world.logged records).cancelledAfter checks = (world.cancelledAfter checks).logged records :=
  rfl

theorem cancelledAfter_spent (world : World) (spent : Nat) (checks : Option Nat) :
    (world.spent spent).cancelledAfter checks = world.cancelledAfter checks := rfl

theorem Calm.spent (h : world.Calm) (checks : Nat) : world.spent checks = world := by
  obtain ⟨files, outDirVariable, checksLeft, written, records⟩ := world
  cases (h : checksLeft = none)
  rfl

end World

/-- What a run does that only reads. -/
structure Reading (α : Type) where
  checks : Nat
  result : Except Stop α
  records : List LogRecord

namespace Reading

variable {α β : Type}

/-- One reading after another, unless the first one fails. -/
def andThen (first : Reading α) (next : α → Reading β) : Reading β :=
  match first.result with
  | .ok a =>
    ⟨first.checks + (next a).checks, (next a).result, first.records ++ (next a).records⟩
  | .error stop => ⟨first.checks, .error stop, first.records⟩

theorem andThen_of_ok {first : Reading α} {a : α} (h : first.result = .ok a)
    (next : α → Reading β) : first.andThen next =
      ⟨first.checks + (next a).checks, (next a).result, first.records ++ (next a).records⟩ := by
  rw [andThen, h]

theorem andThen_of_error {first : Reading α} {stop : Stop} (h : first.result = .error stop)
    (next : α → Reading β) :
    first.andThen next = ⟨first.checks, .error stop, first.records⟩ := by
  rw [andThen, h]

end Reading

namespace Run

variable {α β : Type} {world after : World}

/-- The run does what the reading says if it may finish, and otherwise only logs. -/
structure Follows (run : Run (StateM World) α) (reading : Files → Reading α) : Prop where
  finishes : ∀ world : World, world.Allows (reading world.files).checks →
    run.on world = ((reading world.files).result,
      (world.spent (reading world.files).checks).logged (reading world.files).records)
  stops : ∀ world : World, ¬ world.Allows (reading world.files).checks →
    ∃ records, run.on world = (.error cancelled, (world.cancelledAfter (some 0)).logged records)

theorem follows_of_on {run : Run (StateM World) α} {result : Files → Except Stop α}
    {records : List LogRecord}
    (h : ∀ world, run.on world = (result world.files, world.logged records)) :
    run.Follows fun files => ⟨0, result files, records⟩ where
  finishes world _ := by
    rw [h, World.spent_zero]
  stops world hstops := absurd world.allows_zero hstops

theorem follows_check : (check (m := StateM World)).Follows fun _ => ⟨1, .ok (), []⟩ where
  finishes world hallows := by
    obtain ⟨files, outDirVariable, checksLeft, written, records⟩ := world
    cases checksLeft with
    | none =>
        rw [World.logged_nil]
        exact on_check rfl
    | some left =>
        cases left with
        | zero => exact absurd (hallows 0 rfl) (by decide)
        | succ left =>
            rw [World.logged_nil]
            rfl
  stops world hstops := by
    obtain ⟨files, outDirVariable, checksLeft, written, records⟩ := world
    cases checksLeft with
    | none => exact absurd (World.Calm.allows (show World.Calm ⟨_, _, none, _, _⟩ from rfl) 1) hstops
    | some left =>
        cases left with
        | zero =>
            refine ⟨[], ?_⟩
            rw [World.logged_nil]
            rfl
        | succ left =>
            apply absurd _ hstops
            intro other hother
            cases hother
            exact Nat.le_add_left 1 left

theorem Follows.bind {run : Run (StateM World) α} {next : α → Run (StateM World) β}
    {first : Files → Reading α} {second : α → Files → Reading β} (hrun : run.Follows first)
    (hnext : ∀ a, (next a).Follows (second a)) :
    (run >>= next).Follows fun files => (first files).andThen fun a => second a files where
  finishes world hallows := by
    cases hresult : (first world.files).result with
    | error stop =>
        rw [Reading.andThen_of_error hresult] at hallows ⊢
        rw [on_bind, hrun.finishes world hallows, hresult]
    | ok a =>
        rw [Reading.andThen_of_ok hresult] at hallows ⊢
        obtain ⟨hfirst, hsecond⟩ := World.allows_add.mp hallows
        have hon := hrun.finishes world hfirst
        rw [hresult] at hon
        have hon' := (hnext a).finishes ((world.spent (first world.files).checks).logged
          (first world.files).records) hsecond
        rw [on_bind_of_ok hon, hon', World.spent_logged, World.logged_logged, World.spent_spent]
        rfl
  stops world hstops := by
    -- the checks run out in the second run, or in the first one already
    by_cases hfirst : world.Allows (first world.files).checks
    · have hon := hrun.finishes world hfirst
      cases hresult : (first world.files).result with
      | error stop =>
          rw [Reading.andThen_of_error hresult] at hstops
          exact absurd hfirst hstops
      | ok a =>
          rw [Reading.andThen_of_ok hresult] at hstops
          rw [hresult] at hon
          have hsecond : ¬ (world.spent (first world.files).checks).Allows
              (second a world.files).checks :=
            fun h => hstops (World.allows_add.mpr ⟨hfirst, h⟩)
          obtain ⟨records, hrecords⟩ := (hnext a).stops
            ((world.spent (first world.files).checks).logged (first world.files).records) hsecond
          rw [on_bind_of_ok hon, hrecords, World.cancelledAfter_logged, World.cancelledAfter_spent,
            World.logged_logged]
          exact ⟨_, rfl⟩
    · obtain ⟨records, hrecords⟩ := hrun.stops world hfirst
      exact ⟨records, by rw [on_bind, hrecords]⟩

variable {run : Run (StateM World) α} {reading : Files → Reading α} {result : Except Stop α}

theorem Follows.on_of_calm (h : run.Follows reading) (hworld : world.Calm) :
    run.on world = ((reading world.files).result, world.logged (reading world.files).records) := by
  rw [h.finishes world (hworld.allows _), hworld.spent]

theorem Follows.untouched (h : run.Follows reading) (hon : run.on world = (result, after)) :
    after.files = world.files ∧ after.written = world.written ∧
      after.outDirVariable = world.outDirVariable := by
  by_cases hallows : world.Allows (reading world.files).checks
  · cases hon.symm.trans (h.finishes world hallows)
    exact ⟨rfl, rfl, rfl⟩
  · obtain ⟨records, hrecords⟩ := h.stops world hallows
    cases hon.symm.trans hrecords
    exact ⟨rfl, rfl, rfl⟩

theorem Follows.result_of_ne (h : run.Follows reading) (hon : run.on world = (result, after))
    (hresult : result ≠ .error cancelled) : result = (reading world.files).result := by
  by_cases hallows : world.Allows (reading world.files).checks
  · cases hon.symm.trans (h.finishes world hallows)
    rfl
  · obtain ⟨records, hrecords⟩ := h.stops world hallows
    cases hon.symm.trans hrecords
    exact absurd rfl hresult

theorem Follows.on_cancelledAfter (h : run.Follows reading) (world : World) (left : Nat) :
    (run.on (world.cancelledAfter (some left))).1 =
      if left < (reading world.files).checks then .error cancelled
      else (reading world.files).result := by
  by_cases hleft : left < (reading world.files).checks
  · have hstops : ¬ (world.cancelledAfter (some left)).Allows (reading world.files).checks := by
      rw [World.allows_cancelledAfter_some]
      exact Nat.not_le_of_lt hleft
    obtain ⟨records, hrecords⟩ := h.stops _ hstops
    rw [if_pos hleft, hrecords]
  · have hallows : (world.cancelledAfter (some left)).Allows (reading world.files).checks := by
      rw [World.allows_cancelledAfter_some]
      exact Nat.le_of_not_lt hleft
    rw [if_neg hleft, h.finishes _ hallows]
    rfl

/-- What the run does is read from the files. -/
def Interruptible (run : Run (StateM World) α) : Prop := ∃ reading, run.Follows reading

namespace Interruptible

theorem readsOnly (h : run.Interruptible) : run.ReadsOnly := by
  obtain ⟨reading, hreading⟩ := h
  exact ⟨fun files => ((reading files).result, (reading files).records),
    fun world hworld => hreading.on_of_calm hworld⟩

theorem untouched (h : run.Interruptible) (hon : run.on world = (result, after)) :
    after.files = world.files ∧ after.written = world.written ∧
      after.outDirVariable = world.outDirVariable := by
  obtain ⟨reading, hreading⟩ := h
  exact hreading.untouched hon

theorem bind {next : α → Run (StateM World) β} (hrun : run.Interruptible)
    (hnext : ∀ a, (next a).Interruptible) : Interruptible (run >>= next) := by
  obtain ⟨first, hfirst⟩ := hrun
  choose second hsecond using hnext
  exact ⟨_, hfirst.bind hsecond⟩

end Interruptible

/-- What the run does is the same whatever files there are. -/
def Steady (run : Run (StateM World) α) : Prop := ∃ reading : Reading α, run.Follows fun _ => reading

namespace Steady

theorem interruptible (h : run.Steady) : run.Interruptible := by
  obtain ⟨reading, hreading⟩ := h
  exact ⟨_, hreading⟩

theorem bind {next : α → Run (StateM World) β} (hrun : run.Steady) (hnext : ∀ a, (next a).Steady) :
    Steady (run >>= next) := by
  obtain ⟨first, hfirst⟩ := hrun
  choose second hsecond using hnext
  exact ⟨_, hfirst.bind hsecond⟩

theorem on_eq_ok (h : run.Steady) {a : α} (hon : run.on world = (.ok a, after)) {other : World}
    (hother : other.Calm) : ∃ records, run.on other = (.ok a, other.logged records) := by
  obtain ⟨reading, hreading⟩ := h
  have hresult := hreading.result_of_ne hon nofun
  exact ⟨reading.records, by rw [hreading.on_of_calm hother, ← hresult]⟩

theorem result_eq (h : run.Steady) (hresult : (run.on world).1 ≠ .error cancelled) {other : World}
    (hother : other.Calm) : (run.on world).1 = (run.on other).1 := by
  obtain ⟨reading, hreading⟩ := h
  have hon : run.on world = ((run.on world).1, (run.on world).2) := rfl
  rw [hreading.on_of_calm hother]
  exact hreading.result_of_ne hon hresult

end Steady

theorem follows_pure (a : α) : (pure a : Run (StateM World) α).Follows fun _ => ⟨0, .ok a, []⟩ := by
  apply follows_of_on
  intro world
  rw [on_pure, World.logged_nil]

theorem follows_throw (stop : Stop) :
    (throw stop : Run (StateM World) α).Follows fun _ => ⟨0, .error stop, []⟩ := by
  apply follows_of_on
  intro world
  rw [on_throw, World.logged_nil]

theorem follows_logAll (records : List LogRecord) :
    (logAll (m := StateM World) records).Follows fun _ => ⟨0, .ok (), records⟩ :=
  follows_of_on fun world => on_logAll records world

theorem follows_log (level : LogLevel) (target text : String) :
    (log (m := StateM World) level target text).Follows
      fun _ => ⟨0, .ok (), [⟨level, target, text⟩]⟩ :=
  follows_of_on fun world => on_log level target text world

theorem follows_readFile (path : String) :
    Follows (ExceptT.lift (Host.readFile (m := StateM World) path))
      fun files => ⟨0, .ok (files.read path), []⟩ := by
  refine follows_of_on fun world => ?_
  rw [on_readFile, World.logged_nil]

theorem steady_pure (a : α) : Steady (pure a) := ⟨_, follows_pure a⟩

theorem steady_throw (stop : Stop) : Steady (throw stop : Run (StateM World) α) :=
  ⟨_, follows_throw stop⟩

theorem steady_check : Steady (check (m := StateM World)) := ⟨_, follows_check⟩

theorem steady_logAll (records : List LogRecord) : Steady (logAll (m := StateM World) records) :=
  ⟨_, follows_logAll records⟩

theorem steady_log (level : LogLevel) (target text : String) :
    Steady (log (m := StateM World) level target text) := ⟨_, follows_log level target text⟩

theorem steady_orFail (failure : Failure) (result : Except IoFault α) :
    Steady (orFail (m := StateM World) failure result) := by
  cases result with
  | ok value => exact steady_pure value
  | error fault => exact steady_throw _

theorem steady_orStop (result : Except Stop α) :
    Steady (orStop (m := StateM World) result) := by
  cases result with
  | ok value => exact steady_pure value
  | error stop => exact steady_throw stop

end Run

end TypedLogging
