import TypedLogging.Generator
import TypedLogging.World

namespace TypedLogging

namespace World

/-- A world in which no run is ever cancelled. -/
def Calm (world : World) : Prop := world.checksLeft = none

def logged (world : World) (records : List LogRecord) : World :=
  { world with records := world.records ++ records }

theorem logged_nil (world : World) : world.logged [] = world := by
  simp only [logged, List.append_nil]

theorem logged_logged (world : World) (first second : List LogRecord) :
    (world.logged first).logged second = world.logged (first ++ second) := by
  simp only [logged, List.append_assoc]

theorem Calm.logged {world : World} (h : world.Calm) (records : List LogRecord) :
    (world.logged records).Calm := h

theorem Calm.run_isCancelled {world : World} (h : world.Calm) :
    isCancelled.run world = (false, world) := by
  obtain ⟨files, outDirVariable, checksLeft, written, records⟩ := world
  cases (h : checksLeft = none)
  rfl

end World

namespace Run

open World (Calm)

/-- What a run gives in a world, and the world it leaves. -/
def on {α : Type} (run : Run (StateM World) α) (world : World) : Except Stop α × World :=
  StateT.run (ExceptT.run run) world

variable {α β : Type} {world after : World}

theorem on_pure (a : α) (world : World) :
    (pure a : Run (StateM World) α).on world = (.ok a, world) := rfl

theorem on_throw (stop : Stop) (world : World) :
    (throw stop : Run (StateM World) α).on world = (.error stop, world) := rfl

theorem on_bind (run : Run (StateM World) α) (next : α → Run (StateM World) β) (world : World) :
    (run >>= next).on world = match run.on world with
      | (.ok a, between) => (next a).on between
      | (.error stop, between) => (.error stop, between) := by
  unfold on ExceptT.run StateT.run
  simp only [Bind.bind, ExceptT.bind, ExceptT.mk, StateT.bind]
  cases run world with
  | mk result between => cases result <;> rfl

theorem on_bind_of_ok {run : Run (StateM World) α} {between : World} {a : α}
    (h : run.on world = (.ok a, between)) (next : α → Run (StateM World) β) :
    (run >>= next).on world = (next a).on between := by
  rw [on_bind, h]

theorem on_bind_eq_ok {run : Run (StateM World) α} {next : α → Run (StateM World) β} {b : β} :
    (run >>= next).on world = (.ok b, after) ↔
      ∃ a between, run.on world = (.ok a, between) ∧ (next a).on between = (.ok b, after) := by
  rw [on_bind]
  rcases run.on world with ⟨result, between⟩
  cases result with
  | error stop => simp
  | ok a =>
      constructor
      · exact fun h => ⟨a, between, rfl, h⟩
      · rintro ⟨_, _, he, h⟩
        cases he
        exact h

theorem on_bind_cases {run : Run (StateM World) α} {next : α → Run (StateM World) β}
    {result : Except Stop β} (h : (run >>= next).on world = (result, after)) :
    (∃ a between, run.on world = (.ok a, between) ∧ (next a).on between = (result, after)) ∨
      ∃ stop, result = .error stop ∧ run.on world = (.error stop, after) := by
  rw [on_bind] at h
  cases hrun : run.on world with
  | mk outcome between =>
      rw [hrun] at h
      cases outcome with
      | ok a => exact .inl ⟨a, between, rfl, h⟩
      | error stop =>
          cases h
          exact .inr ⟨stop, rfl, rfl⟩

theorem exists_on_eq_ok {run : Run (StateM World) α} (h : (run.on world).1.isOk = true) :
    ∃ a after, run.on world = (.ok a, after) := by
  cases hon : run.on world with
  | mk result after =>
      cases result with
      | ok a => exact ⟨a, after, rfl⟩
      | error stop =>
          rw [hon] at h
          cases h

theorem on_lift (action : StateM World α) (world : World) :
    on (ExceptT.lift action) world = (.ok (action.run world).1, (action.run world).2) := rfl

theorem on_readFile (path : String) (world : World) :
    on (ExceptT.lift (Host.readFile path)) world = (.ok (world.files.read path), world) := rfl

theorem on_check (h : world.Calm) : (check (m := StateM World)).on world = (.ok (), world) := by
  have hcancelled : on (ExceptT.lift World.isCancelled) world = (.ok false, world) := by
    rw [on_lift, h.run_isCancelled]
  exact on_bind_of_ok hcancelled _

theorem on_log (level : LogLevel) (target text : String) (world : World) :
    (log (m := StateM World) level target text).on world =
      (.ok (), world.logged [⟨level, target, text⟩]) := rfl

theorem on_logAll (records : List LogRecord) (world : World) :
    (logAll (m := StateM World) records).on world = (.ok (), world.logged records) := by
  induction records generalizing world with
  | nil =>
      rw [World.logged_nil]
      rfl
  | cons record rest ih =>
      have hrecord : on (ExceptT.lift (Host.log record)) world = (.ok (), world.logged [record]) :=
        rfl
      rw [logAll, on_bind_of_ok hrecord, ih, World.logged_logged, List.singleton_append]

/-- A run that changes nothing in a calm world but its log. What it gives and logs depends on the files
alone. -/
def ReadsOnly (run : Run (StateM World) α) : Prop :=
  ∃ read : Files → Except Stop α × List LogRecord, ∀ world : World, world.Calm →
    run.on world = ((read world.files).1, world.logged (read world.files).2)

theorem ReadsOnly.gives {run : Run (StateM World) α} (hrun : run.ReadsOnly) {result : Except Stop α}
    (hworld : world.Calm) (h : run.on world = (result, after)) {other : World} (hother : other.Calm)
    (hfiles : other.files = world.files) : (run.on other).1 = result := by
  obtain ⟨read, hread⟩ := hrun
  rw [hread world hworld] at h
  rw [hread other hother, hfiles]
  exact congrArg Prod.fst h

end Run

end TypedLogging
