import TypedLogging.CommandLine
import TypedLogging.Proofs.Run

namespace TypedLogging.CommandLine

open Run

variable {options : Options} {invocation : Invocation} {generator : Generator} {world after : World}

theorem on_load_eq_ok {path : String} {config : Config} :
    (Config.load path).on world = (.ok config, after) ↔
      ((world.files.read path).toOption.bind Config.ofText? = some config) ∧ world = after := by
  rw [Config.load, on_bind_of_ok (on_readFile path world)]
  cases world.files.read path with
  | error fault =>
      rw [orFail, on_bind]
      simp [fail, on_throw, Except.toOption]
  | ok text =>
      rw [orFail, on_bind_of_ok (on_pure _ _)]
      cases hconfig : Config.ofText? text with
      | none => simp [fail, on_throw, Except.toOption, hconfig]
      | some found => simp [on_pure, Except.toOption, hconfig]

def configIn (files : Files) (options : Options) : Option Config :=
  match options.config with
  | some path => (files.read path).toOption.bind Config.ofText?
  | none => some .default

def generatorWith (options : Options) (config : Config) : Generator :=
  ⟨config, options.files.map (SourceFile.ofFile · (options.modulePath.getD defaultModule)),
    options.outDir⟩

def loadRecords (options : Options) : List LogRecord :=
  (options.config.map fun path =>
    ⟨.debug, LogTarget.command, s!"Loading configuration from {path}"⟩).toList

theorem on_generatorOf_eq_ok : (generatorOf options).on world = (.ok generator, after) ↔
    ∃ config, configIn world.files options = some config ∧ generator = generatorWith options config ∧
      after = world.logged (loadRecords options) := by
  unfold generatorOf configIn loadRecords
  cases options.config with
  | none =>
      rw [on_bind_of_ok (on_pure _ _), on_pure]
      constructor
      · intro h
        cases h
        exact ⟨_, rfl, rfl, (World.logged_nil _).symm⟩
      · rintro ⟨config, hconfig, rfl, rfl⟩
        rw [← Option.some.inj hconfig]
        exact Prod.ext rfl (World.logged_nil _).symm
  | some path =>
      rw [on_bind_of_ok (on_log _ _ _ _), on_bind_eq_ok]
      constructor
      · rintro ⟨config, between, hload, h⟩
        obtain ⟨hconfig, rfl⟩ := on_load_eq_ok.mp hload
        cases h
        exact ⟨config, hconfig, rfl, rfl⟩
      · rintro ⟨config, hconfig, rfl, rfl⟩
        exact ⟨config, _, on_load_eq_ok.mpr ⟨hconfig, rfl⟩, rfl⟩

theorem configIn_mono {before after : Files} {config : Config}
    (h : configIn before options = some config)
    (hread : ∀ path ∈ options.config.toList, ∀ contents, before.read path = .ok contents →
      after.read path = .ok contents) : configIn after options = some config := by
  unfold configIn at h ⊢
  cases hpath : options.config with
  | none =>
      rw [hpath] at h
      exact h
  | some path =>
      rw [hpath] at h hread
      dsimp only at h ⊢
      cases hbefore : before.read path with
      | error fault =>
          rw [hbefore] at h
          cases h
      | ok contents =>
          rw [hbefore] at h
          rw [hread path (by simp) contents hbefore]
          exact h

def executeIn (invocation : Invocation) (world : World) : ExitStatus × World :=
  (execute (m := StateM World) invocation).run world

def settled : Except Stop Unit × World → ExitStatus × World
  | (.ok _, last) => (.success, last)
  | (.error (.fault fault), last) =>
    (fault.failure.exitStatus, (StateT.run ((faultRecords fault).forM World.log) last).2)
  | (.error (.badIdentifier _), last) => (.aborted, last)

theorem executeIn_eq (invocation : Invocation) (world : World) :
    executeIn invocation world = settled ((perform invocation).on world) := by
  have hperform : StateT.run (perform (m := StateM World) invocation).run world =
      (perform invocation).on world := rfl
  rw [executeIn, execute, StateT.run_bind, hperform]
  rcases (perform invocation).on world with ⟨result, last⟩
  cases result with
  | ok _ => rfl
  | error stop => cases stop <;> rfl

theorem exitStatus_ne_success (failure : Failure) : failure.exitStatus ≠ .success := by
  cases failure <;> nofun

theorem executeIn_eq_success : executeIn invocation world = (.success, after) ↔
    (perform invocation).on world = (.ok (), after) := by
  rw [executeIn_eq]
  rcases (perform invocation).on world with ⟨result, last⟩
  cases result with
  | ok _ =>
      constructor
      · intro h
        cases h
        rfl
      · intro h
        cases h
        rfl
  | error stop =>
      refine iff_of_false ?_ nofun
      intro h
      cases stop with
      | badIdentifier name => cases congrArg Prod.fst h
      | fault fault => exact exitStatus_ne_success fault.failure (congrArg Prod.fst h)

theorem on_verify {last : World} (h : generator.stale.on world = (.ok [], last)) :
    ∃ after, (verify generator).on world = (.ok (), after) := by
  rw [verify, on_bind_of_ok h, on_bind_of_ok (on_logAll _ _)]
  exact ⟨_, rfl⟩

end TypedLogging.CommandLine
