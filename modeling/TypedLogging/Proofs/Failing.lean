import TypedLogging.Proofs.Generation

namespace TypedLogging

open Outcome

/-- A directory that cannot be made, or a file that cannot be written. -/
def Failure.concernsOutput : Failure → Bool
  | .createDir _ | .writeFile _ => true
  | _ => false

def Stop.concernsOutput : Stop → Bool
  | .fault found => found.failure.concernsOutput
  | .badIdentifier _ => false

/-- A failure to write is never what the step fails with. -/
abbrev SparesOutput {α : Type} (x : Except Stop α) : Prop := Fails (·.concernsOutput = false) x

namespace Emission

theorem spares_orStop {α : Type} {x : Except Fault α}
    (h : Fails (·.failure.concernsOutput = false) x) : SparesOutput (orStop x) := by
  cases x with
  | ok a => exact .ok a
  | error fault => exact .error (h fault rfl)

theorem spares_eventIdOf (binding : Binding) (eventId : EventId) :
    SparesOutput (orStop (eventIdOf binding eventId)) := by
  apply spares_orStop
  cases eventId with
  | derived value => exact .ok value
  | explicit text =>
      rw [eventIdOf]
      cases Text.readInt32 text with
      | ok value => exact .ok value
      | error fault => exact .error rfl

theorem spares_typeOf (binding : Binding) (slots : List Slot) :
    SparesOutput (orStop (slots.mapM (typeOf binding))) := by
  apply spares_orStop
  apply Fails.mapM
  intro slot
  rw [typeOf]
  cases Source.typeOfText? slot.type.qualified with
  | some code => exact .ok code
  | none => exact .error rfl

theorem spares_identifier (name : String) : SparesOutput (identifier name) := by
  rw [identifier]
  split
  · exact .ok name
  · exact .error rfl

theorem spares_levelOf (binding : Binding) : SparesOutput (orStop (levelOf binding)) := by
  apply spares_orStop
  rw [levelOf]
  cases levelName? binding.severity with
  | some name => exact .ok _
  | none =>
      dsimp only
      split
      · exact .ok none
      · exact .error rfl

theorem spares_helperOf (binding : Binding) (eventId : EventId) (taken : List String) :
    SparesOutput (helperOf binding eventId taken) := by
  refine (spares_eventIdOf binding eventId).bind fun value => ?_
  refine (spares_typeOf binding _).bind fun types => ?_
  refine (spares_identifier _).bind fun constant => ?_
  exact (spares_levelOf binding).bind fun level => .ok _

theorem spares_helpersFrom (ordinal index : Nat) (taken : List String) (bindings : List Binding) :
    SparesOutput (helpersFrom ordinal index taken bindings) := by
  induction bindings generalizing index taken with
  | nil => exact .ok []
  | cons binding rest ih =>
      refine (spares_helperOf binding _ taken).bind fun helper => ?_
      exact (ih _ _).bind fun more => .ok _

theorem spares_emit (emitter : Emitter) (ordinal : Nat) (declaration : Annotated) :
    SparesOutput (emitter.emit ordinal declaration) := by
  have hextension : SparesOutput (extensionOf ordinal declaration) :=
    (spares_helpersFrom ordinal 0 [] declaration.bindings).bind fun helpers => .ok _
  exact hextension.bind fun extension => .ok _

end Emission

theorem spares_checkConfig (config : Config) :
    SparesOutput (Emission.orStop (Generator.checkConfig config)) := by
  apply Emission.spares_orStop
  unfold Generator.checkConfig
  dsimp only
  intro fault h
  split at h
  · cases h
    rfl
  · split at h
    · cases h
      rfl
    · cases h

theorem spares_ofConfig (config : Config) :
    SparesOutput (Emission.orStop (Emitter.ofConfig config)) := by
  apply Emission.spares_orStop
  unfold Emitter.ofConfig
  split
  · exact .ok _
  · exact .error rfl

namespace Run

variable {α β : Type}

/-- A failure of the run satisfies `P`, in whatever world. -/
def Fails (P : Stop → Prop) (run : Run (StateM World) α) : Prop :=
  ∀ world, Outcome.Fails P (run.on world).1

namespace Fails

variable {P : Stop → Prop}

theorem bind {run : Run (StateM World) α} {next : α → Run (StateM World) β} (hrun : run.Fails P)
    (hnext : ∀ a, (next a).Fails P) : Fails P (run >>= next) := by
  intro world
  have hfirst := hrun world
  rw [on_bind]
  cases hon : run.on world with
  | mk result between =>
      rw [hon] at hfirst
      cases result with
      | error stop => exact .error (hfirst stop rfl)
      | ok a => exact hnext a between

theorem pure (a : α) : Fails P (pure a) := fun _ => .ok a

theorem throw {stop : Stop} (h : P stop) : Fails P (throw stop : Run (StateM World) α) :=
  fun _ => .error h

theorem lift (action : StateM World α) : Fails P (ExceptT.lift action) := by
  intro world
  rw [on_lift]
  exact .ok _

theorem logAll (records : List LogRecord) : Fails P (logAll (m := StateM World) records) := by
  intro world
  rw [on_logAll]
  exact .ok ()

theorem orStop {result : Except Stop α} (h : Outcome.Fails P result) :
    Fails P (orStop (m := StateM World) result) := by
  cases result with
  | ok a => exact pure a
  | error stop => exact throw (h stop rfl)

end Fails

end Run

section Generation

open Run

/-- A failure to write is never what the run ends with. -/
abbrev RunSparesOutput {α : Type} (run : Run (StateM World) α) : Prop :=
  run.Fails (·.concernsOutput = false)

theorem spares_check : RunSparesOutput (check (m := StateM World)) := by
  refine (Run.Fails.lift _).bind fun isCancelled => ?_
  cases isCancelled with
  | true => exact .throw rfl
  | false => exact .pure ()

theorem spares_parseSource (source : SourceFile) :
    RunSparesOutput (parseSource (m := StateM World) source) := by
  have hread : RunSparesOutput (readSource (m := StateM World) source) := by
    obtain ⟨input, here⟩ := source
    cases input with
    | text name text => exact .pure text
    | file path =>
        refine (Run.Fails.lift _).bind fun result => ?_
        cases result with
        | ok text => exact .pure text
        | error fault => exact .throw rfl
  refine hread.bind fun text => ?_
  cases Source.File.ofText? text with
  | some file => exact .pure file
  | none => exact .throw rfl

theorem spares_scanSources (config : Config) (sources : List SourceFile) :
    RunSparesOutput (scanSources (m := StateM World) config sources) := by
  induction sources with
  | nil => exact .pure _
  | cons source rest ih =>
      refine spares_check.bind fun _ => (Run.Fails.lift _).bind fun _ => ?_
      refine (spares_parseSource source).bind fun file => (Run.Fails.logAll _).bind fun _ => ?_
      exact ih.bind fun found => .pure _

theorem spares_collectAll (name : String) (lookup : Lookup) (declarations : List Declaration) :
    RunSparesOutput (collectAll (m := StateM World) name lookup declarations) := by
  induction declarations with
  | nil => exact .pure _
  | cons declaration rest ih =>
      refine spares_check.bind fun _ => (Run.Fails.logAll _).bind fun _ => ?_
      exact ih.bind fun collection => .pure _

namespace Generator

theorem spares_collect (generator : Generator) :
    RunSparesOutput (generator.collect (m := StateM World)) := by
  unfold collect
  split
  · exact .throw rfl
  · refine (Run.Fails.orStop (spares_checkConfig _)).bind fun _ => ?_
    refine (spares_scanSources _ _).bind fun found => ?_
    refine (spares_collectAll _ _ _).bind fun collection => ?_
    exact (Run.Fails.lift _).bind fun _ => .pure collection

theorem spares_emitAll (emitter : Emitter) (ordinal : Nat) (owners : Owners)
    (declarations : List Annotated) :
    RunSparesOutput (emitAll (m := StateM World) emitter ordinal owners declarations) := by
  induction declarations generalizing ordinal owners with
  | nil => exact .pure _
  | cons declaration rest ih =>
      refine spares_check.bind fun _ => ?_
      refine (Run.Fails.orStop (Emission.spares_emit emitter ordinal declaration)).bind fun file => ?_
      refine (Run.Fails.logAll _).bind fun _ => ?_
      cases owners file.name with
      | some first => exact .throw rfl
      | none => exact (ih _ _).bind fun more => .pure _

theorem spares_generate (generator : Generator) :
    RunSparesOutput (generator.generate (m := StateM World)) := by
  refine generator.spares_collect.bind fun collection => ?_
  refine (Run.Fails.orStop (spares_ofConfig _)).bind fun emitter => ?_
  exact (spares_emitAll _ _ _ _).bind fun files => .pure _

end Generator

end Generation

end TypedLogging
