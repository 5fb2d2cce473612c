import TypedLogging.Proofs.Run

namespace TypedLogging

/-- What a disk refuses that a tree of files would allow. -/
structure Refusals where
  /-- Why directories are not made, and how many names of the path are made before. -/
  ofDirs : Files → String → Option (Nat × IoFault)
  ofFile : Files → String → Option IoFault

def Refusals.none : Refusals := ⟨fun _ _ => .none, fun _ _ => .none⟩

/-- A world whose disk may refuse to be written. -/
def Disk (_ : Refusals) : Type → Type := StateM World

namespace Disk

variable (refusals : Refusals)

instance : Monad (Disk refusals) := inferInstanceAs (Monad (StateM World))

def createDirs (path : String) : StateM World (Except IoFault Unit) := do
  let files := (← get).files
  match refusals.ofDirs files path with
  | none => World.createDirs path
  | some (count, fault) =>
    let (made, _) := files.makeAlong [] ((Files.writtenPath path).names.take count)
    modify fun world => { world with files := made }
    return .error fault

def writeFile (path contents : String) : StateM World (Except IoFault Unit) := do
  match refusals.ofFile (← get).files path with
  | none => World.writeFile path contents
  | some fault => return .error fault

instance : Host (Disk refusals) where
  readFile path := World.readFile path
  createDirs path := createDirs refusals path
  writeFile path contents := writeFile refusals path contents
  outDirVariable := Host.outDirVariable (m := StateM World)
  isCancelled := World.isCancelled
  log record := World.log record

variable {refusals} {world : World} {path contents : String} {fault : IoFault}

theorem run_createDirs_of_none (h : refusals.ofDirs world.files path = none) :
    (createDirs refusals path).run world = (World.createDirs path).run world := by
  simp only [createDirs, StateT.run_bind, StateT.run_get, pure_bind, h]

theorem run_createDirs_of_some {count : Nat}
    (h : refusals.ofDirs world.files path = some (count, fault)) :
    (createDirs refusals path).run world = (.error fault,
      { world with
        files := (world.files.makeAlong [] ((Files.writtenPath path).names.take count)).1 }) := by
  simp only [createDirs, StateT.run_bind, StateT.run_get, pure_bind, h]
  rfl

theorem run_writeFile_of_none (h : refusals.ofFile world.files path = none) :
    (writeFile refusals path contents).run world = (World.writeFile path contents).run world := by
  simp only [writeFile, StateT.run_bind, StateT.run_get, pure_bind, h]

theorem run_writeFile_of_some (h : refusals.ofFile world.files path = some fault) :
    (writeFile refusals path contents).run world = (.error fault, world) := by
  simp only [writeFile, StateT.run_bind, StateT.run_get, pure_bind, h]
  rfl

end Disk

namespace Run

variable {refusals : Refusals} {α β : Type}

/-- A run on a disk in the world that holds it. -/
def inWorld (run : Run (Disk refusals) α) : Run (StateM World) α := run

theorem inWorld_bind {run : Run (Disk refusals) α} {next : α → Run (Disk refusals) β}
    {run' : Run (StateM World) α} {next' : α → Run (StateM World) β} (hrun : run.inWorld = run')
    (hnext : ∀ a, (next a).inWorld = next' a) : (run >>= next).inWorld = run' >>= next' := by
  subst hrun
  obtain rfl : (fun a => (next a).inWorld) = next' := funext hnext
  rfl

theorem inWorld_orFail (failure : Failure) (result : Except IoFault α) :
    (orFail (m := Disk refusals) failure result).inWorld = orFail failure result := by
  cases result <;> rfl

theorem inWorld_orStop (result : Except Stop α) :
    (orStop (m := Disk refusals) result).inWorld = orStop result := by
  cases result <;> rfl

theorem inWorld_logAll (records : List LogRecord) :
    (logAll (m := Disk refusals) records).inWorld = logAll records := by
  induction records with
  | nil => rfl
  | cons record rest ih => exact inWorld_bind rfl fun _ => ih

theorem inWorld_parseSource (source : SourceFile) :
    (parseSource (m := Disk refusals) source).inWorld = parseSource source := by
  have hread : (readSource (m := Disk refusals) source).inWorld = readSource source := by
    obtain ⟨input, here⟩ := source
    cases input with
    | text name text => rfl
    | file path => exact inWorld_bind rfl (inWorld_orFail _)
  refine inWorld_bind hread fun text => ?_
  cases Source.File.ofText? text <;> rfl

theorem inWorld_scanSources (config : Config) (sources : List SourceFile) :
    (scanSources (m := Disk refusals) config sources).inWorld = scanSources config sources := by
  induction sources with
  | nil => rfl
  | cons source rest ih =>
      refine inWorld_bind rfl fun _ => inWorld_bind rfl fun _ => ?_
      refine inWorld_bind (inWorld_parseSource source) fun file => ?_
      exact inWorld_bind (inWorld_logAll _) fun _ => inWorld_bind ih fun _ => rfl

theorem inWorld_collectAll (name : String) (lookup : Lookup) (declarations : List Declaration) :
    (collectAll (m := Disk refusals) name lookup declarations).inWorld =
      collectAll name lookup declarations := by
  induction declarations with
  | nil => rfl
  | cons declaration rest ih =>
      refine inWorld_bind rfl fun _ => ?_
      exact inWorld_bind (inWorld_logAll _) fun _ => inWorld_bind ih fun _ => rfl

theorem inWorld_emitAll (emitter : Emitter) (ordinal : Nat) (owners : Generator.Owners)
    (declarations : List Annotated) :
    (Generator.emitAll (m := Disk refusals) emitter ordinal owners declarations).inWorld =
      Generator.emitAll emitter ordinal owners declarations := by
  induction declarations generalizing ordinal owners with
  | nil => rfl
  | cons declaration rest ih =>
      refine inWorld_bind rfl fun _ => inWorld_bind (inWorld_orStop _) fun file => ?_
      refine inWorld_bind (inWorld_logAll _) fun _ => ?_
      cases owners file.name with
      | some first => rfl
      | none => exact inWorld_bind (ih _ _) fun _ => rfl

end Run

namespace Generator

open Run

variable {refusals : Refusals}

theorem inWorld_collect (generator : Generator) :
    (generator.collect (m := Disk refusals)).inWorld = generator.collect := by
  unfold collect
  split
  · rfl
  · refine inWorld_bind (inWorld_orStop _) fun _ => ?_
    refine inWorld_bind (inWorld_scanSources _ _) fun found => ?_
    exact inWorld_bind (inWorld_collectAll _ _ _) fun _ => inWorld_bind rfl fun _ => rfl

theorem inWorld_generate (generator : Generator) :
    (generator.generate (m := Disk refusals)).inWorld = generator.generate := by
  refine inWorld_bind generator.inWorld_collect fun collection => ?_
  refine inWorld_bind (inWorld_orStop _) fun emitter => ?_
  exact inWorld_bind (inWorld_emitAll _ _ _ _) fun _ => rfl

theorem inWorld_isUpToDate (path contents : String) :
    (isUpToDate (m := Disk refusals) path contents).inWorld = isUpToDate path contents := by
  refine inWorld_bind rfl fun result => ?_
  cases result <;> rfl

theorem inWorld_resolveOutDir (generator : Generator) :
    (generator.resolveOutDir (m := Disk refusals)).inWorld = generator.resolveOutDir := by
  unfold resolveOutDir
  cases generator.outDir.or generator.config.outDir with
  | some dir => rfl
  | none =>
      refine inWorld_bind rfl fun dir => ?_
      cases dir <;> rfl

theorem inWorld_writeIfChanged (path contents : String) :
    (writeIfChanged (m := Disk refusals) path contents).inWorld = (do
      if ← isUpToDate path contents then log .debug LogTarget.generator s!"{path} is up to date"
      else orFail (.writeFile path) (← ExceptT.lift (Disk.writeFile refusals path contents))) := by
  refine inWorld_bind (inWorld_isUpToDate _ _) fun isCurrent => ?_
  cases isCurrent with
  | true => rfl
  | false => exact inWorld_bind rfl (inWorld_orFail _)

theorem inWorld_writeFiles (dir : String) (files : List GeneratedFile) :
    (writeFiles (m := Disk .none) dir files).inWorld = writeFiles dir files := by
  induction files with
  | nil => rfl
  | cons file rest ih =>
      exact inWorld_bind (inWorld_writeIfChanged _ _) fun _ => inWorld_bind ih fun _ => rfl

theorem inWorld_write (generator : Generator) :
    (generator.write (m := Disk refusals)).inWorld = (do
      let dir ← generator.resolveOutDir
      let generated ← generator.generate
      orFail (.createDir dir) (← ExceptT.lift (Disk.createDirs refusals dir))
      let written ← (writeFiles (m := Disk refusals) dir generated.files).inWorld
      log .info LogTarget.generator s!"Generated {written.length} file(s) in {dir}"
      return written) := by
  refine inWorld_bind generator.inWorld_resolveOutDir fun dir => ?_
  refine inWorld_bind generator.inWorld_generate fun generated => ?_
  refine inWorld_bind rfl fun result => inWorld_bind (inWorld_orFail _ result) fun _ => ?_
  exact inWorld_bind rfl fun _ => inWorld_bind rfl fun _ => rfl

theorem inWorld_write_none (generator : Generator) :
    (generator.write (m := Disk .none)).inWorld = generator.write := by
  rw [inWorld_write]
  simp only [inWorld_writeFiles]
  rfl

end Generator

end TypedLogging
