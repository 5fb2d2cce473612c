import TypedLogging.Proofs.Emission.FileName
import TypedLogging.Proofs.Failing
import TypedLogging.Proofs.Files.Directories
import TypedLogging.Proofs.Writing

namespace TypedLogging

open Files Run

variable {refusals : Refusals} {before after : World}

namespace Generator

theorem Owners.enter_eq_none {owners : Owners} {name typePath other : String} :
    owners.enter name typePath other = .none ↔ other ≠ name ∧ owners other = .none := by
  rw [enter]
  split <;> simp [*]

theorem wellNamed_of_emitAll {emitter : Emitter} {ordinal : Nat} {owners : Owners}
    {files : List GeneratedFile} {declarations : List Annotated}
    (h : (emitAll emitter ordinal owners declarations).on before = (.ok files, after)) :
    WellNamed files ∧ ∀ file ∈ files, owners file.name = none := by
  induction declarations generalizing ordinal owners files before with
  | nil =>
      cases h
      exact ⟨⟨nofun, .nil⟩, nofun⟩
  | cons declaration rest ih =>
      obtain ⟨_, _, -, h⟩ := on_bind_eq_ok.mp h
      obtain ⟨file, _, hfile, h⟩ := on_bind_eq_ok.mp h
      obtain ⟨_, _, -, h⟩ := on_bind_eq_ok.mp h
      split at h
      · cases h
      · next hnew =>
          obtain ⟨more, _, hmore, h⟩ := on_bind_eq_ok.mp h
          cases h
          obtain ⟨hnamed, hothers⟩ := ih hmore
          have hname : IsFileName file.name := by
            rw [(Emitter.fields_of_emit (on_orStop_eq_ok.mp hfile).1).1]
            exact Emission.isFileName_fileName declaration
          have hapart : ∀ other ∈ more, other.name ≠ file.name ∧ owners other.name = none :=
            fun other hother => Owners.enter_eq_none.mp (hothers other hother)
          refine ⟨⟨?_, ?_⟩, ?_⟩
          · exact List.forall_mem_cons.mpr ⟨hname, hnamed.names⟩
          · refine List.pairwise_cons.mpr ⟨fun other hother => ?_, hnamed.distinct⟩
            exact (hapart other hother).1.symm
          · exact List.forall_mem_cons.mpr ⟨hnew, fun other hother => (hapart other hother).2⟩

theorem wellNamed_of_generate {generator : Generator} {generated : Generated}
    (h : generator.generate.on before = (.ok generated, after)) : WellNamed generated.files := by
  obtain ⟨collection, _, -, h⟩ := on_bind_eq_ok.mp h
  obtain ⟨emitter, _, -, h⟩ := on_bind_eq_ok.mp h
  obtain ⟨files, _, hfiles, h⟩ := on_bind_eq_ok.mp h
  cases h
  exact (wellNamed_of_emitAll hfiles).1

def outDirIn (generator : Generator) (world : World) : Option String :=
  (generator.outDir.or generator.config.outDir).or world.outDirVariable

theorem on_resolveOutDir (generator : Generator) (world : World) :
    generator.resolveOutDir.on world =
      (match generator.outDirIn world with
        | some dir => .ok dir
        | none => .error (.fault Failure.noOutDir.fault), world) := by
  unfold resolveOutDir outDirIn
  cases generator.outDir.or generator.config.outDir with
  | some dir => rfl
  | none =>
      have hvariable : on (ExceptT.lift (Host.outDirVariable (m := StateM World))) world =
          (.ok world.outDirVariable, world) := rfl
      dsimp only
      rw [on_bind_of_ok hvariable]
      cases world.outDirVariable <;> rfl

theorem on_resolveOutDir_eq_ok {generator : Generator} {dir : String} :
    generator.resolveOutDir.on before = (.ok dir, after) ↔
      generator.outDirIn before = some dir ∧ before = after := by
  rw [on_resolveOutDir]
  cases generator.outDirIn before with
  | none => simp
  | some found => simp [eq_comm]

/-- Directories that could not be made are no change to a file. -/
theorem run_createDirs {dir : String} {world after : World} {result : Except IoFault Unit}
    (h : (Disk.createDirs refusals dir).run world = (result, after)) :
    Grows world.files after.files ∧ after.written = world.written ∧
      (result = .ok () → world.files.makeDirs dir = (after.files, .ok ())) := by
  cases hrefused : refusals.ofDirs world.files dir with
  | none =>
      rw [Disk.run_createDirs_of_none hrefused] at h
      cases h
      exact ⟨grows_makeDirs _ _, rfl, fun hok => Prod.ext rfl hok⟩
  | some refused =>
      rw [Disk.run_createDirs_of_some hrefused] at h
      cases h
      exact ⟨grows_makeAlong _ _ _, rfl, nofun⟩

end Generator

/-- How far a run that writes can come: it fails before it writes, it cannot make its directory, it
cannot write one of the files, or it writes them all. -/
inductive Generator.Wrote (generator : Generator) (world after : World) :
    Except Stop (List String) → Prop
  | early (stop : Stop) (hstop : stop.concernsOutput = false) (hfiles : after.files = world.files)
      (hwritten : after.written = world.written) : Wrote generator world after (.error stop)
  | nowhere (dir : String) (cause : Option String) (hdir : generator.outDirIn world = some dir)
      (hgrows : Grows world.files after.files) (hwritten : after.written = world.written) :
      Wrote generator world after (.error (.fault ⟨.createDir dir, cause⟩))
  | partly (dir : String) (generated : Generated) (before last : World) (done : List GeneratedFile)
      (file : GeneratedFile) (rest : List GeneratedFile) (places : List PathNames)
      (cause : Option String) (hdir : generator.outDirIn world = some dir)
      (hgenerate : generator.generate.on world = (.ok generated, last))
      (hmade : world.files.makeDirs dir = (before.files, .ok ()))
      (hwritten : before.written = world.written)
      (hfiles : generated.files = done ++ file :: rest)
      (hwrites : Writes dir done before after places) :
      Wrote generator world after (.error (.fault ⟨.writeFile (joinFile dir file.name), cause⟩))
  | fully (dir : String) (generated : Generated) (before last : World) (places : List PathNames)
      (hdir : generator.outDirIn world = some dir)
      (hgenerate : generator.generate.on world = (.ok generated, last))
      (hmade : world.files.makeDirs dir = (before.files, .ok ()))
      (hwritten : before.written = world.written)
      (hwrites : Writes dir generated.files before after places) :
      Wrote generator world after (.ok (generated.files.map fun file => joinFile dir file.name))

theorem Generator.wrote_of_write {generator : Generator} {world after : World}
    {result : Except Stop (List String)}
    (h : (generator.write (m := Disk refusals)).inWorld.on world = (result, after)) :
    generator.Wrote world after result := by
  rw [inWorld_write] at h
  rcases on_bind_cases h with ⟨dir, _, hresolve, hgenerating⟩ | ⟨stop, rfl, hresolve⟩
  · obtain ⟨hdir, rfl⟩ := on_resolveOutDir_eq_ok.mp hresolve
    rcases on_bind_cases hgenerating with ⟨generated, last, hgenerate, hmaking⟩ | ⟨stop, rfl, hgenerate⟩
    · obtain ⟨hfiles, hwritten, -⟩ := generator.interruptible_generate.untouched hgenerate
      rw [on_bind_of_ok (on_lift _ _)] at hmaking
      cases hmake : (Disk.createDirs refusals dir).run last with
      | mk outcome before =>
          obtain ⟨hgrows, hkept, hmade⟩ := run_createDirs hmake
          rw [hfiles] at hgrows hmade
          rw [hmake] at hmaking
          cases outcome with
          | error fault =>
              cases hmaking
              exact .nowhere dir _ hdir hgrows (hkept.trans hwritten)
          | ok _ =>
              rw [orFail, on_bind_of_ok (on_pure _ _)] at hmaking
              rcases on_bind_cases hmaking with ⟨paths, _, hwriting, hlog⟩ | ⟨stop, rfl, hwriting⟩
              · cases hlog
                rcases on_writeFiles (wellNamed_of_generate hgenerate) hwriting with
                  ⟨hpaths, places, hwrites⟩ | ⟨_, _, _, _, _, -, -, hfailed⟩
                · cases hpaths
                  exact .fully dir generated before last places hdir hgenerate (hmade rfl)
                    (hkept.trans hwritten) hwrites.logged
                · cases hfailed
              · rcases on_writeFiles (wellNamed_of_generate hgenerate) hwriting with
                  ⟨hpaths, -⟩ | ⟨done, file, rest, places, cause, hparts, hwrites, hfailed⟩
                · cases hpaths
                · cases hfailed
                  exact .partly dir generated before last done file rest places cause hdir hgenerate
                    (hmade rfl) (hkept.trans hwritten) hparts hwrites
    · obtain ⟨hfiles, hwritten, -⟩ := generator.interruptible_generate.untouched hgenerate
      have hspares := generator.spares_generate world
      rw [hgenerate] at hspares
      exact .early stop (hspares stop rfl) hfiles hwritten
  · rw [on_resolveOutDir] at hresolve
    cases hdir : generator.outDirIn world with
    | some dir =>
        rw [hdir] at hresolve
        cases hresolve
    | none =>
        rw [hdir] at hresolve
        cases hresolve
        exact .early _ rfl rfl rfl

/-- A run that fails before it writes changes nothing, and one that cannot make its directory changes no
file. When a file cannot be written, those before it are, and every other place holds what it held. -/
theorem write_fails {generator : Generator} {world after : World} {stop : Stop}
    (h : (generator.write (m := Disk refusals)).inWorld.on world = (.error stop, after)) :
    (stop.concernsOutput = false → after.files = world.files ∧ after.written = world.written) ∧
    (∀ dir cause, stop = .fault ⟨.createDir dir, cause⟩ →
      SameFiles world.files after.files ∧ after.written = world.written) ∧
    ∀ path cause, stop = .fault ⟨.writeFile path, cause⟩ →
      ∃ dir generated done file rest, generator.outDirIn world = some dir ∧
        (generator.generate.on world).1 = .ok generated ∧
        generated.files = done ++ file :: rest ∧ path = joinFile dir file.name ∧
        (∀ written ∈ done, after.files.read (joinFile dir written.name) = .ok written.contents) ∧
        (∀ place, (∀ written ∈ done, ∀ target, after.files.Leads (joinFile dir written.name) target →
            target ≠ place) →
          after.files.fileAt place = world.files.fileAt place) ∧
        ∀ other ∈ file :: rest, ∀ place, after.files.Leads (joinFile dir other.name) place →
          after.files.fileAt place = world.files.fileAt place := by
  cases Generator.wrote_of_write h with
  | early _ hstop hfiles hwritten =>
      refine ⟨fun _ => ⟨hfiles, hwritten⟩, ?_, ?_⟩
      · rintro dir cause rfl
        cases hstop
      · rintro path cause rfl
        cases hstop
  | nowhere dir cause hdir hgrows hwritten =>
      refine ⟨nofun, fun _ _ _ => ⟨hgrows.same, hwritten⟩, ?_⟩
      rintro path cause ⟨⟩
  | partly dir generated before last done file rest places cause hdir hgenerate hmade hwritten hparts
      hwrites =>
      refine ⟨nofun, nofun, ?_⟩
      rintro _ _ ⟨⟩
      have hnamed := Generator.wellNamed_of_generate hgenerate
      rw [hparts] at hnamed
      have hgrows := grows_of_makeDirs hmade
      have hothers : ∀ place, (∀ written ∈ done, ∀ target,
          after.files.Leads (joinFile dir written.name) target → target ≠ place) →
          after.files.fileAt place = world.files.fileAt place := by
        intro place hplace
        rw [← hgrows.same, hwrites.others]
        intro stored hstored
        obtain ⟨written, hdone, hleads⟩ := hwrites.leads stored hstored
        exact hplace written hdone stored (hleads.mono hwrites.directories.keeps)
      refine ⟨dir, generated, done, file, rest, hdir, by rw [hgenerate], hparts, rfl, hwrites.holds,
        hothers, ?_⟩
      intro other hother place hplace
      apply hothers
      intro written hdone target htarget
      have hne := (List.pairwise_append.mp hnamed.distinct).2.2 written hdone other hother
      exact hnamed.ne_of_leads (List.mem_append_left _ hdone) (List.mem_append_right _ hother) hne
        htarget hplace

def pairGenerator : Generator where
  config := ⟨"m", "c", "log", none, false⟩
  sources := [.ofText "up.rs" ("#[c::m(\"Up\",L::Debug,\"\x7bp:u8\x7d\")]struct S;"
    ++ "#[c::m(\"Up\",L::Debug,\"\x7bp:u8\x7d\")]struct T;") "crate"]
  outDir := some "."

def almostFull : Refusals where
  ofDirs _ _ := none
  ofFile _ path :=
    if path = "./t_logger_messages.rs" then some (.other "No space left on device (os error 28)")
    else none

theorem write_fails_full :
    let world := World.ofFiles (.withFile .empty "t_logger_messages.rs" (some "old"))
    ∃ cause after, (pairGenerator.write (m := Disk almostFull)).inWorld.on world =
        (.error (.fault ⟨.writeFile "./t_logger_messages.rs", cause⟩), after) ∧
      ∃ generated done file rest, (pairGenerator.generate.on world).1 = .ok generated ∧
        generated.files = done ++ file :: rest ∧ done.length = 1 ∧
        (∀ written ∈ done, after.files.read (joinFile "." written.name) = .ok written.contents) ∧
        ∀ place, after.files.Leads (joinFile "." file.name) place →
          after.files.fileAt place = world.files.fileAt place := by
  intro world
  have hruns : ((pairGenerator.write (m := Disk almostFull)).inWorld.on world).1 =
        .error (.fault ((Failure.writeFile "./t_logger_messages.rs").because
          "No space left on device (os error 28)")) ∧
      (pairGenerator.generate.on world).1.map (fun generated => generated.files.map (·.name)) =
        .ok ["s_logger_messages.rs", "t_logger_messages.rs"] := by decide +kernel
  obtain ⟨hwrite, hnames⟩ := hruns
  cases hon : (pairGenerator.write (m := Disk almostFull)).inWorld.on world with
  | mk result after =>
      rw [hon] at hwrite
      cases hwrite
      obtain ⟨dir, generated, done, file, rest, hdir, hgenerate, hparts, hpath, hholds, -, hlater⟩ :=
        (write_fails hon).2.2 _ _ rfl
      cases hdir
      rw [hgenerate] at hnames
      have hfiles : (done ++ file :: rest).map (·.name) =
          ["s_logger_messages.rs", "t_logger_messages.rs"] := by
        rw [← hparts]
        exact Except.ok.inj hnames
      have hdone : done.length = 1 := by
        match done, hfiles with
        | [], hfiles =>
            have hname : file.name = "s_logger_messages.rs" := (List.cons.inj hfiles).1
            rw [hname] at hpath
            exact absurd hpath (by decide +kernel)
        | [written], _ => rfl
        | _ :: _ :: more, hfiles =>
            have hlength := congrArg List.length hfiles
            simp at hlength
      exact ⟨_, after, rfl, generated, done, file, rest, hgenerate, hparts, hdone, hholds,
        hlater file List.mem_cons_self⟩

end TypedLogging
