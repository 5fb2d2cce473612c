import TypedLogging.Proofs.CommandLine
import TypedLogging.Proofs.Sources
import TypedLogging.Proofs.WriteOutcome

namespace TypedLogging

open Files Run

variable {generator : Generator} {world after other : World} {dir : String} {generated : Generated}

def pathsOf (dir : String) (files : List GeneratedFile) : List String :=
  files.map fun file => joinFile dir file.name

namespace Generator

theorem on_staleFiles (dir : String) (files : List GeneratedFile) (world : World) :
    (staleFiles dir files).on world = (.ok (pathsOf dir (outdated world.files dir files)), world) := by
  induction files with
  | nil => rfl
  | cons file rest ih =>
      rw [staleFiles, on_bind_of_ok (on_isUpToDate _ _ _), on_bind_of_ok ih, on_pure]
      by_cases hcurrent : world.files.read (joinFile dir file.name) = .ok file.contents
      · rw [if_pos (decide_eq_true hcurrent), outdated, outdated,
          List.filter_cons_of_neg (by simpa using hcurrent)]
      · rw [if_neg (by simpa using hcurrent), outdated, outdated,
          List.filter_cons_of_pos (by simpa using hcurrent)]
        rfl

theorem on_stale (hdir : generator.outDirIn world = some dir) {records : List LogRecord}
    (hgenerate : generator.generate.on world = (.ok generated, world.logged records)) :
    generator.stale.on world =
      (.ok (pathsOf dir (outdated world.files dir generated.files)), world.logged records) := by
  have hresolve : generator.resolveOutDir.on world = (.ok dir, world) :=
    on_resolveOutDir_eq_ok.mpr ⟨hdir, rfl⟩
  rw [stale, on_bind_of_ok hresolve, on_bind_of_ok hgenerate, on_staleFiles]
  rfl

theorem on_writeFiles_current (world : World) {files : List GeneratedFile}
    (hcurrent : ∀ file ∈ files, world.files.read (joinFile dir file.name) = .ok file.contents) :
    ∃ records, (writeFiles dir files).on world = (.ok (pathsOf dir files), world.logged records) := by
  induction files generalizing world with
  | nil =>
      refine ⟨[], ?_⟩
      rw [World.logged_nil]
      rfl
  | cons file rest ih =>
      obtain ⟨hfile, hrest⟩ := List.forall_mem_cons.mp hcurrent
      have hstep : (writeIfChanged (joinFile dir file.name) file.contents).on world =
          (.ok (), world.logged
            [⟨.debug, LogTarget.generator, s!"{joinFile dir file.name} is up to date"⟩]) := by
        rw [writeIfChanged, on_bind_of_ok (on_isUpToDate _ _ _), if_pos (decide_eq_true hfile)]
        rfl
      obtain ⟨records, hmore⟩ := @ih (world.logged _) hrest
      rw [writeFiles, on_bind_of_ok hstep, on_bind_of_ok hmore, World.logged_logged]
      exact ⟨_, rfl⟩

theorem on_write_current {place : PathNames} (hdir : generator.outDirIn world = some dir)
    {records : List LogRecord}
    (hgenerate : generator.generate.on world = (.ok generated, world.logged records))
    (hopens : world.files.Opens dir place)
    (hcurrent : ∀ file ∈ generated.files,
      world.files.read (joinFile dir file.name) = .ok file.contents) :
    ∃ records,
      generator.write.on world = (.ok (pathsOf dir generated.files), world.logged records) := by
  have hresolve : generator.resolveOutDir.on world = (.ok dir, world) :=
    on_resolveOutDir_eq_ok.mpr ⟨hdir, rfl⟩
  have hmake : on (ExceptT.lift (Host.createDirs dir)) (world.logged records) =
      (.ok (.ok ()), world.logged records) := by
    have hrun : on (ExceptT.lift (Host.createDirs dir)) (world.logged records) =
        (.ok (world.files.makeDirs dir).2,
          { world.logged records with files := (world.files.makeDirs dir).1 }) := rfl
    rw [hrun, hopens.makeDirs]
    rfl
  obtain ⟨writing, hwrite⟩ := on_writeFiles_current (world.logged records) hcurrent
  rw [write, on_bind_of_ok hresolve, on_bind_of_ok hgenerate, on_bind_of_ok hmake, orFail,
    on_bind_of_ok (on_pure _ _), on_bind_of_ok hwrite, on_bind_of_ok (on_log _ _ _ _),
    World.logged_logged, World.logged_logged]
  exact ⟨_, rfl⟩

end Generator

section Sources

variable {before : World} {sources : List SourceFile} {files : List GeneratedFile}
  {places : List PathNames} {texts : List String} {text contents : String}

/-- No text leads to where one of the paths leads. -/
def Files.Apart (files : Files) (texts paths : List String) : Prop :=
  ∀ text ∈ texts, ∀ path ∈ paths, ∀ place target, files.Leads text place → files.Leads path target →
    place ≠ target

theorem Writes.read_apart (hwrites : Writes dir files before after places)
    (hapart : after.files.Apart texts (pathsOf dir files)) (htext : text ∈ texts) :
    after.files.read text = .ok contents ↔ before.files.read text = .ok contents := by
  apply read_eq_ok_congr hwrites.directories
  intro place hplace
  apply hwrites.others
  intro stored hstored
  obtain ⟨file, hfile, hleads⟩ := hwrites.leads stored hstored
  have hpath : joinFile dir file.name ∈ pathsOf dir files := List.mem_map_of_mem hfile
  have hkeeps := hwrites.directories.keeps
  exact (hapart text htext _ hpath place stored (hplace.mono hkeeps) (hleads.mono hkeeps)).symm

def sourcePaths (sources : List SourceFile) : List String :=
  sources.filterMap fun source => match source.input with
    | .file path => some path
    | .text _ _ => none

theorem keepsSources_of_read {before after : Files} (h : ∀ path ∈ sourcePaths sources, ∀ contents,
    before.read path = .ok contents → after.read path = .ok contents) :
    KeepsSources sources before after := by
  rintro ⟨input, here⟩ hsource held hheld
  cases input with
  | text name text => exact hheld
  | file path =>
      have hpath : path ∈ sourcePaths sources := List.mem_filterMap.mpr ⟨_, hsource, rfl⟩
      have hread : before.read path = .ok held := by
        unfold SourceFile.textIn at hheld
        dsimp only at hheld
        cases hread : before.read path with
        | ok found =>
            rw [hread] at hheld
            exact congrArg Except.ok (Option.some.inj hheld)
        | error fault =>
            rw [hread] at hheld
            cases hheld
      unfold SourceFile.textIn
      dsimp only
      rw [h path hpath held hread]
      rfl

end Sources

section Agreement

variable {before last : World} {files : List GeneratedFile} {places : List PathNames}

/-- In every calm world with these files, and the variable of the given one, these paths are stale. -/
def Generator.StaleIn (generator : Generator) (world : World) (files : Files) (paths : List String) :
    Prop :=
  ∀ other : World, other.Calm → other.files = files →
    other.outDirVariable = world.outDirVariable → (generator.stale.on other).1 = .ok paths

theorem Generator.staleIn_of_keeps {files : Files} (hdir : generator.outDirIn world = some dir)
    (hgenerate : generator.generate.on world = (.ok generated, last))
    (hkeeps : KeepsSources generator.sources world.files files) :
    generator.StaleIn world files (pathsOf dir (outdated files dir generated.files)) := by
  rintro other hcalm rfl hvariable
  obtain ⟨records, hagain⟩ := on_generate_of_keeps hgenerate hcalm hkeeps
  have hdir' : generator.outDirIn other = some dir := by
    rw [outDirIn, hvariable]
    exact hdir
  rw [on_stale hdir' hagain]

/-- The files that the paths lead to are changed, and no others. -/
def Modifies (before after : World) (paths : List String) : Prop :=
  ∃ places, List.Forall₂ after.files.Leads paths places ∧
    after.written = before.written ++ places ∧
    (∀ place ∈ places, after.files.fileAt place ≠ before.files.fileAt place) ∧
    ∀ place, (∀ modified ∈ places, modified ≠ place) →
      after.files.fileAt place = before.files.fileAt place

theorem Writes.modifies (hwrites : Writes dir files before after places)
    (hgrows : Grows world.files before.files) (hwritten : before.written = world.written) :
    Modifies world after (pathsOf dir (outdated before.files dir files)) := by
  have hkeeps := hwrites.directories.keeps
  refine ⟨places, ?_, ?_, ?_, ?_⟩
  · rw [pathsOf, List.forall₂_map_left_iff]
    exact hwrites.reached.imp fun file place hleads => hleads.mono hkeeps
  · rw [hwrites.written, hwritten]
  · intro place hplace hsame
    obtain ⟨file, hfile, hleads⟩ := Outcome.exists_mem_of_forall₂ hwrites.reached hplace
    obtain ⟨hmem, hstale⟩ := List.mem_filter.mp hfile
    obtain ⟨reached, hreached, hheld⟩ := read_eq_ok.mp (hwrites.holds file hmem)
    obtain rfl := hreached.unique (hleads.mono hkeeps)
    have hcurrent : before.files.read (joinFile dir file.name) = .ok file.contents := by
      apply read_eq_ok.mpr
      exact ⟨reached, hleads, (hgrows.same reached).trans (hsame.symm.trans hheld)⟩
    exact of_decide_eq_true hstale hcurrent
  · intro place hplace
    rw [hwrites.others place hplace]
    exact hgrows.same place

theorem outdated_sublist {earlier later : Files} (hgrows : Grows earlier later) :
    (outdated later dir files).Sublist (outdated earlier dir files) := by
  apply List.monotone_filter_right
  intro file hstale
  have hread := of_decide_eq_true hstale
  exact decide_eq_true fun hcurrent => hread (read_mono hgrows hcurrent)

theorem outdated_eq_of_grows {earlier later : Files} (hnamed : WellNamed files)
    (hgrows : Grows earlier later)
    (hreturns : earlier.NeverReturns (writtenPath dir).names) :
    outdated later dir files = outdated earlier dir files := by
  apply List.filter_congr
  intro file hfile
  have hread : later.read (joinFile dir file.name) = .ok file.contents ↔
      earlier.read (joinFile dir file.name) = .ok file.contents :=
    ⟨read_of_grows hreturns (hnamed.names file hfile) hgrows, read_mono hgrows⟩
  simp only [ne_eq, hread]

theorem outdated_eq_nil {tree : Files}
    (h : ∀ file ∈ files, tree.read (joinFile dir file.name) = .ok file.contents) :
    outdated tree dir files = [] := by
  rw [outdated, List.filter_eq_nil_iff]
  intro file hfile
  simpa using h file hfile

end Agreement

namespace Generator

variable {paths : List String}

theorem read_of_write {texts : List String} {text contents : String}
    (h : generator.write.on world = (.ok paths, after)) (hapart : after.files.Apart texts paths)
    (htext : text ∈ texts) (hread : world.files.read text = .ok contents) :
    after.files.read text = .ok contents := by
  rw [← generator.inWorld_write_none] at h
  cases wrote_of_write h with
  | fully dir generated before last places hdir hgenerate hmade hwritten hwrites =>
      exact (hwrites.read_apart hapart htext).mpr (read_mono (grows_of_makeDirs hmade) hread)

/-- A run that has written its files, and those that come after it. -/
structure Agrees (generator : Generator) (world after : World) (paths : List String) : Prop where
  /-- Each path holds the contents that were generated for it. -/
  returned : ∃ dir generated, generator.outDirIn world = some dir ∧
    (generator.generate.on world).1 = .ok generated ∧
    paths = generated.files.map (fun file => joinFile dir file.name) ∧
    ∀ file ∈ generated.files, after.files.read (joinFile dir file.name) = .ok file.contents
  /-- What is stale once the directories are made is modified, and it was stale before. Nothing else was,
  unless the path steps back out of a missing directory. -/
  modified : ∃ dir made stale earlier, generator.outDirIn world = some dir ∧
    world.files.makeDirs dir = (made, .ok ()) ∧ generator.StaleIn world made stale ∧
    Modifies world after stale ∧ generator.StaleIn world world.files earlier ∧
    stale.Sublist earlier ∧
    (world.files.NeverReturns (writtenPath dir).names → stale = earlier)
  /-- Unless a source was overwritten, nothing is stale, and nothing is written again. -/
  settled : after.files.Apart (sourcePaths generator.sources) paths →
    generator.StaleIn world after.files [] ∧
      ∀ later : World, later.Calm → later.files = after.files →
        later.outDirVariable = world.outDirVariable →
          ∃ records, generator.write.on later = (.ok paths, later.logged records)

theorem agrees_of_write (h : generator.write.on world = (.ok paths, after)) :
    generator.Agrees world after paths := by
  have hwrite := h
  rw [← generator.inWorld_write_none] at hwrite
  cases wrote_of_write hwrite with
  | fully dir generated before last places hdir hgenerate hmade hwritten hwrites =>
      have hgrows := grows_of_makeDirs hmade
      have hkept : KeepsSources generator.sources world.files before.files :=
        keepsSources_of_read fun _ _ _ => read_mono hgrows
      have hsame : KeepsSources generator.sources world.files world.files := fun _ _ _ => id
      have hgiven : (generator.generate.on world).1 = .ok generated := by rw [hgenerate]
      refine ⟨⟨dir, generated, hdir, hgiven, rfl, hwrites.holds⟩,
        ⟨dir, before.files, _, _, hdir, hmade, staleIn_of_keeps hdir hgenerate hkept,
          hwrites.modifies hgrows hwritten, staleIn_of_keeps hdir hgenerate hsame,
          (outdated_sublist hgrows).map _, ?_⟩, ?_⟩
      · intro hreturns
        rw [outdated_eq_of_grows (wellNamed_of_generate hgenerate) hgrows hreturns]
      · intro hapart
        have hsources : KeepsSources generator.sources world.files after.files :=
          keepsSources_of_read fun path hpath contents => read_of_write h hapart hpath
        refine ⟨?_, ?_⟩
        · have hstale := staleIn_of_keeps hdir hgenerate hsources
          rwa [outdated_eq_nil hwrites.holds] at hstale
        · intro later hcalm hfiles hvariable
          obtain ⟨records, hagain⟩ := on_generate_of_keeps hgenerate hcalm (by rwa [hfiles])
          obtain ⟨place, hopens⟩ := opens_of_makeDirs hmade
          have hopens' : later.files.Opens dir place := by
            rw [hfiles]
            exact hopens.mono hwrites.directories.keeps
          have hdir' : generator.outDirIn later = some dir := by
            rw [outDirIn, hvariable]
            exact hdir
          have hholds : ∀ file ∈ generated.files,
              later.files.read (joinFile dir file.name) = .ok file.contents := by
            rw [hfiles]
            exact hwrites.holds
          exact on_write_current hdir' hagain hopens' hholds

end Generator

namespace CommandLine

variable {options : Options} {verbosity : Verbosity}

theorem sourcePaths_generatorWith (options : Options) (config : Config) :
    sourcePaths (generatorWith options config).sources = options.files := by
  rw [sourcePaths, generatorWith, List.filterMap_map]
  exact List.filterMap_some

/-- The same command can verify what it has generated, unless it has overwritten what it reads. -/
def Verifies (options : Options) (verbosity : Verbosity) (world after : World) : Prop :=
  ∃ generator start paths last, (generatorOf options).on world = (.ok generator, start) ∧
    generator.write.on start = (.ok paths, last) ∧ after.files = last.files ∧
    (after.files.Apart (options.files ++ options.config.toList) paths →
      ∀ later : World, later.Calm → later.files = after.files →
        later.outDirVariable = world.outDirVariable →
          (executeIn ⟨.generate, { options with checkOnly := true }, verbosity⟩ later).1 = .success)

theorem verifies_of_success (hwrites : options.checkOnly = false)
    (h : executeIn ⟨.generate, options, verbosity⟩ world = (.success, after)) :
    Verifies options verbosity world after := by
  have hperform := executeIn_eq_success.mp h
  have hsteps : perform (m := StateM World) ⟨.generate, options, verbosity⟩ = (do
      let generator ← generatorOf options
      let written ← generator.write
      infoAll LogTarget.generate (written.map fun path => s!"Wrote {path}")) := by
    rw [perform, generate, hwrites]
    rfl
  rw [hsteps] at hperform
  obtain ⟨generator, start, hgenerator, hperform⟩ := on_bind_eq_ok.mp hperform
  obtain ⟨paths, last, hwrite, hlog⟩ := on_bind_eq_ok.mp hperform
  rw [infoAll, on_logAll] at hlog
  cases hlog
  refine ⟨generator, start, paths, last, hgenerator, hwrite, rfl, ?_⟩
  intro hapart later hcalm hfiles hvariable
  obtain ⟨config, hconfig, rfl, rfl⟩ := on_generatorOf_eq_ok.mp hgenerator
  -- the second command reads the same configuration, so it runs the same generator
  have hlast : last.files.Apart (options.files ++ options.config.toList) paths := hapart
  have hlater : later.files = last.files := hfiles
  have hconfig' : configIn later.files { options with checkOnly := true } = some config := by
    apply configIn_mono hconfig
    intro path hpath contents hread
    rw [hlater]
    have hmem : path ∈ options.files ++ options.config.toList := List.mem_append_right _ hpath
    exact Generator.read_of_write hwrite hlast hmem hread
  have hgenerator' := on_generatorOf_eq_ok.mpr ⟨config, hconfig', rfl, rfl⟩
  have hsources : last.files.Apart (sourcePaths (generatorWith options config).sources) paths := by
    rw [sourcePaths_generatorWith]
    exact fun text htext => hlast text (List.mem_append_left _ htext)
  have hsettled := (Generator.agrees_of_write hwrite).settled hsources
  have hstale := hsettled.1 (later.logged (loadRecords options)) hcalm hlater hvariable
  cases hon : (generatorWith options config).stale.on (later.logged (loadRecords options)) with
  | mk result between =>
      rw [hon] at hstale
      cases hstale
      obtain ⟨final, hverify⟩ := on_verify hon
      have hsuccess : (perform ⟨.generate, { options with checkOnly := true }, verbosity⟩).on later =
          (.ok (), final) := by
        rw [perform, generate, on_bind_of_ok hgenerator']
        exact hverify
      rw [executeIn_eq_success.mpr hsuccess]

end CommandLine

/-- Writing, staleness and the file system agree, and so do the commands that generate and verify. -/
theorem writing_settles :
    (∀ (generator : Generator) (world after : World) (paths : List String),
      generator.write.on world = (.ok paths, after) → generator.Agrees world after paths) ∧
    ∀ (options : CommandLine.Options) (verbosity : CommandLine.Verbosity) (world after : World),
      options.checkOnly = false →
        CommandLine.executeIn ⟨.generate, options, verbosity⟩ world = (.success, after) →
          CommandLine.Verifies options verbosity world after :=
  ⟨fun _ _ _ _ => Generator.agrees_of_write,
    fun _ _ _ _ => CommandLine.verifies_of_success⟩

def upGenerator (dir : String) : Generator where
  config := ⟨"m", "c", "log", none, false⟩
  sources := [.ofText "up.rs" "#[c::m(\"Up\",L::Debug,\"\x7bp:u8\x7d\")]struct S;" "crate"]
  outDir := some dir

def upOptions : CommandLine.Options where
  flags := .none
  files := ["s.rs"]
  modulePath := none
  config := some "s_logger_messages.rs"
  outDir := some "."
  checkOnly := false

def upSource : String := "#[logger_message(\"U\",L::None,\"\x7bp:u8\x7d\")]struct S;"

def upContents : String :=
  match ((upGenerator "b").generate.on (.ofFiles .empty)).1 with
  | .ok generated => String.join (generated.files.map (·.contents))
  | .error _ => ""

def upToDateWorld : World :=
  .ofFiles (.withFile .empty "b/s_logger_messages.rs" (some upContents))

def configuredWorld : World :=
  .ofFiles ((Files.empty.withFile "s.rs" (some upSource)).withFile "s_logger_messages.rs"
    (some "\x7b\"include_header\":false\x7d"))

def plainOptions : CommandLine.Options := { upOptions with config := none }

theorem writing_settles_up :
    (∃ after paths, (upGenerator "out").write.on (.ofFiles .empty) = (.ok paths, after) ∧
      (∃ stale, (upGenerator "out").StaleIn (.ofFiles .empty) .empty stale ∧
        Modifies (.ofFiles .empty) after stale) ∧
      (upGenerator "out").StaleIn (.ofFiles .empty) after.files []) ∧
    ∃ after, CommandLine.executeIn ⟨.generate, plainOptions, .ordinary⟩ configuredWorld =
        (.success, after) ∧
      ∀ later : World, later.Calm → later.files = after.files → later.outDirVariable = none →
        (CommandLine.executeIn ⟨.generate, { plainOptions with checkOnly := true }, .ordinary⟩
          later).1 = .success := by
  have hruns : ((upGenerator "out").write.on (.ofFiles .empty)).1.isOk = true ∧
      (CommandLine.executeIn ⟨.generate, plainOptions, .ordinary⟩ configuredWorld).1 = .success ∧
      ((CommandLine.generatorOf plainOptions >>= Generator.write).on configuredWorld).1 =
        .ok ["./s_logger_messages.rs"] := by decide +kernel
  obtain ⟨hwrite, hsuccess, hpaths⟩ := hruns
  obtain ⟨hlibrary, hcommands⟩ := writing_settles
  refine ⟨?_, ?_⟩
  · obtain ⟨paths, after, hon⟩ := exists_on_eq_ok hwrite
    have hagrees := hlibrary _ _ _ _ hon
    obtain ⟨dir, made, stale, earlier, hdir, -, -, hmodifies, hstale, -, hequal⟩ := hagrees.modified
    cases hdir
    have hnames : (writtenPath "out").names = ["out"] := by decide +kernel
    have hreturns : Files.empty.NeverReturns (writtenPath "out").names := by
      rw [hnames]
      exact neverReturns_singleton _ _
    obtain rfl := hequal hreturns
    have hapart : after.files.Apart (sourcePaths (upGenerator "out").sources) paths := nofun
    exact ⟨after, paths, hon, ⟨stale, hstale, hmodifies⟩, (hagrees.settled hapart).1⟩
  · cases hon : CommandLine.executeIn ⟨.generate, plainOptions, .ordinary⟩ configuredWorld with
    | mk status after =>
        rw [hon] at hsuccess
        cases hsuccess
        obtain ⟨generator, start, paths, last, hgenerator, hwritten, hfiles, hverify⟩ :=
          hcommands _ _ _ _ rfl hon
        rw [on_bind_of_ok hgenerator, hwritten] at hpaths
        cases hpaths
        refine ⟨after, rfl, hverify ?_⟩
        have hnames : (writtenPath "s.rs").names = ["s.rs"] ∧
            (writtenPath "./s_logger_messages.rs").names = ["s_logger_messages.rs"] := by
          decide +kernel
        intro text htext path hpath place target hplace htarget
        obtain rfl := List.mem_singleton.mp htext
        obtain rfl := List.mem_singleton.mp hpath
        have hsource := hplace.follows
        have hwritten := htarget.follows
        rw [hnames.1, follow_last_eq_ok (by decide)] at hsource
        rw [hnames.2, follow_last_eq_ok (by decide)] at hwritten
        rw [hsource.2, hwritten.2]
        decide +kernel

/-- A path that steps back out of a missing directory is stale before that directory is made and up to
date afterwards. A configuration that is overwritten cannot be read again. -/
theorem writing_settles_not_always :
    (((upGenerator "a/../b").stale.on upToDateWorld).1 = .ok ["a/../b/s_logger_messages.rs"] ∧
      ((upGenerator "a/../b").write.on upToDateWorld).1 = .ok ["a/../b/s_logger_messages.rs"] ∧
      ((upGenerator "a/../b").write.on upToDateWorld).2.written = []) ∧
    (CommandLine.executeIn ⟨.generate, upOptions, .ordinary⟩ configuredWorld).1 = .success ∧
      (CommandLine.executeIn ⟨.generate, { upOptions with checkOnly := true }, .ordinary⟩
        (CommandLine.executeIn ⟨.generate, upOptions, .ordinary⟩ configuredWorld).2).1 =
          .configuration := by
  decide +kernel

end TypedLogging
