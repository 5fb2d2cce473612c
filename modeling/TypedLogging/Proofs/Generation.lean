import TypedLogging.Proofs.Collection
import TypedLogging.Proofs.Emission.Checked
import TypedLogging.Proofs.Emission.Constants

namespace TypedLogging

open Outcome Run

theorem interruptible_readSource (source : SourceFile) :
    Interruptible (readSource (m := StateM World) source) := by
  obtain ⟨input, here⟩ := source
  cases input with
  | file path =>
      exact Interruptible.bind ⟨_, follows_readFile path⟩ fun result =>
        (steady_orFail _ result).interruptible
  | text name text => exact (steady_pure text).interruptible

theorem interruptible_parseSource (source : SourceFile) :
    Interruptible (parseSource (m := StateM World) source) := by
  refine (interruptible_readSource source).bind ?_
  intro text
  cases Source.File.ofText? text with
  | some file => exact (steady_pure file).interruptible
  | none => exact (steady_throw _).interruptible

theorem interruptible_scanSources (config : Config) (sources : List SourceFile) :
    Interruptible (scanSources (m := StateM World) config sources) := by
  induction sources with
  | nil => exact (steady_pure _).interruptible
  | cons source rest ih =>
      refine steady_check.interruptible.bind fun _ => ?_
      refine (steady_log _ _ _).interruptible.bind fun _ => ?_
      refine (interruptible_parseSource source).bind fun file => ?_
      refine (steady_logAll _).interruptible.bind fun _ => ?_
      exact ih.bind fun found => (steady_pure _).interruptible

namespace Generator

theorem interruptible_collect (generator : Generator) :
    Interruptible (generator.collect (m := StateM World)) := by
  unfold collect
  split
  · exact (steady_throw _).interruptible
  · refine (steady_orStop _).interruptible.bind fun _ => ?_
    refine (interruptible_scanSources _ _).bind fun found => ?_
    refine Interruptible.bind ⟨_, follows_collectAll _ _ _⟩ fun collection => ?_
    exact ((steady_log _ _ _).bind fun _ => steady_pure collection).interruptible

theorem readsOnly_collect (generator : Generator) :
    ReadsOnly (generator.collect (m := StateM World)) := generator.interruptible_collect.readsOnly

theorem steady_emitAll (emitter : Emitter) (ordinal : Nat) (owners : Owners)
    (declarations : List Annotated) :
    Steady (emitAll (m := StateM World) emitter ordinal owners declarations) := by
  induction declarations generalizing ordinal owners with
  | nil => exact steady_pure _
  | cons declaration rest ih =>
      refine steady_check.bind fun _ => (steady_orStop _).bind fun file => ?_
      refine (steady_logAll _).bind fun _ => ?_
      cases owners file.name with
      | some first => exact steady_throw _
      | none => exact (ih _ _).bind fun more => steady_pure _

theorem steady_emission (generator : Generator) (collection : Collection) :
    Steady (do
      let emitter ← orStop (m := StateM World) (Emission.orStop (Emitter.ofConfig generator.config))
      let files ← emitAll emitter 0 .none collection.declarations
      return Generated.mk files collection.diagnostics) := by
  refine (steady_orStop _).bind fun emitter => ?_
  exact (steady_emitAll _ _ _ _).bind fun files => steady_pure _

theorem interruptible_generate (generator : Generator) :
    Interruptible (generator.generate (m := StateM World)) :=
  generator.interruptible_collect.bind fun collection =>
    (generator.steady_emission collection).interruptible

variable {world after : World}

theorem on_orStop_eq_ok {α : Type} {result : Except Stop α} {a : α} :
    (orStop (m := StateM World) result).on world = (.ok a, after) ↔ result = .ok a ∧ world = after := by
  cases result with
  | ok value =>
      rw [orStop, on_pure]
      simp
  | error stop =>
      rw [orStop, on_throw]
      simp

theorem emit_of_emitAll {emitter : Emitter} {ordinal : Nat} {owners : Owners}
    {declarations : List Annotated} {files : List GeneratedFile}
    (h : (emitAll emitter ordinal owners declarations).on world = (.ok files, after)) :
    List.Forall₂ (fun file (declaration, position) => emitter.emit position declaration = .ok file)
      files (declarations.zipIdx ordinal) := by
  -- a step emits at the ordinal and goes on with the next one, whatever files there are already
  induction declarations generalizing ordinal owners files world with
  | nil =>
      cases h
      exact .nil
  | cons declaration rest ih =>
      obtain ⟨_, _, -, h⟩ := on_bind_eq_ok.mp h
      obtain ⟨file, _, hfile, h⟩ := on_bind_eq_ok.mp h
      obtain ⟨_, _, -, h⟩ := on_bind_eq_ok.mp h
      split at h
      · cases h
      · obtain ⟨more, _, hmore, h⟩ := on_bind_eq_ok.mp h
        cases h
        exact .cons (on_orStop_eq_ok.mp hfile).1 (ih hmore)

theorem files_of_generate {generator : Generator} {generated : Generated}
    (h : generator.generate.on world = (.ok generated, after)) :
    ∃ collection emitter between, generator.collect.on world = (.ok collection, between) ∧
      Emitter.ofConfig generator.config = .ok emitter ∧
      List.Forall₂ (fun file (declaration, position) => emitter.emit position declaration = .ok file)
        generated.files collection.declarations.zipIdx := by
  obtain ⟨collection, between, hcollect, h⟩ := on_bind_eq_ok.mp h
  obtain ⟨emitter, _, hemitter, h⟩ := on_bind_eq_ok.mp h
  obtain ⟨files, _, hfiles, h⟩ := on_bind_eq_ok.mp h
  cases h
  exact ⟨collection, emitter, between, hcollect,
    Emission.orStop_eq_ok.mp (on_orStop_eq_ok.mp hemitter).1, emit_of_emitAll hfiles⟩

end Generator

/-- The ids that are collected are the ids that are generated: a generation that succeeds has one file
for each declaration that is collected, in order, and the constants that are read in it hold the ids of
the messages of that declaration. -/
theorem generate_constants {generator : Generator} {world after : World} {generated : Generated}
    (hcalm : world.Calm) (h : generator.generate.on world = (.ok generated, after)) :
    ∃ collection emitter,
      (∀ other : World, other.Calm → other.files = world.files →
        (generator.collect.on other).1 = .ok collection) ∧
      Emitter.ofConfig generator.config = .ok emitter ∧
      generated.files.length = collection.declarations.length ∧
      ∀ i declaration file, collection.declarations[i]? = some declaration →
        generated.files[i]? = some file →
        ∃ extension layout, Emission.extensionOf i declaration = .ok extension ∧
          file.name = Emission.fileName declaration ∧ file.typePath = declaration.typePath ∧
          emitter.Prints extension file layout ∧
          List.Forall₂ (fun constant message => message.eventId.Denotes constant.value)
            layout.constants (declaration.messages i) := by
  obtain ⟨collection, emitter, between, hcollect, hconfig, hemit⟩ := Generator.files_of_generate h
  refine ⟨collection, emitter, fun other hother hsame =>
    generator.readsOnly_collect.gives hcalm hcollect hother hsame, hconfig, ?_, ?_⟩
  · rw [hemit.length_eq, List.length_zipIdx]
  · intro i declaration file hdeclaration hfile
    obtain ⟨hi, rfl⟩ := List.getElem?_eq_some_iff.mp hfile
    obtain ⟨hi', rfl⟩ := List.getElem?_eq_some_iff.mp hdeclaration
    have hemitted := hemit.get hi (by rwa [List.length_zipIdx])
    simp only [List.get_eq_getElem, List.getElem_zipIdx, Nat.zero_add] at hemitted
    obtain ⟨extension, hextension, hprints⟩ := Emitter.prints_of_emit hemitted
    obtain ⟨hname, htypePath⟩ := Emitter.fields_of_emit hemitted
    exact ⟨extension, extension.layout, hextension, hname, htypePath, hprints,
      Emission.constants_of_extensionOf hextension⟩

def mixedGenerator : Generator where
  config := ⟨"m", "c", "log", none, false⟩
  sources := [.ofText "up.rs" ("#[c::m(\"Up\",L::Error,\"\x7bp:u8\x7d\",-7,S::Interface)]"
    ++ "#[c::m(\"Up\",L::Debug,\"\x7bp:u8\x7d\")]struct S;") "crate"]
  outDir := none

def Collection.eventIds (collection : Collection) : List (List EventId) :=
  collection.declarations.zipIdx.map fun (declaration, ordinal) =>
    (declaration.messages ordinal).map (·.eventId)

theorem generate_constants_mixed :
    (World.ofFiles .empty).Calm ∧
      ∃ generated after file emitter layout, ∃ extension : Emission.Extension,
        mixedGenerator.generate.on (.ofFiles .empty) = (.ok generated, after) ∧
        generated.files = [file] ∧ Emitter.ofConfig mixedGenerator.config = .ok emitter ∧
        Emission.Layout.ofText? emitter.logCrate extension.visible extension.typePath file.contents =
          some layout ∧
        List.Forall₂ (fun constant (eventId : EventId) => eventId.Denotes constant.value)
          layout.constants [.explicit "-7", .derived (derivedId 1 0 1)] := by
  have hcalm : (World.ofFiles .empty).Calm := rfl
  have hruns : (mixedGenerator.generate.on (.ofFiles .empty)).1.isOk = true ∧
      ((mixedGenerator.collect.on (.ofFiles .empty)).1.map Collection.eventIds) =
        .ok [[.explicit "-7", .derived (derivedId 1 0 1)]] := by decide +kernel
  obtain ⟨hgenerate, hids⟩ := hruns
  obtain ⟨generated, after, hgenerated⟩ := exists_on_eq_ok hgenerate
  obtain ⟨collection, emitter, hcollect, hemitter, hlength, hfiles⟩ :=
    generate_constants hcalm hgenerated
  rw [hcollect _ hcalm rfl] at hids
  have heventIds : collection.eventIds = [[.explicit "-7", .derived (derivedId 1 0 1)]] :=
    Except.ok.inj hids
  have hcount : collection.declarations.length = 1 := by
    simpa [Collection.eventIds] using congrArg List.length heventIds
  obtain ⟨declaration, hdeclaration⟩ := List.length_eq_one_iff.mp hcount
  obtain ⟨file, hfile⟩ := List.length_eq_one_iff.mp (hlength.trans hcount)
  obtain ⟨extension, layout, -, -, -, hprints, hconstants⟩ :=
    hfiles 0 declaration file (by rw [hdeclaration]; rfl) (by rw [hfile]; rfl)
  have hmessages : (declaration.messages 0).map (·.eventId) =
      [.explicit "-7", .derived (derivedId 1 0 1)] := by
    rw [Collection.eventIds, hdeclaration] at heventIds
    exact List.singleton_inj.mp heventIds
  have hheader : emitter.includeHeader = false := Emitter.includeHeader_of_ofConfig hemitter
  refine ⟨hcalm, generated, after, file, emitter, layout, extension, hgenerated, hfile, hemitter,
    hprints.whole fun htrue => absurd (hheader.symm.trans htrue) Bool.false_ne_true, ?_⟩
  rw [← hmessages, List.forall₂_map_right_iff]
  exact hconstants

/-- A module path that goes on behind a line break. -/
def brokenPath : String := "crate\npub const STRAY_EVENT_ID : i32 = 1 ;\n// crate"

def strayGenerator : Generator where
  config := .default
  sources := [.ofText "up.rs"
    "#[logger_message(\"Up\",LogLevel::Debug,\"\x7bX:u32\x7d\")]struct S;" brokenPath]
  outDir := none

def strayDeclaration : Annotated := ⟨brokenPath, [], "", "S", [Emission.plainBinding "Up"]⟩

/-- The first constant in the file belongs to no message. -/
theorem generate_constants_stray :
    (strayGenerator.collect.on (.ofFiles .empty)).1.map (·.declarations) = .ok [strayDeclaration] ∧
      (strayDeclaration.messages 0).map (·.eventId) = [.derived (derivedId 1 0 0)] ∧
      ∃ generated after file trees behind,
        strayGenerator.generate.on (.ofFiles .empty) = (.ok generated, after) ∧
        generated.files = [file] ∧ Source.readText? file.contents = some trees ∧
        Emission.Read.declared.run trees = some (⟨"STRAY_EVENT_ID", 1⟩, behind) ∧
        ¬(EventId.derived (derivedId 1 0 0)).Denotes 1 := by
  have hruns : (strayGenerator.generate.on (.ofFiles .empty)).1.isOk = true ∧
      (strayGenerator.collect.on (.ofFiles .empty)).1.map (·.declarations) = .ok [strayDeclaration] := by
    decide +kernel
  obtain ⟨hgenerate, hcollected⟩ := hruns
  refine ⟨hcollected, by decide +kernel, ?_⟩
  obtain ⟨generated, after, hgenerated⟩ := exists_on_eq_ok hgenerate
  obtain ⟨collection, emitter, between, hcollect, hemitter, hfiles⟩ :=
    Generator.files_of_generate hgenerated
  have hdeclarations : collection.declarations = [strayDeclaration] := by
    rw [hcollect] at hcollected
    exact Except.ok.inj hcollected
  obtain ⟨file, hfile⟩ : ∃ file, generated.files = [file] :=
    List.length_eq_one_iff.mp (by rw [hfiles.length_eq, hdeclarations]; rfl)
  rw [hdeclarations, hfile] at hfiles
  obtain rfl := Except.ok.inj (Emitter.ofConfig_default.symm.trans hemitter)
  obtain ⟨extension, hextension, hprints⟩ := Emitter.prints_of_emit (List.forall₂_cons.mp hfiles).1
  have hname : Source.Lexer.IsIdent "STRAY_EVENT_ID" := by decide +kernel
  have hpath : extension.typePath.toList = "crate".toList ++ '\n' ::
      ((Source.Code.text (Source.words ["pub", "const", "STRAY_EVENT_ID", ":", "i32", "="]
        ++ Emission.integerCode 1 ++ Source.words [";"])).toList ++ '\n' ::
          ("// ".toList ++ "crate::S".toList)) := by
    rw [Emission.typePath_of_extensionOf hextension]
    decide +kernel
  have hread := Emission.readsAs_broken Emitter.plain.legible_logCrate
    (Emission.isPrintable_of_extensionOf hextension)
    (Emission.tells_declared hname 1 : Source.Code.Tells _ [] _ _).legible (by decide) (by decide) hpath
  have hcontents : file.contents = extension.contents Emitter.plain.logCrate true := hprints.contents
  rw [← hcontents] at hread
  exact ⟨generated, after, file, _, _, hgenerated, hfile, Source.readText?_of_readsAs hread,
    (Emission.tells_declared hname 1).run_eq, (by decide : ¬(1 : Int) = derivedId 1 0 0)⟩

end TypedLogging
