import TypedLogging.Proofs.Disk
import TypedLogging.Proofs.Files.Joined

namespace TypedLogging

open Files Run

namespace World

def storing (world : World) (place : PathNames) (contents : String) : World :=
  { world with
    files := world.files.put place (.file (some contents))
    written := world.written ++ [place] }

variable {world : World} {path contents : String}

theorem run_writeFile_of_error {fault : IoFault} (h : world.files.target path = .error fault) :
    (World.writeFile path contents).run world = (.error fault, world) := by
  simp only [World.writeFile, StateT.run_bind, StateT.run_get, pure_bind, h]
  rfl

theorem run_writeFile_of_ok {place : PathNames} (h : world.files.target path = .ok place) :
    (World.writeFile path contents).run world = (.ok (), world.storing place contents) := by
  simp only [World.writeFile, StateT.run_bind, StateT.run_get, pure_bind, h]
  rfl

end World

variable {refusals : Refusals} {before between after : World} {place : PathNames}
  {path contents : String}

/-- What writing one file does: nothing, or it puts the contents where the path leads. -/
inductive Stores (path contents : String) (before after : World) : List PathNames → Prop
  | current (hcurrent : before.files.read path = .ok contents) (hfiles : after.files = before.files)
      (hwritten : after.written = before.written) : Stores path contents before after []
  | stored (place : PathNames) (hstale : before.files.read path ≠ .ok contents)
      (hplace : before.files.target path = .ok place)
      (hfiles : after.files = before.files.put place (.file (some contents)))
      (hwritten : after.written = before.written ++ [place]) :
      Stores path contents before after [place]

namespace Stores

variable {places : List PathNames}

theorem directories (h : Stores path contents before after places) :
    SameDirectories before.files after.files := by
  cases h with
  | current _ hfiles =>
      rw [hfiles]
      exact .refl _
  | stored place _ hplace hfiles =>
      rw [hfiles]
      exact sameDirectories_put_file _ _ _

theorem others (h : Stores path contents before after places)
    (hplaces : ∀ stored ∈ places, stored ≠ place) :
    after.files.fileAt place = before.files.fileAt place := by
  cases h with
  | current _ hfiles => rw [hfiles]
  | stored stored _ _ hfiles =>
      rw [hfiles, fileAt_put_of_ne _ (hplaces stored List.mem_cons_self).symm]

theorem written (h : Stores path contents before after places) :
    after.written = before.written ++ places := by
  cases h with
  | current _ _ hwritten => rw [hwritten, List.append_nil]
  | stored _ _ _ _ hwritten => exact hwritten

theorem holds (h : Stores path contents before after places) :
    after.files.read path = .ok contents := by
  cases h with
  | current hcurrent hfiles => rwa [hfiles]
  | stored place _ hplace hfiles =>
      have hleads := (target_eq_ok.mp hplace).1
      rw [hfiles, read_eq_ok]
      exact ⟨place, hleads.mono (keepsDirectories_put _ _ _), fileAt_put_self _ (hasRoom_of_target hplace)⟩

theorem leads (h : Stores path contents before after places) :
    ∀ stored ∈ places, before.files.Leads path stored := by
  cases h with
  | current => exact nofun
  | stored place _ hplace =>
      intro stored hstored
      rw [List.mem_singleton.mp hstored]
      exact (target_eq_ok.mp hplace).1

end Stores

/-- Generated files whose names are different names of files. -/
structure WellNamed (files : List GeneratedFile) : Prop where
  names : ∀ file ∈ files, IsFileName file.name
  distinct : files.Pairwise fun file other => file.name ≠ other.name

/-- The files that are missing or hold something else. -/
def outdated (tree : Files) (dir : String) (files : List GeneratedFile) : List GeneratedFile :=
  files.filter fun file => tree.read (joinFile dir file.name) ≠ .ok file.contents

/-- What writing files does: what was outdated is written, in order, to where the paths lead, and
everything else stays. -/
structure Writes (dir : String) (files : List GeneratedFile) (before after : World)
    (places : List PathNames) : Prop where
  directories : SameDirectories before.files after.files
  written : after.written = before.written ++ places
  reached : List.Forall₂ (fun file place => before.files.Leads (joinFile dir file.name) place)
    (outdated before.files dir files) places
  others : ∀ place, (∀ stored ∈ places, stored ≠ place) →
    after.files.fileAt place = before.files.fileAt place
  holds : ∀ file ∈ files, after.files.read (joinFile dir file.name) = .ok file.contents

namespace WellNamed

variable {dir : String} {file : GeneratedFile} {rest : List GeneratedFile}

theorem tail (h : WellNamed (file :: rest)) : WellNamed rest :=
  ⟨fun other hother => h.names other (List.mem_cons_of_mem _ hother),
    (List.pairwise_cons.mp h.distinct).2⟩

theorem append_left {files more : List GeneratedFile} (h : WellNamed (files ++ more)) :
    WellNamed files :=
  ⟨fun file hfile => h.names file (List.mem_append_left _ hfile),
    (List.pairwise_append.mp h.distinct).1⟩

theorem ne_of_leads {files : List GeneratedFile} (h : WellNamed files) {other : GeneratedFile}
    (hfile : file ∈ files) (hother : other ∈ files) (hne : file.name ≠ other.name) {tree : Files}
    {place place' : PathNames} (hplace : tree.Leads (joinFile dir file.name) place)
    (hplace' : tree.Leads (joinFile dir other.name) place') : place ≠ place' :=
  hplace.ne (h.names file hfile) (h.names other hother) hne hplace'

theorem ne_head (h : WellNamed (file :: rest)) {other : GeneratedFile} (hother : other ∈ rest)
    {tree : Files} {place place' : PathNames} (hplace : tree.Leads (joinFile dir file.name) place)
    (hplace' : tree.Leads (joinFile dir other.name) place') : place ≠ place' :=
  h.ne_of_leads List.mem_cons_self (List.mem_cons_of_mem _ hother)
    ((List.pairwise_cons.mp h.distinct).1 other hother) hplace hplace'

end WellNamed

namespace Writes

variable {dir : String} {file : GeneratedFile} {files rest : List GeneratedFile}
  {places more : List PathNames}

theorem none (dir : String) (hfiles : after.files = before.files)
    (hwritten : after.written = before.written) : Writes dir [] before after [] where
  directories := by
    rw [hfiles]
    exact .refl _
  written := by rw [hwritten, List.append_nil]
  reached := .nil
  others place _ := by rw [hfiles]
  holds := nofun

theorem logged (h : Writes dir files before after places) {records : List LogRecord} :
    Writes dir files before (after.logged records) places :=
  ⟨h.directories, h.written, h.reached, h.others, h.holds⟩

theorem leads (h : Writes dir files before after places) :
    ∀ stored ∈ places, ∃ file ∈ files, before.files.Leads (joinFile dir file.name) stored := by
  intro stored hstored
  obtain ⟨file, hfile, hleads⟩ := Outcome.exists_mem_of_forall₂ h.reached hstored
  exact ⟨file, (List.mem_filter.mp hfile).1, hleads⟩

theorem outdated_eq (hnamed : WellNamed (file :: rest))
    (hstep : Stores (joinFile dir file.name) file.contents before between places) :
    outdated between.files dir rest = outdated before.files dir rest := by
  apply List.filter_congr
  intro other hother
  have hread : between.files.read (joinFile dir other.name) = .ok other.contents ↔
      before.files.read (joinFile dir other.name) = .ok other.contents := by
    apply read_eq_ok_congr hstep.directories
    intro place hplace
    apply hstep.others
    exact fun stored hstored => hnamed.ne_head hother (hstep.leads stored hstored) hplace
  simp only [ne_eq, hread]

theorem cons (hnamed : WellNamed (file :: rest))
    (hstep : Stores (joinFile dir file.name) file.contents before between places)
    (hrest : Writes dir rest between after more) :
    Writes dir (file :: rest) before after (places ++ more) where
  directories := hstep.directories.trans hrest.directories
  written := by rw [hrest.written, hstep.written, List.append_assoc]
  reached := by
    have hmore : List.Forall₂ (fun other place => before.files.Leads (joinFile dir other.name) place)
        (outdated before.files dir rest) more := by
      rw [← outdated_eq hnamed hstep]
      exact hrest.reached.imp fun other place hleads => hleads.mono hstep.directories.symm.keeps
    cases hstep with
    | current hcurrent =>
        rw [outdated, List.filter_cons_of_neg (by simp [hcurrent])]
        exact hmore
    | stored place hstale hplace =>
        rw [outdated, List.filter_cons_of_pos (by simpa using hstale)]
        exact .cons (target_eq_ok.mp hplace).1 hmore
  others place hplace := by
    rw [hrest.others place fun stored hstored => hplace stored (List.mem_append_right _ hstored)]
    exact hstep.others fun stored hstored => hplace stored (List.mem_append_left _ hstored)
  holds := by
    -- what is written afterwards goes to other places
    have hfirst : after.files.read (joinFile dir file.name) = .ok file.contents := by
      rw [read_eq_ok_congr hrest.directories]
      · exact hstep.holds
      · intro place hplace
        apply hrest.others
        intro stored hstored
        obtain ⟨other, hother, hleads⟩ := hrest.leads stored hstored
        exact (hnamed.ne_head hother hplace hleads).symm
    intro other hother
    rcases List.mem_cons.mp hother with rfl | hother
    · exact hfirst
    · exact hrest.holds other hother

end Writes

namespace Generator

theorem on_isUpToDate (path contents : String) (world : World) :
    (isUpToDate path contents).on world =
      (.ok (decide (world.files.read path = .ok contents)), world) := by
  rw [isUpToDate, on_bind_of_ok (on_readFile path world)]
  cases world.files.read path with
  | error fault => rfl
  | ok existing => simp [on_pure]

theorem on_writeIfChanged {result : Except Stop Unit}
    (h : (writeIfChanged (m := Disk refusals) path contents).inWorld.on before = (result, after)) :
    (result = .ok () ∧ ∃ places, Stores path contents before after places) ∨
      ∃ cause, result = .error (.fault ⟨.writeFile path, cause⟩) ∧ after = before := by
  rw [inWorld_writeIfChanged, on_bind_of_ok (on_isUpToDate _ _ _)] at h
  by_cases hcurrent : before.files.read path = .ok contents
  · rw [if_pos (decide_eq_true hcurrent)] at h
    cases h
    exact .inl ⟨rfl, [], .current hcurrent rfl rfl⟩
  · have hlift := on_lift (Disk.writeFile refusals path contents) before
    rw [if_neg (by simpa using hcurrent), on_bind_of_ok hlift] at h
    cases hrefused : refusals.ofFile before.files path with
    | some fault =>
        rw [Disk.run_writeFile_of_some hrefused] at h
        cases h
        exact .inr ⟨_, rfl, rfl⟩
    | none =>
        rw [Disk.run_writeFile_of_none hrefused] at h
        cases hplace : before.files.target path with
        | error fault =>
            rw [World.run_writeFile_of_error hplace] at h
            cases h
            exact .inr ⟨_, rfl, rfl⟩
        | ok place =>
            rw [World.run_writeFile_of_ok hplace] at h
            cases h
            exact .inl ⟨rfl, [place], .stored place hcurrent hplace rfl rfl⟩

/-- Files are written in order, up to the first that cannot be written. -/
theorem on_writeFiles {dir : String} {files : List GeneratedFile} {result : Except Stop (List String)}
    (hnamed : WellNamed files)
    (h : (writeFiles (m := Disk refusals) dir files).inWorld.on before = (result, after)) :
    (result = .ok (files.map fun file => joinFile dir file.name) ∧
        ∃ places, Writes dir files before after places) ∨
      ∃ done file rest places cause, files = done ++ file :: rest ∧
        Writes dir done before after places ∧
        result = .error (.fault ⟨.writeFile (joinFile dir file.name), cause⟩) := by
  induction files generalizing before after result with
  | nil =>
      cases h
      exact .inl ⟨rfl, [], .none dir rfl rfl⟩
  | cons file rest ih =>
      have hsteps : (writeFiles (m := Disk refusals) dir (file :: rest)).inWorld =
          (writeIfChanged (m := Disk refusals) (joinFile dir file.name) file.contents).inWorld >>=
            fun _ => (writeFiles (m := Disk refusals) dir rest).inWorld >>=
              fun paths => pure (joinFile dir file.name :: paths) := rfl
      rw [hsteps] at h
      rcases on_bind_cases h with ⟨_, between, hfirst, h⟩ | ⟨stop, rfl, hfirst⟩
      · rcases on_writeIfChanged hfirst with ⟨-, places, hstep⟩ | ⟨_, hfailed, -⟩
        · rcases on_bind_cases h with ⟨paths, last, hmore, h⟩ | ⟨stop, rfl, hmore⟩
          · cases h
            rcases ih hnamed.tail hmore with ⟨hpaths, more, hrest⟩ | ⟨_, _, _, _, _, -, -, hfailed⟩
            · cases hpaths
              exact .inl ⟨rfl, places ++ more, hrest.cons hnamed hstep⟩
            · cases hfailed
          · rcases ih hnamed.tail hmore with ⟨hpaths, -⟩ |
              ⟨done, failed, left, more, cause, rfl, hdone, hfailed⟩
            · cases hpaths
            · cases hfailed
              have hfront : WellNamed (file :: done) := hnamed.append_left
              exact .inr ⟨file :: done, failed, left, places ++ more, cause, rfl,
                hdone.cons hfront hstep, rfl⟩
        · cases hfailed
      · rcases on_writeIfChanged hfirst with ⟨hpaths, -⟩ | ⟨cause, hfailed, rfl⟩
        · cases hpaths
        · cases hfailed
          exact .inr ⟨[], file, rest, [], cause, rfl, .none dir rfl rfl, rfl⟩

end Generator

end TypedLogging
