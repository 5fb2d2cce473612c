import Mathlib.Data.List.Induction
import TypedLogging.Proofs.Files.Joined

namespace TypedLogging.Files

open Outcome

variable {files before after made : Files} {here place dir : PathNames} {text : String}

/-- Every file holds what it held, and no file is new. -/
def SameFiles (before after : Files) : Prop := ∀ place, after.fileAt place = before.fileAt place

theorem sameFiles_put_directory (h : files.find? place = none) :
    SameFiles files (files.put place .directory) := by
  intro other
  by_cases hsame : other = place
  · subst hsame
    by_cases hroom : files.HasRoom other
    · rw [fileAt, fileAt, hroom.find?_put, h]
    · rw [put, dif_neg hroom]
  · rw [fileAt_put_of_ne _ hsame]

/-- Directories may be new, but none is lost and no file changes. -/
structure Grows (before after : Files) : Prop where
  keeps : KeepsDirectories before after
  same : SameFiles before after

theorem Grows.refl (files : Files) : Grows files files := ⟨.refl files, fun _ => rfl⟩

theorem Grows.trans {between : Files} (h : Grows before between) (h' : Grows between after) :
    Grows before after :=
  ⟨h.keeps.trans h'.keeps, fun place => (h'.same place).trans (h.same place)⟩

theorem grows_put_directory (h : files.find? place = none) :
    Grows files (files.put place .directory) :=
  ⟨keepsDirectories_put files place _, sameFiles_put_directory h⟩

theorem grows_makeAlong (files : Files) (here names : PathNames) :
    Grows files (files.makeAlong here names).1 := by
  induction names generalizing files here with
  | nil => exact .refl files
  | cons name rest ih =>
      by_cases hname : name = ".."
      · subst hname
        rw [makeAlong]
        exact ih files (parentOf here)
      · rw [makeAlong]
        · by_cases hfits : maxNameLength < Text.byteLength name.toList
          · rw [if_pos hfits]
            exact .refl files
          · rw [if_neg hfits]
            cases hnode : files.find? (here ++ [name]) with
            | none => exact (grows_put_directory hnode).trans (ih _ _)
            | some node =>
                cases node with
                | directory => exact ih files (here ++ [name])
                | file held => exact .refl files
        · exact hname

theorem grows_makeDirs (files : Files) (text : String) : Grows files (files.makeDirs text).1 := by
  unfold makeDirs
  cases checkPath text with
  | error fault => exact .refl files
  | ok _ =>
      dsimp only
      cases hfollow : files.follow [] (writtenPath text).names with
      | error fault =>
          cases fault with
          | notFound => exact grows_makeAlong files [] _
          | _ => exact .refl files
      | ok place =>
          dsimp only
          cases hnode : files.find? place with
          | none =>
              dsimp only
              split
              · exact .refl files
              · exact grows_put_directory hnode
          | some node => cases node <;> exact .refl files

theorem grows_of_makeDirs {result : Except IoFault Unit} (h : files.makeDirs text = (made, result)) :
    Grows files made := by
  have hgrows := grows_makeDirs files text
  rwa [h] at hgrows

/-- A path that leads to a directory. -/
structure Opens (files : Files) (text : String) (dir : PathNames) : Prop where
  checked : checkPath text = .ok ()
  follows : files.follow [] (writtenPath text).names = .ok dir
  isDirectory : files.find? dir = some .directory

theorem Opens.mono (hkeeps : KeepsDirectories before after) (h : before.Opens text dir) :
    after.Opens text dir :=
  ⟨h.checked, follow_mono hkeeps h.follows, hkeeps dir h.isDirectory⟩

theorem Opens.makeDirs (h : files.Opens text dir) : files.makeDirs text = (files, .ok ()) := by
  simp only [Files.makeDirs, h.checked, h.follows, h.isDirectory]

theorem opens_of_checkDirectory {names : PathNames} (h : files.checkDirectory names = .ok ()) :
    ∃ dir, files.follow [] names = .ok dir ∧ files.find? dir = some .directory := by
  obtain ⟨dir, hdir, h⟩ := bind_eq_ok.mp h
  refine ⟨dir, hdir, ?_⟩
  cases hnode : files.find? dir with
  | none =>
      rw [hnode] at h
      cases h
  | some node =>
      cases node with
      | directory => rfl
      | file held =>
          rw [hnode] at h
          cases h

theorem opens_of_makeDirs (h : files.makeDirs text = (made, .ok ())) : ∃ dir, made.Opens text dir := by
  unfold Files.makeDirs at h
  cases hchecked : checkPath text with
  | error fault =>
      rw [hchecked] at h
      cases h
  | ok checked =>
      rw [hchecked] at h
      dsimp only at h
      cases hfollow : files.follow [] (writtenPath text).names with
      | error fault =>
          rw [hfollow] at h
          cases fault with
          | notFound =>
              dsimp only at h
              obtain ⟨hmade, h⟩ := Prod.mk.inj h
              obtain ⟨_, -, h⟩ := bind_eq_ok.mp h
              rw [hmade] at h
              obtain ⟨dir, hfollows, hdirectory⟩ := opens_of_checkDirectory h
              exact ⟨dir, hchecked, hfollows, hdirectory⟩
          | _ => cases h
      | ok place =>
          rw [hfollow] at h
          dsimp only at h
          cases hnode : files.find? place with
          | none =>
              rw [hnode] at h
              dsimp only at h
              split at h
              · cases h
              · cases h
                have hput := grows_put_directory hnode
                have hroom : files.HasRoom place :=
                  ⟨find?_dropLast_of_follow hfollow files.find?_nil, by simp [hnode]⟩
                exact ⟨place, hchecked, follow_mono hput.keeps hfollow, hroom.find?_put _⟩
          | some node =>
              rw [hnode] at h
              cases node with
              | directory =>
                  cases h
                  exact ⟨place, hchecked, hfollow, hnode⟩
              | file held => cases h

theorem read_mono {contents : String} (hgrows : Grows before after)
    (h : before.read text = .ok contents) : after.read text = .ok contents := by
  obtain ⟨place, hleads, hheld⟩ := read_eq_ok.mp h
  apply read_eq_ok.mpr
  exact ⟨place, hleads.mono hgrows.keeps, (hgrows.same place).trans hheld⟩

section Missing

/-- No name steps back behind a directory that is missing. -/
def NeverReturns (files : Files) (names : PathNames) : Prop :=
  ∀ (front rest here : PathNames) (name : String), names = front ++ name :: rest →
    files.Enters [] front here → name ≠ ".." → files.find? (here ++ [name]) = none → ".." ∉ rest

variable {names : PathNames}

theorem neverReturns_singleton (files : Files) (name : String) : files.NeverReturns [name] := by
  intro front rest here missing hnames _ _ _
  have hlength := congrArg List.length hnames
  have hrest : rest = [] := by
    rw [← List.length_eq_zero_iff]
    simp at hlength
    omega
  rw [hrest]
  exact List.not_mem_nil

theorem find?_append (files : Files) (h : files.find? here = none) (names : PathNames) :
    files.find? (here ++ names) = none := by
  induction names using List.reverseRecOn with
  | nil => rwa [List.append_nil]
  | append_singleton front name ih =>
      by_contra hsome
      have hdirectory := files.find?_dropLast hsome
      rw [← List.append_assoc, List.dropLast_concat, ih] at hdirectory
      cases hdirectory

theorem Enters.eq_append (h : files.Enters here names dir) (hup : ".." ∉ names) :
    dir = here ++ names := by
  induction h with
  | stay here => rw [List.append_nil]
  | up => exact absurd List.mem_cons_self hup
  | down _ _ _ _ ih =>
      rw [ih fun h => hup (List.mem_cons_of_mem _ h), List.append_assoc]
      rfl

/-- What is entered once directories have been made could be entered before, up to the first directory
that was missing. -/
theorem Enters.of_grows (hgrows : Grows before after) (h : after.Enters here names dir) :
    before.Enters here names dir ∨
      ∃ front name rest there, names = front ++ name :: rest ∧ before.Enters here front there ∧
        name ≠ ".." ∧ before.find? (there ++ [name]) = none ∧
        after.Enters (there ++ [name]) rest dir := by
  induction h with
  | stay here => exact .inl (.stay here)
  | up _ ih =>
      rcases ih with h | ⟨front, name, rest, there, rfl, henters, hmissing⟩
      · exact .inl (.up h)
      · exact .inr ⟨".." :: front, name, rest, there, rfl, .up henters, hmissing⟩
  | @down here rest dir name hname hfits hdirectory h ih =>
      cases hnode : before.find? (here ++ [name]) with
      | none => exact .inr ⟨[], name, rest, here, rfl, .stay here, hname, hnode, h⟩
      | some node =>
          cases node with
          | directory =>
              rcases ih with h | ⟨front, name', rest, there, rfl, henters, hmissing⟩
              · exact .inl (.down hname hfits hnode h)
              · exact .inr ⟨name :: front, name', rest, there, rfl,
                  .down hname hfits hnode henters, hmissing⟩
          | file held =>
              have hsame := hgrows.same (here ++ [name])
              rw [fileAt_eq_some.mpr hnode, fileAt_eq_some, hdirectory] at hsame
              cases hsame

/-- A file that can be read once directories have been made could be read before, unless the path steps
back out of a directory that was missing. -/
theorem read_of_grows {dir name contents : String}
    (hreturns : before.NeverReturns (writtenPath dir).names) (hname : IsFileName name)
    (hgrows : Grows before after) (h : after.read (joinFile dir name) = .ok contents) :
    before.read (joinFile dir name) = .ok contents := by
  obtain ⟨place, hleads, hheld⟩ := read_eq_ok.mp h
  rw [hgrows.same] at hheld
  have hfollows := hleads.follows
  rw [names_joinFile hname, follow_concat hname.notAbove] at hfollows
  obtain ⟨here, henters, hfits, rfl⟩ := hfollows
  have hbefore : before.Enters [] (writtenPath dir).names here := by
    rcases henters.of_grows hgrows with
      h | ⟨front, missing, rest, there, hnames, hfront, hup, hnone, hrest⟩
    · exact h
    · exfalso
      have hinside := hrest.eq_append (hreturns front rest there missing hnames hfront hup hnone)
      have hnothing : before.find? (here ++ [name]) = none := by
        rw [hinside, List.append_assoc]
        exact before.find?_append hnone _
      rw [fileAt_eq_some, hnothing] at hheld
      cases hheld
  apply read_eq_ok.mpr
  refine ⟨_, ⟨hleads.nonempty, hleads.checked, hleads.open', ?_⟩, hheld⟩
  rw [names_joinFile hname, follow_concat hname.notAbove]
  exact ⟨here, hbefore, hfits, rfl⟩

end Missing

end TypedLogging.Files
