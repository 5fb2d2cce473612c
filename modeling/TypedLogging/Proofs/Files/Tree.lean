import TypedLogging.Files
import TypedLogging.Proofs.Outcome

namespace TypedLogging.Files

open Outcome

variable {files before after : Files} {here place target dir : PathNames} {text contents : String}

/-- What the file at a place holds, if there is one. -/
def fileAt (files : Files) (place : PathNames) : Option (Option String) :=
  match files.find? place with
  | some (.file contents) => some contents
  | _ => none

theorem find?_of_isGiven (files : Files) (h : isGiven place = true) :
    files.find? place = some .directory := files.entries.find?_of_isGiven h

theorem not_isGiven_of_find?_ne (h : files.find? place ≠ some .directory) :
    isGiven place = false := by
  cases hgiven : isGiven place with
  | false => rfl
  | true => exact absurd (files.find?_of_isGiven hgiven) h

/-- There is a directory around everything that is there. -/
theorem find?_dropLast (files : Files) (h : files.find? place ≠ none) :
    files.find? place.dropLast = some .directory := by
  cases hgiven : isGiven place with
  | true =>
      apply find?_of_isGiven
      simp only [isGiven, Bool.or_eq_true, decide_eq_true_eq, List.all_eq_true] at hgiven ⊢
      rcases hgiven with rfl | habove
      · exact .inr nofun
      · exact .inr fun name hname => habove name (List.dropLast_subset _ hname)
  | false =>
      rw [find?, Entries.find?, if_neg (by simp [hgiven]), ne_eq, Option.map_eq_none_iff] at h
      obtain ⟨entry, hentry⟩ := Option.ne_none_iff_exists'.mp h
      have hsame : entry.1 = place := by simpa using List.find?_some hentry
      rw [← hsame]
      exact files.isTree entry (List.mem_of_find?_eq_some hentry)

theorem isDirectory_parentOf (files : Files) (h : files.find? here = some .directory) :
    files.find? (parentOf here) = some .directory := by
  unfold parentOf
  split
  · exact h
  · split
    next habove =>
      apply find?_of_isGiven
      simpa [isGiven] using Or.inr habove
    · exact files.find?_dropLast (by simp [h])

theorem find?_put_of_ne (files : Files) (node : Node) (h : place ≠ target) :
    (files.put target node).find? place = files.find? place := by
  unfold put
  split
  · exact files.entries.find?_put_of_ne node h
  · rfl

theorem HasRoom.find?_put (h : files.HasRoom target) (node : Node) :
    (files.put target node).find? target = some node := by
  rw [put, dif_pos h]
  exact files.entries.find?_put_self node (not_isGiven_of_find?_ne h.2)

/-- No directory is lost. -/
def KeepsDirectories (before after : Files) : Prop :=
  ∀ place, before.find? place = some .directory → after.find? place = some .directory

theorem KeepsDirectories.refl (files : Files) : KeepsDirectories files files := fun _ h => h

theorem KeepsDirectories.trans {between : Files} (h : KeepsDirectories before between)
    (h' : KeepsDirectories between after) : KeepsDirectories before after :=
  fun place hplace => h' place (h place hplace)

theorem keepsDirectories_put (files : Files) (target : PathNames) (node : Node) :
    KeepsDirectories files (files.put target node) := by
  intro place hplace
  by_cases hsame : place = target
  · subst hsame
    have hfull : ¬files.HasRoom place := fun h => h.2 hplace
    rwa [put, dif_neg hfull]
  · rwa [find?_put_of_ne files node hsame]

/-- The same places are directories. -/
def SameDirectories (before after : Files) : Prop :=
  ∀ place, after.find? place = some .directory ↔ before.find? place = some .directory

theorem SameDirectories.refl (files : Files) : SameDirectories files files := fun _ => Iff.rfl

theorem SameDirectories.trans {between : Files} (h : SameDirectories before between)
    (h' : SameDirectories between after) : SameDirectories before after :=
  fun place => (h' place).trans (h place)

theorem SameDirectories.keeps (h : SameDirectories before after) : KeepsDirectories before after :=
  fun place => (h place).mpr

theorem SameDirectories.symm (h : SameDirectories before after) : SameDirectories after before :=
  fun place => (h place).symm

theorem sameDirectories_put_file (files : Files) (target : PathNames) (held : Option String) :
    SameDirectories files (files.put target (.file held)) := by
  intro place
  refine ⟨fun hplace => ?_, keepsDirectories_put files target _ place⟩
  by_cases hsame : place = target
  · subst hsame
    by_cases hroom : files.HasRoom place
    · rw [hroom.find?_put] at hplace
      cases hplace
    · rwa [put, dif_neg hroom] at hplace
  · rwa [find?_put_of_ne files _ hsame] at hplace

/-- Names followed one after the other through directories alone. -/
inductive Enters (files : Files) : PathNames → PathNames → PathNames → Prop
  | stay (here : PathNames) : Enters files here [] here
  | up {here rest dir : PathNames} (h : Enters files (parentOf here) rest dir) :
      Enters files here (".." :: rest) dir
  | down {here rest dir : PathNames} {name : String} (hname : name ≠ "..")
      (hfits : Text.byteLength name.toList ≤ maxNameLength)
      (hdirectory : files.find? (here ++ [name]) = some .directory)
      (h : Enters files (here ++ [name]) rest dir) : Enters files here (name :: rest) dir

theorem Enters.unique {before after here there : PathNames} (h : files.Enters before after here)
    (h' : files.Enters before after there) : here = there := by
  induction h with
  | stay =>
      cases h'
      rfl
  | up _ ih =>
      cases h' with
      | up h' => exact ih h'
      | down hname => exact absurd rfl hname
  | down hname _ _ _ ih =>
      cases h' with
      | up => exact absurd rfl hname
      | down _ _ _ h' => exact ih h'

theorem follow_up (files : Files) (here rest : PathNames) :
    files.follow here (".." :: rest) = files.follow (parentOf here) rest := by
  rw [follow]

theorem follow_last (files : Files) (here : PathNames) {name : String} (h : name ≠ "..") :
    files.follow here [name] =
      if maxNameLength < Text.byteLength name.toList then .error .nameTooLong
      else .ok (here ++ [name]) := by
  rw [follow]
  exact h

theorem follow_down (files : Files) (here : PathNames) {name : String} (h : name ≠ "..")
    {rest : PathNames} (hrest : rest ≠ []) :
    files.follow here (name :: rest) =
      if maxNameLength < Text.byteLength name.toList then .error .nameTooLong
      else match files.find? (here ++ [name]) with
        | some .directory => files.follow (here ++ [name]) rest
        | some (.file _) => .error .notADirectory
        | none => .error .notFound := by
  exact follow.eq_4 files here name rest h hrest

theorem follow_down_eq_ok {name : String} (h : name ≠ "..") {rest : PathNames} (hrest : rest ≠ []) :
    files.follow here (name :: rest) = .ok place ↔
      Text.byteLength name.toList ≤ maxNameLength ∧
        files.find? (here ++ [name]) = some .directory ∧
        files.follow (here ++ [name]) rest = .ok place := by
  rw [follow_down files here h hrest]
  by_cases hfits : maxNameLength < Text.byteLength name.toList
  · simp [hfits, Nat.not_le_of_lt hfits]
  · cases hnode : files.find? (here ++ [name]) with
    | none => simp [hfits]
    | some node => cases node <;> simp [hfits, Nat.le_of_not_lt hfits]

theorem follow_last_eq_ok {name : String} (h : name ≠ "..") :
    files.follow here [name] = .ok place ↔
      Text.byteLength name.toList ≤ maxNameLength ∧ place = here ++ [name] := by
  rw [follow_last files here h]
  by_cases hfits : maxNameLength < Text.byteLength name.toList
  · simp [hfits, Nat.not_le_of_lt hfits]
  · simp [hfits, Nat.le_of_not_lt hfits, eq_comm]

theorem follow_concat {names : PathNames} {name : String} (hname : name ≠ "..") :
    files.follow here (names ++ [name]) = .ok place ↔ ∃ dir, files.Enters here names dir ∧
      Text.byteLength name.toList ≤ maxNameLength ∧ place = dir ++ [name] := by
  induction names generalizing here with
  | nil =>
      rw [List.nil_append, follow_last_eq_ok hname]
      constructor
      · exact fun h => ⟨here, .stay here, h⟩
      · rintro ⟨_, ⟨⟩, h⟩
        exact h
  | cons first rest ih =>
      rw [List.cons_append]
      by_cases hfirst : first = ".."
      · subst hfirst
        rw [follow_up, ih]
        constructor
        · exact fun ⟨dir, henters, h⟩ => ⟨dir, .up henters, h⟩
        · rintro ⟨dir, henters, h⟩
          cases henters with
          | up henters => exact ⟨dir, henters, h⟩
          | down hne => exact absurd rfl hne
      · rw [follow_down_eq_ok hfirst (by simp), ih]
        constructor
        · exact fun ⟨hfits, hdirectory, dir, henters, h⟩ =>
            ⟨dir, .down hfirst hfits hdirectory henters, h⟩
        · rintro ⟨dir, henters, h⟩
          cases henters with
          | up => exact absurd rfl hfirst
          | down _ hfits hdirectory henters => exact ⟨hfits, hdirectory, dir, henters, h⟩

theorem follow_mono {names : PathNames} (hkeeps : KeepsDirectories before after)
    (h : before.follow here names = .ok place) : after.follow here names = .ok place := by
  induction names generalizing here with
  | nil => exact h
  | cons name rest ih =>
      by_cases hname : name = ".."
      · subst hname
        rw [follow_up] at h ⊢
        exact ih h
      · by_cases hrest : rest = []
        · subst hrest
          rw [follow_last_eq_ok hname] at h ⊢
          exact h
        · rw [follow_down_eq_ok hname hrest] at h ⊢
          exact ⟨h.1, hkeeps _ h.2.1, ih h.2.2⟩

theorem find?_dropLast_of_follow {names : PathNames} (h : files.follow here names = .ok place)
    (hhere : files.find? here = some .directory) :
    files.find? place.dropLast = some .directory := by
  induction names generalizing here with
  | nil =>
      cases h
      exact files.find?_dropLast (by simp [hhere])
  | cons name rest ih =>
      by_cases hname : name = ".."
      · subst hname
        rw [follow_up] at h
        exact ih h (files.isDirectory_parentOf hhere)
      · by_cases hrest : rest = []
        · subst hrest
          obtain ⟨-, rfl⟩ := (follow_last_eq_ok hname).mp h
          rwa [List.dropLast_concat]
        · obtain ⟨-, hbetween, h⟩ := (follow_down_eq_ok hname hrest).mp h
          exact ih h hbetween

theorem find?_nil (files : Files) : files.find? [] = some .directory := files.find?_of_isGiven rfl

/-- A path that leads to a place where a file can be. -/
structure Leads (files : Files) (text : String) (place : PathNames) : Prop where
  nonempty : text ≠ ""
  checked : checkPath text = .ok ()
  open' : (writtenPath text).mustBeDirectory = false
  follows : files.follow [] (writtenPath text).names = .ok place

theorem Leads.mono (hkeeps : KeepsDirectories before after) (h : before.Leads text place) :
    after.Leads text place :=
  ⟨h.nonempty, h.checked, h.open', follow_mono hkeeps h.follows⟩

theorem Leads.unique (h : files.Leads text place) (h' : files.Leads text target) :
    place = target := by
  have hsame := h.follows.symm.trans h'.follows
  exact Except.ok.inj hsame

theorem fileAt_eq_some {held : Option String} :
    files.fileAt place = some held ↔ files.find? place = some (.file held) := by
  unfold fileAt
  cases files.find? place with
  | none => simp
  | some node => cases node <;> simp

theorem fileAt_eq_none_iff :
    files.fileAt place = none ↔ ∀ held, files.find? place ≠ some (.file held) := by
  rw [Option.eq_none_iff_forall_ne_some]
  simp only [ne_eq, fileAt_eq_some]

theorem fileAt_put_self (held : Option String) (h : files.HasRoom target) :
    (files.put target (.file held)).fileAt target = some held := by
  rw [fileAt_eq_some]
  exact h.find?_put _

theorem fileAt_put_of_ne (node : Node) (h : place ≠ target) :
    (files.put target node).fileAt place = files.fileAt place := by
  unfold fileAt
  rw [find?_put_of_ne _ _ h]

theorem resolve_eq_ok : files.resolve text = .ok place ↔
    text ≠ "" ∧ checkPath text = .ok () ∧ files.follow [] (writtenPath text).names = .ok place ∧
      ((writtenPath text).mustBeDirectory = true → files.fileAt place = none) := by
  unfold resolve
  by_cases htext : text = ""
  · simp [htext, Bind.bind, Except.bind, throw, throwThe, MonadExceptOf.throw]
  · cases hchecked : checkPath text with
    | error fault => simp [htext, Bind.bind, Except.bind]
    | ok checked =>
        cases hfollow : files.follow [] (writtenPath text).names with
        | error fault => simp [htext, hfollow, Bind.bind, Except.bind]
        | ok found =>
            simp only [htext, hfollow, if_false, Bind.bind, Except.bind, pure, Except.pure, throw,
              throwThe, MonadExceptOf.throw, fileAt_eq_none_iff]
            cases hslash : (writtenPath text).mustBeDirectory with
            | false => simp [htext]
            | true =>
                cases hnode : files.find? found with
                | none => simp +contextual [hnode, htext, eq_comm]
                | some node =>
                    cases node with
                    | directory =>
                        constructor
                        · intro h
                          cases h
                          simp [htext, hnode]
                        · exact fun h => h.2.2.1
                    | file held =>
                        constructor
                        · intro h
                          cases h
                        · rintro ⟨-, -, h, hfile⟩
                          cases h
                          exact absurd hnode (hfile rfl held)

theorem read_eq_ok : files.read text = .ok contents ↔
    ∃ place, files.Leads text place ∧ files.fileAt place = some (some contents) := by
  constructor
  · intro h
    obtain ⟨place, hplace, h⟩ := bind_eq_ok.mp h
    obtain ⟨hnonempty, hchecked, hfollows, hslash⟩ := resolve_eq_ok.mp hplace
    have hheld : files.fileAt place = some (some contents) := by
      rw [fileAt_eq_some]
      cases hnode : files.find? place with
      | none =>
          rw [hnode] at h
          cases h
      | some node =>
          rw [hnode] at h
          cases node with
          | directory => cases h
          | file held =>
              cases held with
              | none => cases h
              | some existing =>
                  cases h
                  rfl
    have hopen : (writtenPath text).mustBeDirectory = false := by
      rw [Bool.eq_false_iff]
      intro hdirectory
      rw [hslash hdirectory] at hheld
      cases hheld
    exact ⟨place, ⟨hnonempty, hchecked, hopen, hfollows⟩, hheld⟩
  · rintro ⟨place, hleads, hheld⟩
    have hplace : files.resolve text = .ok place := by
      apply resolve_eq_ok.mpr
      refine ⟨hleads.nonempty, hleads.checked, hleads.follows, fun h => ?_⟩
      rw [hleads.open'] at h
      cases h
    refine bind_eq_ok.mpr ⟨place, hplace, ?_⟩
    rw [fileAt_eq_some.mp hheld]
    rfl

theorem read_eq_ok_congr (hdirectories : SameDirectories before after)
    (hsame : ∀ place, before.Leads text place → after.fileAt place = before.fileAt place) :
    after.read text = .ok contents ↔ before.read text = .ok contents := by
  rw [read_eq_ok, read_eq_ok]
  constructor
  · rintro ⟨place, hleads, hheld⟩
    have hbefore := hleads.mono hdirectories.symm.keeps
    exact ⟨place, hbefore, (hsame place hbefore).symm.trans hheld⟩
  · rintro ⟨place, hleads, hheld⟩
    exact ⟨place, hleads.mono hdirectories.keeps, (hsame place hleads).trans hheld⟩

theorem target_eq_ok : files.target text = .ok place ↔
    files.Leads text place ∧ files.find? place ≠ some .directory := by
  unfold target
  rw [bind_eq_ok]
  constructor
  · rintro ⟨found, hfound, h⟩
    obtain ⟨hnonempty, hchecked, hfollows, -⟩ := resolve_eq_ok.mp hfound
    by_cases hrefused : files.isDirectory found || (writtenPath text).mustBeDirectory
    · rw [if_pos hrefused] at h
      cases h
    · rw [if_neg hrefused] at h
      cases h
      simp only [isDirectory, Bool.or_eq_true, decide_eq_true_eq, not_or, Bool.not_eq_true]
        at hrefused
      exact ⟨⟨hnonempty, hchecked, hrefused.2, hfollows⟩, hrefused.1⟩
  · rintro ⟨hleads, hnode⟩
    refine ⟨place, ?_, ?_⟩
    · apply resolve_eq_ok.mpr
      refine ⟨hleads.nonempty, hleads.checked, hleads.follows, fun h => ?_⟩
      rw [hleads.open'] at h
      cases h
    · rw [if_neg (by simp [isDirectory, hnode, hleads.open'])]
      rfl

theorem hasRoom_of_target (h : files.target text = .ok place) : files.HasRoom place := by
  obtain ⟨hleads, hnode⟩ := target_eq_ok.mp h
  exact ⟨find?_dropLast_of_follow hleads.follows files.find?_nil, hnode⟩

end TypedLogging.Files
