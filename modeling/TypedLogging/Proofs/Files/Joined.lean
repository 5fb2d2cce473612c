import TypedLogging.Proofs.Files.Tree
import TypedLogging.Proofs.Text.Words

namespace TypedLogging.Files

/-- A name that stands for a file in every directory. -/
structure IsFileName (name : String) : Prop where
  nonempty : name ≠ ""
  slashless : '/' ∉ name.toList
  notHere : name ≠ "."
  notAbove : name ≠ ".."

def pieces (text : List Char) : List String := (Text.piecesAt (· == '/') text).map String.ofList

theorem pieces_append_slash (before behind : List Char) :
    pieces (before ++ '/' :: behind) = pieces before ++ pieces behind := by
  simp only [pieces, Text.piecesAt_eq]
  rw [List.splitOnP_append_cons _ _ (by decide), List.map_append]

theorem pieces_nil : pieces [] = [""] := rfl

section Joined

variable {dir name : String}

theorem pieces_of_isFileName (h : IsFileName name) : pieces name.toList = [name] := by
  rw [pieces, Text.piecesAt_eq, List.splitOnP_eq_singleton, List.map_singleton,
    String.ofList_toList]
  intro c hc
  rw [beq_eq_false_iff_ne]
  rintro rfl
  exact h.slashless hc

theorem names_writtenPath (text : String) : (writtenPath text).names =
    (if ['/'] <+: text.toList then ["/"] else []) ++
      (pieces text.toList).filter fun name => name ≠ "" && name ≠ "." := by
  have hslash : text.startsWith "/" = true ↔ ['/'] <+: text.toList := by
    simp
  unfold writtenPath
  dsimp only
  by_cases h : ['/'] <+: text.toList
  · rw [if_pos (hslash.mpr h), if_pos h]
    rfl
  · rw [if_neg (fun h' => h (hslash.mp h')), if_neg h]
    rfl

theorem exists_toList_joinFile (name : String) (h : dir ≠ "") : ∃ before,
    (joinFile dir name).toList = before ++ '/' :: name.toList ∧
      (dir.toList = before ∨ dir.toList = before ++ ['/']) := by
  unfold joinFile
  rw [if_neg h]
  by_cases hends : dir.endsWith "/"
  · rw [if_pos hends]
    have hsuffix : ['/'] <:+ dir.toList := by
      have h := String.Slice.endsWith_string_iff.mp hends
      rwa [String.copy_toSlice] at h
    obtain ⟨before, hbefore⟩ := hsuffix
    refine ⟨before, ?_, .inr hbefore.symm⟩
    rw [String.toList_append, ← hbefore, List.append_assoc]
    rfl
  · rw [if_neg hends]
    refine ⟨dir.toList, ?_, .inl rfl⟩
    simp

theorem names_joinFile (h : IsFileName name) :
    (writtenPath (joinFile dir name)).names = (writtenPath dir).names ++ [name] := by
  have hlast : [name].filter (fun name => name ≠ "" && name ≠ ".") = [name] := by
    simp [h.nonempty, h.notHere]
  by_cases hdir : dir = ""
  · subst hdir
    have hslash : ¬ ['/'] <+: name.toList := by
      intro hstarts
      exact h.slashless (hstarts.subset List.mem_cons_self)
    rw [joinFile, if_pos rfl, names_writtenPath, pieces_of_isFileName h, hlast, if_neg hslash]
    rfl
  · obtain ⟨before, hjoined, hbefore⟩ := exists_toList_joinFile name hdir
    rw [names_writtenPath, hjoined, pieces_append_slash, pieces_of_isFileName h,
      List.filter_append, hlast, names_writtenPath]
    rcases hbefore with hbefore | hbefore
    · have hnonempty : before ≠ [] := by
        rw [← hbefore]
        simpa using hdir
      obtain ⟨c, more, rfl⟩ := List.exists_cons_of_ne_nil hnonempty
      simp [hbefore]
    · have hempty : [""].filter (fun name => name ≠ "" && name ≠ ".") = [] := by simp
      rw [hbefore, pieces_append_slash, pieces_nil, List.filter_append, hempty]
      cases before with
      | nil => simp
      | cons c more => simp

variable {files : Files} {place : PathNames}

theorem Leads.enters (h : IsFileName name) (hleads : files.Leads (joinFile dir name) place) :
    ∃ here, files.Enters [] (writtenPath dir).names here ∧ place = here ++ [name] := by
  have hfollows := hleads.follows
  rw [names_joinFile h, follow_concat h.notAbove] at hfollows
  obtain ⟨here, henters, -, hplace⟩ := hfollows
  exact ⟨here, henters, hplace⟩

theorem Leads.ne {other : String} {place' : PathNames} (h : IsFileName name)
    (h' : IsFileName other) (hne : name ≠ other) (hleads : files.Leads (joinFile dir name) place)
    (hleads' : files.Leads (joinFile dir other) place') : place ≠ place' := by
  obtain ⟨here, henters, rfl⟩ := hleads.enters h
  obtain ⟨there, henters', rfl⟩ := hleads'.enters h'
  rw [henters'.unique henters]
  intro hsame
  exact hne (List.singleton_inj.mp (List.append_cancel_left hsame))

end Joined

end TypedLogging.Files
