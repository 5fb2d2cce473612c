import TypedLogging.Emission.Name
import TypedLogging.Proofs.Files.Joined
import TypedLogging.Proofs.Text.Seams

namespace TypedLogging

namespace Text

theorem toNat_of_mem_snakeCase {text : List Char} {d : Char} (h : d ∈ snakeCase text) :
    d.toNat = 0 ∨ (48 ≤ d.toNat ∧ d.toNat ≤ 57) ∨ 95 ≤ d.toNat := by
  rcases mem_joinWith h with h | ⟨lower, hlower, hd⟩
  · rw [List.mem_singleton.mp h]
    decide
  · obtain ⟨word, hword, rfl⟩ := List.mem_map.mp hlower
    rcases mem_lowerWord hd with rfl | ⟨c, hc, hd⟩
    · decide
    · have halphanumeric := (mem_words hword).2 c hc
      cases hascii : isAscii c with
      | false =>
          have hrange := mem_lowered_of_not_isAscii hascii hd
          omega
      | true =>
          rw [isAlphanumeric, if_pos hascii] at halphanumeric
          simp only [isAsciiAlphanumeric, isAsciiLetter, Bool.or_eq_true, isAsciiLower_iff,
            isAsciiUpper_iff, isAsciiDigit_iff] at halphanumeric
          rw [lowered, if_pos hascii, List.mem_singleton] at hd
          by_cases hupper : isAsciiUpper c = true
          · rw [if_pos hupper] at hd
            rw [isAsciiUpper_iff] at hupper
            have hvalue : d.toNat = c.toNat + 32 := by
              rw [hd, toNat_ofNat_of_lt (by omega)]
            omega
          · rw [if_neg hupper] at hd
            rw [isAsciiUpper_iff] at hupper
            rw [hd]
            omega

end Text

namespace Emission

def fileStem (declaration : Annotated) : String :=
  "__".intercalate ((fileSegments declaration).map TypedLogging.snake) ++ "_logger_messages"

theorem fileName_eq_stem (declaration : Annotated) :
    fileName declaration = fileStem declaration ++ ".rs" := by
  rw [fileName, fileStem, String.append_assoc]
  rfl

theorem toNat_of_mem_fileStem {declaration : Annotated} {d : Char}
    (h : d ∈ (fileStem declaration).toList) :
    d.toNat = 0 ∨ (48 ≤ d.toNat ∧ d.toNat ≤ 57) ∨ 95 ≤ d.toNat := by
  rw [fileStem, String.toList_append] at h
  rcases List.mem_append.mp h with h | h
  · rw [String.toList_intercalate, ← Text.joinWith_eq] at h
    rcases Text.mem_joinWith h with h | ⟨word, hword, h⟩
    · have hunderscore : d = '_' := by simpa using h
      rw [hunderscore]
      decide
    · obtain ⟨_, hname, rfl⟩ := List.mem_map.mp hword
      obtain ⟨segment, -, rfl⟩ := List.mem_map.mp hname
      rw [TypedLogging.snake, String.toList_ofList] at h
      exact Text.toNat_of_mem_snakeCase h
  · have hsuffix : "_logger_messages".toList.all (95 ≤ ·.toNat) = true := by decide
    exact .inr (.inr (of_decide_eq_true (List.all_eq_true.mp hsuffix d h)))

theorem not_mem_fileName {declaration : Annotated} {d : Char} (hstem : d ∉ (fileStem declaration).toList)
    (hextension : d ∉ ".rs".toList) : d ∉ (fileName declaration).toList := by
  rw [fileName_eq_stem, String.toList_append, List.mem_append, not_or]
  exact ⟨hstem, hextension⟩

theorem isFileName_fileName (declaration : Annotated) : Files.IsFileName (fileName declaration) := by
  have hsuffix : ∃ before, (fileName declaration).toList = before ++ "_logger_messages.rs".toList :=
    ⟨_, String.toList_append⟩
  have hne : ∀ other : String, other.toList.length < 19 → fileName declaration ≠ other := by
    rintro other hshort rfl
    obtain ⟨before, hbefore⟩ := hsuffix
    rw [hbefore, List.length_append] at hshort
    have hlength : "_logger_messages.rs".toList.length = 19 := by decide
    omega
  exact ⟨hne "" (by decide),
    not_mem_fileName (fun h => absurd (toNat_of_mem_fileStem h) (by decide)) (by decide),
    hne "." (by decide), hne ".." (by decide)⟩

theorem isSeamless_snake (segment : String) :
    Text.IsSeamless (TypedLogging.snake segment).toList := by
  rw [TypedLogging.snake, String.toList_ofList]
  exact Text.isSeamless_snakeCase _

theorem intercalate_snake_inj {first second : List String} (hne : first ≠ []) (hne' : second ≠ [])
    (he : "__".intercalate (first.map TypedLogging.snake) =
      "__".intercalate (second.map TypedLogging.snake)) :
    first.map TypedLogging.snake = second.map TypedLogging.snake := by
  have hseamless : ∀ segments : List String,
      ∀ part ∈ (segments.map TypedLogging.snake).map String.toList, Text.IsSeamless part := by
    intro segments part hpart
    obtain ⟨name, hname, rfl⟩ := List.mem_map.mp hpart
    obtain ⟨segment, -, rfl⟩ := List.mem_map.mp hname
    exact isSeamless_snake segment
  have hjoined := congrArg String.toList he
  rw [String.toList_intercalate, String.toList_intercalate, ← Text.joinWith_eq,
    ← Text.joinWith_eq] at hjoined
  have hparts := Text.joinWith_seam_inj (by simpa using hne) (by simpa using hne')
    (hseamless first) (hseamless second) hjoined
  exact List.map_injective_iff.mpr (fun _ _ => String.toList_injective) hparts

theorem fileSegments_ne_nil (declaration : Annotated) : fileSegments declaration ≠ [] := by
  simp [fileSegments]

theorem fileName_eq_iff (first second : Annotated) :
    fileName first = fileName second ↔
      (fileSegments first).map TypedLogging.snake = (fileSegments second).map TypedLogging.snake := by
  constructor
  · intro he
    rw [fileName, fileName, String.append_left_inj] at he
    exact intercalate_snake_inj (fileSegments_ne_nil first) (fileSegments_ne_nil second) he
  · intro he
    rw [fileName, fileName, he]

/-- Two types have one file name only where the segments of their paths are the same in snake case,
empty ones among them. No name leads out of a directory or has a second extension. -/
theorem fileNames_keep_apart :
    (∀ first second : Annotated, fileName first = fileName second ↔
      (fileSegments first).map TypedLogging.snake = (fileSegments second).map TypedLogging.snake) ∧
    ∀ declaration : Annotated, '/' ∉ (fileName declaration).toList ∧
      '\\' ∉ (fileName declaration).toList ∧
      ∃ stem, fileName declaration = stem ++ ".rs" ∧ '.' ∉ stem.toList := by
  refine ⟨fileName_eq_iff, fun declaration => ⟨?_, ?_, fileStem declaration, fileName_eq_stem _, ?_⟩⟩
  · exact (isFileName_fileName declaration).slashless
  · exact not_mem_fileName (fun h => absurd (toNat_of_mem_fileStem h) (by decide)) (by decide)
  · exact fun h => absurd (toNat_of_mem_fileStem h) (by decide)

end Emission

end TypedLogging
