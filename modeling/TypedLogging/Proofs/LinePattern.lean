import Mathlib.Data.List.Basic
import Mathlib.Data.List.Infix
import TypedLogging.Expectation

namespace TypedLogging.LinePattern

def wildcard : List Char := "[..]".toList

/-- A pattern with the marks for errors and warnings written out, and slashes alone. -/
def writtenOut (expected : String) : List Char :=
  slashed (expandWarning (expandError expected.toList))

/-- The line is the pattern with some text in the place of every wildcard. -/
inductive Fits : List Char → List Char → Prop
  | nil : Fits [] []
  | gap (text : List Char) {pattern line : List Char} (h : Fits pattern line) :
      Fits ('[' :: '.' :: '.' :: ']' :: pattern) (text ++ line)
  | char {c : Char} {pattern line : List Char} (hplain : ¬wildcard <+: c :: pattern)
      (h : Fits pattern line) : Fits (c :: pattern) (c :: line)

/-- The parts stand in the line one after the other with some text in front of each, and `left` is what is
behind the last one. -/
inductive Placed : List (List Char) → List Char → List Char → Prop
  | nil (left : List Char) : Placed [] left left
  | cons (text part : List Char) {parts : List (List Char)} {line left : List Char}
      (h : Placed parts line left) : Placed (part :: parts) (text ++ (part ++ line)) left

section Parts

variable {c : Char} {pattern line first : List Char} {more : List (List Char)}

theorem wildcard_prefix_iff : wildcard <+: pattern ↔ ∃ rest, pattern = '[' :: '.' :: '.' :: ']' :: rest :=
  ⟨fun ⟨rest, h⟩ => ⟨rest, h.symm⟩, fun ⟨rest, h⟩ => ⟨rest, h.symm⟩⟩

theorem not_wildcard_of_char (h : ∀ rest, c = '[' → pattern = '.' :: '.' :: ']' :: rest → False) :
    ¬wildcard <+: c :: pattern := by
  rw [wildcard_prefix_iff]
  rintro ⟨rest, he⟩
  obtain ⟨rfl, rfl⟩ := List.cons.inj he
  exact h rest rfl rfl

theorem parts_ne_nil (pattern : List Char) : parts pattern ≠ [] := by
  fun_induction parts pattern <;> simp

theorem parts_cons (hplain : ¬wildcard <+: c :: pattern) (h : parts pattern = first :: more) :
    parts (c :: pattern) = (c :: first) :: more := by
  rw [parts, h]
  rintro rest rfl rfl
  exact hplain (wildcard_prefix_iff.mpr ⟨rest, rfl⟩)

@[elab_as_elim]
theorem pattern_induction {motive : List Char → Prop} (nil : motive [])
    (gap : ∀ pattern, motive pattern → motive ('[' :: '.' :: '.' :: ']' :: pattern))
    (char : ∀ c pattern, ¬wildcard <+: c :: pattern → motive pattern → motive (c :: pattern))
    (pattern : List Char) : motive pattern := by
  induction pattern using parts.induct with
  | case1 => exact nil
  | case2 rest ih => exact gap rest ih
  | case3 c rest hplain hparts => exact absurd hparts (parts_ne_nil rest)
  | case4 c rest hplain first more hparts ih => exact char c rest (not_wildcard_of_char hplain) ih

theorem parts_eq_singleton_nil (h : parts pattern = [[]]) : pattern = [] := by
  cases pattern using pattern_induction with
  | nil => rfl
  | gap pattern => exact absurd (List.cons.inj h).2 (parts_ne_nil pattern)
  | char c pattern hplain =>
      obtain ⟨first, more, hparts⟩ := List.exists_cons_of_ne_nil (parts_ne_nil pattern)
      rw [parts_cons hplain hparts] at h
      cases h

/-- Two wildcards do not overlap, so the last part is empty exactly behind a wildcard at the end. -/
theorem wildcard_suffix_iff (h : parts pattern = first :: more) :
    wildcard <:+ pattern ↔ more ≠ [] ∧ more.getLastD [] = [] := by
  induction pattern using pattern_induction generalizing first more with
  | nil =>
      cases h
      simp [wildcard]
  | gap pattern ih =>
      obtain ⟨next, further, hnext⟩ := List.exists_cons_of_ne_nil (parts_ne_nil pattern)
      rw [parts, hnext] at h
      cases h
      have hhead : wildcard <:+ '[' :: '.' :: '.' :: ']' :: pattern ↔
          pattern = [] ∨ wildcard <:+ pattern := by
        simp [wildcard, List.suffix_cons_iff, eq_comm]
      rw [hhead, ih hnext]
      cases further with
      | nil =>
          have hempty : pattern = [] ↔ next = [] :=
            ⟨fun he => by subst he; cases hnext; rfl, fun he => parts_eq_singleton_nil (he ▸ hnext)⟩
          simp [hempty]
      | cons second further =>
          have hne : pattern ≠ [] := by
            rintro rfl
            cases hnext
          simp [hne]
  | char c pattern hplain ih =>
      obtain ⟨next, further, hnext⟩ := List.exists_cons_of_ne_nil (parts_ne_nil pattern)
      rw [parts_cons hplain hnext] at h
      cases h
      rw [List.suffix_cons_iff, ih hnext, or_iff_right]
      rintro he
      exact hplain (he ▸ List.prefix_refl _)

theorem fits_iff_placed (h : parts pattern = first :: more) :
    Fits pattern line ↔ ∃ rest, line = first ++ rest ∧ Placed more rest [] := by
  induction pattern using pattern_induction generalizing first more line with
  | nil =>
      cases h
      constructor
      · rintro ⟨⟩
        exact ⟨[], rfl, .nil []⟩
      · rintro ⟨rest, rfl, ⟨⟩⟩
        exact .nil
  | gap pattern ih =>
      obtain ⟨next, further, hnext⟩ := List.exists_cons_of_ne_nil (parts_ne_nil pattern)
      rw [parts, hnext] at h
      cases h
      constructor
      · intro hfits
        cases hfits with
        | gap text hfits =>
            obtain ⟨rest, rfl, hplaced⟩ := (ih hnext).mp hfits
            exact ⟨_, rfl, .cons text next hplaced⟩
        | char hplain => exact absurd (wildcard_prefix_iff.mpr ⟨pattern, rfl⟩) hplain
      · rintro ⟨rest, rfl, hplaced⟩
        cases hplaced with
        | cons text _ hplaced => exact .gap text ((ih hnext).mpr ⟨_, rfl, hplaced⟩)
  | char c pattern hplain ih =>
      obtain ⟨next, further, hnext⟩ := List.exists_cons_of_ne_nil (parts_ne_nil pattern)
      rw [parts_cons hplain hnext] at h
      cases h
      constructor
      · intro hfits
        cases hfits with
        | gap text hfits => exact absurd (wildcard_prefix_iff.mpr ⟨_, rfl⟩) hplain
        | char _ hfits =>
            obtain ⟨rest, rfl, hplaced⟩ := (ih hnext).mp hfits
            exact ⟨rest, rfl, hplaced⟩
      · rintro ⟨rest, rfl, hplaced⟩
        exact .char hplain ((ih hnext).mpr ⟨rest, rfl, hplaced⟩)

end Parts

section Placed

variable {part text line left : List Char} {parts : List (List Char)}

theorem Placed.append (h : Placed parts line left) (further : List Char) :
    Placed parts (line ++ further) (left ++ further) := by
  induction h with
  | nil left => exact .nil _
  | cons text part _ ih =>
      rw [List.append_assoc, List.append_assoc]
      exact .cons text part ih

theorem Placed.exists_line (h : Placed parts line left) :
    ∃ before, line = before ++ left ∧ Placed parts before [] := by
  induction h with
  | nil left => exact ⟨[], rfl, .nil []⟩
  | @cons text part parts line left _ ih =>
      obtain ⟨before, rfl, hplaced⟩ := ih
      exact ⟨text ++ (part ++ before), by simp, .cons text part hplaced⟩

theorem Placed.of_suffix {longer : List Char} (h : Placed parts line left) (hline : line <:+ longer) :
    ∃ left', Placed parts longer left' ∧ left <:+ left' := by
  cases h with
  | nil => exact ⟨longer, .nil longer, hline⟩
  | cons text part h =>
      obtain ⟨front, rfl⟩ := hline
      refine ⟨left, ?_, List.suffix_refl left⟩
      rw [← List.append_assoc]
      exact .cons (front ++ text) part h

theorem Placed.of_last_empty (h : Placed parts line left) (hne : parts ≠ [])
    (hlast : parts.getLastD [] = []) : Placed parts line [] := by
  induction h with
  | nil => exact absurd rfl hne
  | @cons text part parts line left h ih =>
      cases h with
      | nil =>
          obtain rfl : part = [] := hlast
          have hend : Placed [[]] (text ++ line ++ ([] ++ [])) [] := .cons (text ++ line) [] (.nil [])
          simpa using hend
      | cons text' part' h =>
          refine .cons text part (ih (List.cons_ne_nil _ _) ?_)
          rwa [List.getLastD_cons] at hlast

end Placed

section Search

variable {part line left : List Char} {parts : List (List Char)}

theorem exists_of_behind? (h : behind? part line = some left) :
    ∃ text, line = text ++ (part ++ left) := by
  induction line with
  | nil =>
      rw [behind?] at h
      split at h
      next hempty =>
        cases h
        exact ⟨[], by simp [hempty]⟩
      next => cases h
  | cons c line ih =>
      rw [behind?] at h
      split at h
      next hbegins =>
        cases h
        obtain ⟨rest, hrest⟩ := List.isPrefixOf_iff_prefix.mp hbegins
        exact ⟨[], by rw [← hrest, List.drop_left, List.nil_append]⟩
      next =>
        obtain ⟨text, hline⟩ := ih h
        exact ⟨c :: text, congrArg (c :: ·) hline⟩

/-- Behind the first place of a part there is no less than behind any other. -/
theorem exists_behind? (text part left : List Char) :
    ∃ left', behind? part (text ++ (part ++ left)) = some left' ∧ left <:+ left' := by
  induction text with
  | nil =>
      cases hline : part ++ left with
      | nil =>
          obtain ⟨rfl, rfl⟩ := List.append_eq_nil_iff.mp hline
          exact ⟨[], rfl, List.suffix_refl _⟩
      | cons c line =>
          have hbegins : part <+: c :: line := ⟨left, hline⟩
          refine ⟨left, ?_, List.suffix_refl _⟩
          rw [List.nil_append, behind?, if_pos (List.isPrefixOf_iff_prefix.mpr hbegins), ← hline,
            List.drop_left]
  | cons c text ih =>
      rw [List.cons_append, behind?]
      by_cases hbegins : part <+: c :: (text ++ (part ++ left))
      · rw [if_pos (List.isPrefixOf_iff_prefix.mpr hbegins)]
        refine ⟨_, rfl, ?_⟩
        have hlength : part.length ≤ (c :: text ++ part).length := by
          rw [List.length_append]
          exact Nat.le_add_left _ _
        rw [← List.cons_append, ← List.append_assoc, List.drop_append_of_le_length hlength]
        exact List.suffix_append _ _
      · rw [if_neg (mt List.isPrefixOf_iff_prefix.mp hbegins)]
        exact ih

theorem placed_of_leftover? (h : leftover? parts line = some left) : Placed parts line left := by
  induction parts generalizing line with
  | nil =>
      cases h
      exact .nil left
  | cons part parts ih =>
      obtain ⟨behind, hbehind, hleft⟩ := Option.bind_eq_some_iff.mp h
      obtain ⟨text, rfl⟩ := exists_of_behind? hbehind
      exact .cons text part (ih hleft)

/-- Wherever the parts stand, they are found, and no less is left behind them. -/
theorem exists_leftover? (h : Placed parts line left) :
    ∃ left', leftover? parts line = some left' ∧ left <:+ left' := by
  induction parts generalizing line left with
  | nil =>
      cases h
      exact ⟨line, rfl, List.suffix_refl line⟩
  | cons part parts ih =>
      cases h with
      | @cons text _ _ line left h =>
          obtain ⟨behind, hbehind, hsuffix⟩ := exists_behind? text part line
          obtain ⟨left', hplaced, hleft⟩ := h.of_suffix hsuffix
          obtain ⟨found, hfound, hfurther⟩ := ih hplaced
          refine ⟨found, ?_, hleft.trans hfurther⟩
          rw [leftover?, hbehind]
          exact hfound

theorem matchesParts_iff {first : List Char} {more : List (List Char)} :
    matchesParts line (first :: more) = true ↔ ∃ rest left, line = first ++ rest ∧
      leftover? more rest = some left ∧ (left = [] ∨ more ≠ [] ∧ more.getLastD [] = []) := by
  rw [matchesParts, Bool.and_eq_true, List.isPrefixOf_iff_prefix]
  constructor
  · rintro ⟨⟨rest, rfl⟩, h⟩
    rw [List.drop_left] at h
    cases hleft : leftover? more rest with
    | none =>
        rw [hleft] at h
        cases h
    | some left =>
        rw [hleft] at h
        exact ⟨rest, left, rfl, hleft, by simpa using h⟩
  · rintro ⟨rest, left, rfl, hleft, hend⟩
    refine ⟨List.prefix_append first rest, ?_⟩
    rw [List.drop_left, hleft]
    simpa using hend

end Search

/-- A pattern matches exactly the lines that fit it, except where it does not end in a wildcard and a
shorter beginning of the line fits it as well. -/
theorem lineMatches_iff (expected actual : String) :
    lineMatches expected actual = true ↔
      Fits (writtenOut expected) (slashed actual.toList) ∧
        (wildcard <:+ writtenOut expected ∨
          ∀ shorter, shorter <+: slashed actual.toList → Fits (writtenOut expected) shorter →
            shorter = slashed actual.toList) := by
  obtain ⟨first, more, hparts⟩ := List.exists_cons_of_ne_nil (parts_ne_nil (writtenOut expected))
  have hmatches : lineMatches expected actual =
      matchesParts (slashed actual.toList) (parts (writtenOut expected)) := rfl
  rw [hmatches, hparts, matchesParts_iff, wildcard_suffix_iff hparts, fits_iff_placed hparts]
  constructor
  · rintro ⟨rest, left, hline, hleft, hend⟩
    have hplaced := placed_of_leftover? hleft
    rcases hend with rfl | ⟨hne, hlast⟩
    · refine ⟨⟨rest, hline, hplaced⟩, .inr fun shorter hshorter hfits => ?_⟩
      -- a shorter line would leave the rest of the line behind its parts, and nothing is left
      obtain ⟨rest', rfl, hplaced'⟩ := (fits_iff_placed hparts).mp hfits
      obtain ⟨further, hfurther⟩ := hshorter
      rw [hline, List.append_assoc, List.append_cancel_left_eq] at hfurther
      obtain ⟨left', hleft', hsuffix⟩ := exists_leftover? (hplaced'.append further)
      rw [hfurther, hleft, Option.some.injEq] at hleft'
      rw [← hleft', List.nil_append, List.suffix_nil] at hsuffix
      rw [hline, ← hfurther, hsuffix, List.append_nil]
    · exact ⟨⟨rest, hline, hplaced.of_last_empty hne hlast⟩, .inl ⟨hne, hlast⟩⟩
  · rintro ⟨⟨rest, hline, hplaced⟩, hend⟩
    obtain ⟨left, hleft, -⟩ := exists_leftover? hplaced
    refine ⟨rest, left, hline, hleft, ?_⟩
    rcases hend with hwildcard | hshortest
    · exact .inr hwildcard
    · obtain ⟨before, rfl, hbefore⟩ := (placed_of_leftover? hleft).exists_line
      have hshorter : first ++ before <+: slashed actual.toList :=
        ⟨left, by rw [hline, List.append_assoc]⟩
      have hwhole := hshortest _ hshorter ((fits_iff_placed hparts).mpr ⟨before, rfl, hbefore⟩)
      rw [hline, List.append_cancel_left_eq] at hwhole
      exact .inl (List.self_eq_append_right.mp hwhole)

/-- The first place of the last part is not at the end of the line, a later one is. -/
theorem lineMatches_overlooks :
    lineMatches "[..]b" "b b" = false ∧ Fits (writtenOut "[..]b") (slashed "b b".toList) := by
  have hline : slashed "b b".toList = ['b', ' '] ++ ['b'] := by decide
  have hpattern : writtenOut "[..]b" = '[' :: '.' :: '.' :: ']' :: ['b'] := by decide
  rw [hline, hpattern]
  exact ⟨by decide, .gap _ (.char (by decide) .nil)⟩

end TypedLogging.LinePattern
