import Mathlib.Data.List.Nodup
import TypedLogging.Emission.Name

namespace TypedLogging.Emission

theorem toList_numbered (base : String) (number : Nat) :
    (numbered base number).toList = base.toList ++ '_' :: (Nat.repr number).toList := by
  change ("" ++ base ++ "_" ++ Nat.repr number).toList = _
  simp

theorem numbered_injective (base : String) : Function.Injective (numbered base) := by
  intro m n h
  have hlist := congrArg String.toList h
  rw [toList_numbered, toList_numbered] at hlist
  have hdigits := (List.cons.inj (List.append_cancel_left hlist)).2
  have hvalue := congrArg (fun digits => Nat.ofDigitChars 10 digits 0) hdigits
  simpa only [Nat.toList_repr, Nat.ofDigitChars_ten_toDigits] using hvalue

theorem firstFree_eq (base : String) (taken : List String) (fuel number : Nat) :
    ∃ k, firstFree base taken fuel number = numbered base k ∧ number ≤ k ∧ k ≤ number + fuel ∧
      (∀ j, number ≤ j → j < k → numbered base j ∈ taken) ∧
      (k < number + fuel → numbered base k ∉ taken) := by
  induction fuel generalizing number with
  | zero => exact ⟨number, rfl, Nat.le_refl _, Nat.le_refl _, fun j _ _ => by omega, fun h => by omega⟩
  | succ fuel ih =>
      rw [firstFree]
      by_cases htaken : numbered base number ∈ taken
      · obtain ⟨k, hk, hle, hbound, hbefore, hfree⟩ := ih (number + 1)
        refine ⟨k, ?_, by omega, by omega, ?_, fun h => hfree (by omega)⟩
        · rw [if_pos (List.contains_iff_mem.mpr htaken), hk]
        · intro j hj hjk
          rcases Nat.eq_or_lt_of_le hj with rfl | hj
          · exact htaken
          · exact hbefore j hj hjk
      · refine ⟨number, ?_, Nat.le_refl _, by omega, fun j _ _ => by omega, fun _ => htaken⟩
        rw [if_neg (by simpa using htaken)]

theorem not_all_taken (base : String) (taken : List String) (first : Nat)
    (h : ∀ j, first ≤ j → j < first + (taken.length + 1) → numbered base j ∈ taken) : False := by
  let names := (List.range' first (taken.length + 1)).map (numbered base)
  have hrange : (List.range' first (taken.length + 1)).Nodup := List.nodup_range'
  have hnodup : names.Nodup := hrange.map (numbered_injective base)
  have hsubset : names ⊆ taken := by
    intro name hname
    obtain ⟨j, hj, rfl⟩ := List.mem_map.mp hname
    rw [List.mem_range'_1] at hj
    exact h j hj.1 hj.2
  have hlength := hnodup.length_le_of_subset hsubset
  simp only [names, List.length_map, List.length_range'] at hlength
  omega

theorem unique_of_mem {base : String} {taken : List String} (h : base ∈ taken) :
    ∃ k, 2 ≤ k ∧ unique base taken = numbered base k ∧ numbered base k ∉ taken ∧
      ∀ j, 2 ≤ j → j < k → numbered base j ∈ taken := by
  obtain ⟨k, hk, hle, hbound, hbefore, hfree⟩ := firstFree_eq base taken taken.length 2
  refine ⟨k, hle, ?_, ?_, hbefore⟩
  · rw [unique, if_pos (List.contains_iff_mem.mpr h), hk]
  · rcases Nat.lt_or_eq_of_le hbound with hlt | rfl
    · exact hfree hlt
    · intro hlast
      refine not_all_taken base taken 2 fun j hj hjk => ?_
      rcases Nat.lt_or_eq_of_le (Nat.le_of_lt_succ hjk) with hlt | rfl
      · exact hbefore j hj hlt
      · exact hlast

theorem unique_of_not_mem {base : String} {taken : List String} (h : base ∉ taken) :
    unique base taken = base := by
  rw [unique, if_neg (by simpa using h)]

theorem unique_not_mem (base : String) (taken : List String) : unique base taken ∉ taken := by
  by_cases h : base ∈ taken
  · obtain ⟨k, -, hk, hfree, -⟩ := unique_of_mem h
    rwa [hk]
  · rwa [unique_of_not_mem h]

theorem length_uniqueAll (taken bases : List String) :
    (uniqueAll taken bases).length = bases.length := by
  induction bases generalizing taken with
  | nil => rfl
  | cons base rest ih => rw [uniqueAll, List.length_cons, List.length_cons, ih]

theorem uniqueAll_nodup (taken bases : List String) :
    (uniqueAll taken bases).Nodup ∧ ∀ name ∈ uniqueAll taken bases, name ∉ taken := by
  induction bases generalizing taken with
  | nil => simp [uniqueAll]
  | cons base rest ih =>
      obtain ⟨hnodup, hfree⟩ := ih (unique base taken :: taken)
      rw [uniqueAll]
      constructor
      · exact List.nodup_cons.mpr ⟨fun h => hfree _ h (by simp), hnodup⟩
      · intro name hname
        rcases List.mem_cons.mp hname with rfl | hname
        · exact unique_not_mem base taken
        · exact fun h => hfree name hname (by simp [h])

theorem mem_uniqueAll_iff {name : String} (hname : ∀ base number, name ≠ numbered base number)
    {taken bases : List String} (hfree : name ∉ taken) :
    name ∈ uniqueAll taken bases ↔ name ∈ bases := by
  induction bases generalizing taken with
  | nil => simp [uniqueAll]
  | cons base rest ih =>
      rw [uniqueAll, List.mem_cons, List.mem_cons]
      by_cases hbase : base ∈ taken
      · obtain ⟨k, -, hk, -, -⟩ := unique_of_mem hbase
        have hne : name ≠ unique base taken := by
          rw [hk]
          exact hname base k
        have hne' : name ≠ base := by
          rintro rfl
          exact hfree hbase
        rw [ih (by simp [hne, hfree])]
        simp [hne, hne']
      · rw [unique_of_not_mem hbase]
        by_cases he : name = base
        · simp [he]
        · rw [ih (by simp [he, hfree])]

theorem ne_numbered {name : String} (h : '_' ∉ name.toList) (base : String) (number : Nat) :
    name ≠ numbered base number := by
  rintro rfl
  simp [toList_numbered] at h

/-- A word that no text becomes by having characters replaced or added. -/
structure Untouched (word : String) : Prop where
  plain : ∀ c ∈ word.toList, Text.isAsciiAlphanumeric c = true
  begins : ∃ c rest, word.toList = c :: rest ∧ Text.isAsciiDigit c = false
  ne_arg : word ≠ "arg"
  free : Source.isReserved word = false

theorem Untouched.underscore_not_mem {word : String} (h : Untouched word) : '_' ∉ word.toList :=
  fun hmem => absurd (h.plain _ hmem) (by decide)

theorem map_plain {text : List Char} (h : ∀ c ∈ text, Text.isAsciiAlphanumeric c = true) :
    text.map (fun c => if Text.isAsciiAlphanumeric c then c else '_') = text := by
  rw [List.map_congr_left fun c hc => if_pos (h c hc), List.map_id']

theorem plain_of_map {text : List Char}
    (h : '_' ∉ text.map fun c => if Text.isAsciiAlphanumeric c then c else '_') :
    ∀ c ∈ text, Text.isAsciiAlphanumeric c = true := by
  intro c hc
  by_contra hnot
  have hmem := List.mem_map_of_mem (f := fun c => if Text.isAsciiAlphanumeric c then c else '_') hc
  rw [if_neg hnot] at hmem
  exact h hmem

theorem plainName_eq_iff {word : String} (h : Untouched word) {text : List Char} :
    plainName text = word.toList ↔ text = word.toList := by
  constructor
  · intro he
    rw [plainName] at he
    split at he
    next => exact absurd (String.toList_inj.mp he).symm h.ne_arg
    next c rest hmap =>
      split at he
      next => exact absurd (he ▸ List.mem_cons_self) h.underscore_not_mem
      next =>
        rw [he] at hmap
        have hplain := plain_of_map (by rw [hmap]; exact h.underscore_not_mem)
        rw [← hmap, map_plain hplain]
  · rintro rfl
    obtain ⟨c, rest, hbegin, hdigit⟩ := h.begins
    simp only [plainName, map_plain h.plain]
    rw [hbegin]
    simp [hdigit]

theorem sanitize_eq_iff {word : String} (h : Untouched word) {text : String} :
    sanitize text = word ↔ text = word := by
  have hname : String.ofList (plainName text.toList) = word ↔ text = word := by
    rw [← String.toList_inj, String.toList_ofList, plainName_eq_iff h, String.toList_inj]
  rw [← hname, sanitize]
  by_cases hreserved : Source.isReserved (String.ofList (plainName text.toList)) = true
  · rw [if_pos hreserved]
    constructor
    · intro he
      refine absurd ?_ h.underscore_not_mem
      rw [← he, String.toList_push]
      simp
    · intro he
      rw [he, h.free] at hreserved
      exact absurd hreserved (by decide)
  · rw [if_neg hreserved]

end TypedLogging.Emission
