import Mathlib.Data.List.Basic
import TypedLogging.Text.Integer

namespace TypedLogging.Text

def IsDigits (text : List Char) : Prop := text ≠ [] ∧ ∀ c ∈ text, isAsciiDigit c = true

/-- The number that a text writes: digits, behind one sign at most. -/
inductive Writes : List Char → Int → Prop
  | digits {text : List Char} (h : IsDigits text) : Writes text (Nat.ofDigitChars 10 text 0)
  | plus {text : List Char} (h : IsDigits text) : Writes ('+' :: text) (Nat.ofDigitChars 10 text 0)
  | minus {text : List Char} (h : IsDigits text) :
    Writes ('-' :: text) (-(Nat.ofDigitChars 10 text 0 : Int))

def InInt32 (value : Int) : Prop := int32Min ≤ value ∧ value ≤ int32Max

def signed (negative : Bool) (magnitude : Nat) : Int :=
  if negative then -(magnitude : Int) else magnitude

theorem le_ofDigitChars (text : List Char) (magnitude : Nat) :
    magnitude ≤ Nat.ofDigitChars 10 text magnitude := by
  induction text generalizing magnitude with
  | nil => exact Nat.le_refl magnitude
  | cons c rest ih =>
      rw [Nat.ofDigitChars_cons]
      have hrest := ih (10 * magnitude + (c.toNat - '0'.toNat))
      omega

theorem inInt32_of_le {negative : Bool} {magnitude more : Nat} (hle : magnitude ≤ more)
    (h : InInt32 (signed negative more)) : InInt32 (signed negative magnitude) := by
  unfold InInt32 signed int32Min int32Max at *
  cases negative with
  | true =>
      simp only [if_true] at *
      omega
  | false =>
      simp only [Bool.false_eq_true, if_false] at *
      omega

theorem readMagnitude_cons_of_inInt32 {negative : Bool} {magnitude : Nat} {c : Char}
    {rest : List Char} (hdigit : isAsciiDigit c = true)
    (h : InInt32 (signed negative (magnitude * 10 + (c.toNat - 48)))) :
    readMagnitude negative magnitude (c :: rest) =
      readMagnitude negative (magnitude * 10 + (c.toNat - 48)) rest := by
  unfold InInt32 signed at h
  cases negative with
  | true =>
      simp only [if_true] at h
      simp only [readMagnitude, hdigit, if_true, if_neg (Int.not_lt.mpr h.1)]
  | false =>
      simp only [Bool.false_eq_true, if_false] at h
      simp only [readMagnitude, hdigit, if_true, Bool.false_eq_true, if_false,
        if_neg (Int.not_lt.mpr h.2)]

theorem readMagnitude_cons_of_not_inInt32 {negative : Bool} {magnitude : Nat} {c : Char}
    (hdigit : isAsciiDigit c = true)
    (h : ¬InInt32 (signed negative (magnitude * 10 + (c.toNat - 48)))) (rest : List Char) :
    ∃ fault, readMagnitude negative magnitude (c :: rest) = .error fault := by
  unfold InInt32 signed at h
  cases negative with
  | true =>
      have hsmall : -((magnitude * 10 + (c.toNat - 48) : Nat) : Int) < int32Min := by
        simp only [if_true, int32Max] at h
        omega
      exact ⟨.tooSmall, by simp only [readMagnitude, hdigit, if_true, if_pos hsmall]⟩
  | false =>
      have hlarge : int32Max < ((magnitude * 10 + (c.toNat - 48) : Nat) : Int) := by
        simp only [Bool.false_eq_true, if_false, int32Min] at h
        omega
      refine ⟨.tooLarge, ?_⟩
      simp only [readMagnitude, hdigit, if_true, Bool.false_eq_true, if_false, if_pos hlarge]

theorem readMagnitude_eq_ok {negative : Bool} {magnitude : Nat}
    (hmagnitude : InInt32 (signed negative magnitude)) {text : List Char} {value : Int} :
    readMagnitude negative magnitude text = .ok value ↔
      (∀ c ∈ text, isAsciiDigit c = true) ∧
        value = signed negative (Nat.ofDigitChars 10 text magnitude) ∧ InInt32 value := by
  induction text generalizing magnitude with
  | nil =>
      simp only [readMagnitude, Except.ok.injEq, List.not_mem_nil, false_imp_iff, implies_true, true_and]
      constructor
      · rintro rfl
        exact ⟨rfl, hmagnitude⟩
      · rintro ⟨rfl, -⟩
        rfl
  | cons c rest ih =>
      have hnext : 10 * magnitude + (c.toNat - '0'.toNat) = magnitude * 10 + (c.toNat - 48) := by
        rw [Nat.mul_comm]
        rfl
      rw [Nat.ofDigitChars_cons, hnext, List.forall_mem_cons]
      by_cases hdigit : isAsciiDigit c = true
      · by_cases hrange : InInt32 (signed negative (magnitude * 10 + (c.toNat - 48)))
        · rw [readMagnitude_cons_of_inInt32 hdigit hrange, ih hrange]
          simp only [hdigit, true_and]
        · obtain ⟨fault, hfault⟩ := readMagnitude_cons_of_not_inInt32 hdigit hrange rest
          rw [hfault]
          constructor
          · intro h
            cases h
          -- more digits never bring a value back into the range
          · rintro ⟨-, rfl, hvalue⟩
            exact absurd (inInt32_of_le (le_ofDigitChars rest _) hvalue) hrange
      · simp only [readMagnitude, hdigit, Bool.false_eq_true, if_false, reduceCtorEq, false_and]

theorem readMagnitude_zero_eq_ok {negative : Bool} {text : List Char} {value : Int} :
    readMagnitude negative 0 text = .ok value ↔
      (∀ c ∈ text, isAsciiDigit c = true) ∧
        value = signed negative (Nat.ofDigitChars 10 text 0) ∧ InInt32 value := by
  have hzero : InInt32 (signed negative 0) := by
    cases negative <;> exact ⟨by decide, by decide⟩
  exact readMagnitude_eq_ok hzero

theorem readInt32Chars_plus {rest : List Char} (h : rest ≠ []) :
    readInt32Chars ('+' :: rest) = readMagnitude false 0 rest := by
  cases rest with
  | nil => exact absurd rfl h
  | cons c more => rfl

theorem readInt32Chars_minus {rest : List Char} (h : rest ≠ []) :
    readInt32Chars ('-' :: rest) = readMagnitude true 0 rest := by
  cases rest with
  | nil => exact absurd rfl h
  | cons c more => rfl

theorem readInt32Chars_of_isDigits {text : List Char} (h : IsDigits text) :
    readInt32Chars text = readMagnitude false 0 text := by
  obtain ⟨hne, hdigits⟩ := h
  unfold readInt32Chars
  split
  · exact absurd rfl hne
  · exact absurd (hdigits '+' (by simp)) (by decide)
  · exact absurd (hdigits '-' (by simp)) (by decide)
  · exact absurd (hdigits '+' (by simp)) (by decide)
  · exact absurd (hdigits '-' (by simp)) (by decide)
  · rfl

theorem readInt32Chars_eq_ok {text : List Char} {value : Int} :
    readInt32Chars text = .ok value ↔ Writes text value ∧ InInt32 value := by
  constructor
  · intro h
    unfold readInt32Chars at h
    split at h
    · cases h
    · cases h
    · cases h
    · rename_i rest hne
      obtain ⟨hdigits, rfl, hrange⟩ := readMagnitude_zero_eq_ok.mp h
      exact ⟨.plus ⟨hne, hdigits⟩, hrange⟩
    · rename_i rest hne
      obtain ⟨hdigits, rfl, hrange⟩ := readMagnitude_zero_eq_ok.mp h
      exact ⟨.minus ⟨hne, hdigits⟩, hrange⟩
    · rename_i hne _ _ _ _
      obtain ⟨hdigits, rfl, hrange⟩ := readMagnitude_zero_eq_ok.mp h
      exact ⟨.digits ⟨hne, hdigits⟩, hrange⟩
  · rintro ⟨hwrites, hrange⟩
    cases hwrites with
    | digits h =>
        rw [readInt32Chars_of_isDigits h]
        exact readMagnitude_zero_eq_ok.mpr ⟨h.2, rfl, hrange⟩
    | plus h =>
        rw [readInt32Chars_plus h.1]
        exact readMagnitude_zero_eq_ok.mpr ⟨h.2, rfl, hrange⟩
    | minus h =>
        rw [readInt32Chars_minus h.1]
        exact readMagnitude_zero_eq_ok.mpr ⟨h.2, rfl, hrange⟩

theorem Writes.unique {text : List Char} {value other : Int} (h : Writes text value)
    (hother : Writes text other) : value = other := by
  cases h with
  | digits h =>
      cases hother with
      | digits => rfl
      | plus => exact absurd (h.2 '+' List.mem_cons_self) (by decide)
      | minus => exact absurd (h.2 '-' List.mem_cons_self) (by decide)
  | plus h =>
      cases hother with
      | digits h => exact absurd (h.2 '+' List.mem_cons_self) (by decide)
      | plus => rfl
  | minus h =>
      cases hother with
      | digits h => exact absurd (h.2 '-' List.mem_cons_self) (by decide)
      | minus => rfl

theorem readInt32_of_inInt32 {text : String} {value : Int} (h : Writes text.toList value)
    (hrange : InInt32 value) : readInt32 text = .ok value :=
  readInt32Chars_eq_ok.mpr ⟨h, hrange⟩

theorem readInt32_of_not_inInt32 {text : String} {value : Int} (h : Writes text.toList value)
    (hrange : ¬InInt32 value) : ∃ fault, readInt32 text = .error fault := by
  cases hread : readInt32 text with
  | error fault => exact ⟨fault, rfl⟩
  | ok found =>
      obtain ⟨hfound, hfoundRange⟩ := readInt32Chars_eq_ok.mp hread
      exact absurd (h.unique hfound ▸ hfoundRange) hrange

theorem isDigits_toDigits (n : Nat) : IsDigits (Nat.toDigits 10 n) := by
  refine ⟨Nat.toDigits_ne_nil, ?_⟩
  intro c hc
  have hdigit := Nat.isDigit_of_mem_toDigits (by decide) (by decide) hc
  simpa [isAsciiDigit, Char.isDigit, UInt32.le_iff_toNat_le] using hdigit

end TypedLogging.Text
