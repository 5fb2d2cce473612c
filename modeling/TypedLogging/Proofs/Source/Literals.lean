import TypedLogging.Proofs.Source.Tokens
import TypedLogging.Proofs.Text.Words
import TypedLogging.Source.Literal

namespace TypedLogging.Source.Literal

open Text Lexer

section Quoted

theorem unescape_quotedChar (c : Char) (next : Option Char) (fuel : Nat) (behind : List Char) :
    unescape (fuel + 1) (quotedChar c next ++ behind) = c :: unescape fuel behind := by
  unfold quotedChar
  split_ifs with hnull hoctal htab hreturn hbreak hquote hslash hescape
  iterate 7
    subst c
    rfl
  · have hunicode : unicodeEscape c ++ behind =
        '\\' :: 'u' :: '\x7b' :: (hexDigits c.toNat ++ '\x7d' :: behind) := by simp [unicodeEscape]
    rw [hunicode, unescape, unicodeDigits?_char]
    simp
  · rw [List.singleton_append, unescape]
    all_goals simp_all

theorem unescape_quotedBody {text : List Char} {fuel : Nat} (h : text.length < fuel) (behind : List Char) :
    unescape fuel (quotedBody text ++ '"' :: behind) = text := by
  obtain ⟨fuel, rfl⟩ : ∃ more, fuel = more + 1 := ⟨fuel - 1, by omega⟩
  induction text generalizing fuel with
  | nil => rfl
  | cons c rest ih =>
      rw [List.length_cons] at h
      obtain ⟨fuel, rfl⟩ : ∃ more, fuel = more + 1 := ⟨fuel - 1, by omega⟩
      rw [quotedBody, List.append_assoc, unescape_quotedChar, ih fuel (by omega)]

theorem length_le_quotedBody (text : List Char) : text.length ≤ (quotedBody text).length := by
  induction text with
  | nil => rfl
  | cons c rest ih =>
      have hpos := List.length_pos_iff.mpr (quotedChar_ne_nil c rest.head?)
      rw [quotedBody, List.length_append, List.length_cons]
      omega

theorem ofText_quoted (text : String) : ofText (quoted text) = .string text := by
  have hlength : text.toList.length < (quotedBody text.toList ++ ['"']).length + 1 := by
    have hbody := length_le_quotedBody text.toList
    rw [List.length_append, List.length_singleton]
    omega
  have hbody := unescape_quotedBody hlength []
  rw [ofText, quoted, String.toList_ofList, List.cons_append]
  generalize quotedBody text.toList ++ ['"'] = body at hbody
  exact congrArg string ((congrArg String.ofList hbody).trans String.ofList_toList)

end Quoted

section Numbers

variable {text : List Char}

theorem integerParts?_cons {c : Char} (h : isAsciiDigit c = true) (value : Nat) (seen : Bool)
    (rest : List Char) :
    integerParts? 10 value seen (c :: rest) =
      integerParts? 10 (10 * value + (c.toNat - '0'.toNat)) true rest := by
  have hmark : (c == '_') = false := by
    rw [beq_eq_false_iff_ne]
    rintro rfl
    exact absurd h (by decide)
  have hdigit := isAsciiDigit_iff.mp h
  have hvalue : hexValue c = c.toNat - '0'.toNat := if_pos h
  have hbase : c.toNat - '0'.toNat < 10 := by
    rw [show '0'.toNat = 48 from rfl]
    omega
  rw [integerParts?, hmark, h, if_neg Bool.false_ne_true, Bool.true_or, if_pos rfl, hvalue,
    if_pos hbase, Nat.mul_comm]

theorem integerParts?_digits (h : ∀ c ∈ text, isAsciiDigit c = true) (value : Nat) :
    integerParts? 10 value true text = some (Nat.ofDigitChars 10 text value, []) := by
  induction text generalizing value with
  | nil => rfl
  | cons c rest ih =>
      rw [List.forall_mem_cons] at h
      rw [integerParts?_cons h.1, ih h.2, Nat.ofDigitChars_cons]

theorem integer?_digits (h : IsDigits text) : integer? text = some (Nat.ofDigitChars 10 text 0, []) := by
  obtain ⟨hne, hdigits⟩ := h
  obtain ⟨c, rest, rfl⟩ := List.exists_cons_of_ne_nil hne
  rw [List.forall_mem_cons] at hdigits
  have hmarks : ∀ mark ∈ "xob".toList, ∀ more, c = '0' → rest = mark :: more → False := by
    have hplain : ∀ mark ∈ "xob".toList, isAsciiDigit mark = false := by decide
    rintro mark hmark more - rfl
    exact absurd (hdigits.2 mark List.mem_cons_self) (by rw [hplain mark hmark]; decide)
  rw [integer?, if_pos hdigits.1]
  · rw [integerParts?_cons hdigits.1, integerParts?_digits hdigits.2, Nat.ofDigitChars_cons]
  · exact hmarks 'x' (by decide)
  · exact hmarks 'o' (by decide)
  · exact hmarks 'b' (by decide)

theorem ofText_natural (n : Nat) : ofText (toString n) = .integer ⟨false, n⟩ "" := by
  have hdigits := isDigits_toDigits n
  have hinteger := integer?_digits hdigits
  rw [Nat.ofDigitChars_ten_toDigits] at hinteger
  have htext : (toString n).toList = Nat.toDigits 10 n := by simp
  rw [ofText, htext]
  generalize Nat.toDigits 10 n = digits at hdigits hinteger
  obtain ⟨hne, hdigits⟩ := hdigits
  obtain ⟨c, rest, rfl⟩ := List.exists_cons_of_ne_nil hne
  have hdigit := hdigits c List.mem_cons_self
  split
  next he =>
    cases he
    exact absurd hdigit (by decide)
  next he =>
    cases he
    exact absurd hdigit (by decide)
  next he =>
    cases he
    rw [if_pos hdigit, ofNumber, hinteger]
  next he => cases he

end Numbers

end TypedLogging.Source.Literal
