import Mathlib.Data.List.Induction
import TypedLogging.Text.Bytes

namespace TypedLogging.Text

@[simp]
theorem byteLength_append (before behind : List Char) :
    byteLength (before ++ behind) = byteLength before + byteLength behind := by
  induction before with
  | nil => simp [byteLength]
  | cons c before ih => simp only [List.cons_append, byteLength, ih, Nat.add_assoc]

@[simp]
theorem takeBytes_zero (text : List Char) : takeBytes 0 text = [] := by
  cases text <;> rfl

@[simp]
theorem dropBytes_zero (text : List Char) : dropBytes 0 text = text := by
  cases text <;> rfl

theorem takeBytes_cons (c : Char) (n : Nat) (text : List Char) :
    takeBytes (c.utf8Size + n) (c :: text) = c :: takeBytes n text := by
  obtain ⟨k, hk⟩ := Nat.exists_eq_succ_of_ne_zero (Nat.pos_iff_ne_zero.mp c.utf8Size_pos)
  rw [hk, show k.succ + n = (k + n) + 1 by omega, takeBytes, hk]
  congr 2
  omega

theorem dropBytes_cons (c : Char) (n : Nat) (text : List Char) :
    dropBytes (c.utf8Size + n) (c :: text) = dropBytes n text := by
  obtain ⟨k, hk⟩ := Nat.exists_eq_succ_of_ne_zero (Nat.pos_iff_ne_zero.mp c.utf8Size_pos)
  rw [hk, show k.succ + n = (k + n) + 1 by omega, dropBytes, hk]
  congr 1
  omega

@[simp]
theorem takeBytes_append (before behind : List Char) :
    takeBytes (byteLength before) (before ++ behind) = before := by
  induction before with
  | nil => exact takeBytes_zero behind
  | cons c before ih => rw [byteLength, List.cons_append, takeBytes_cons, ih]

@[simp]
theorem dropBytes_append (before behind : List Char) :
    dropBytes (byteLength before) (before ++ behind) = behind := by
  induction before with
  | nil => exact dropBytes_zero behind
  | cons c before ih => rw [byteLength, List.cons_append, dropBytes_cons, ih]

theorem slice_append (before between behind : List Char) :
    slice (byteLength before) (byteLength before + byteLength between)
      (before ++ (between ++ behind)) = between := by
  rw [slice, dropBytes_append, Nat.add_sub_cancel_left, takeBytes_append]

def encode (text : List Char) : List UInt8 := text.flatMap String.utf8EncodeChar

def bytes (text : String) : List UInt8 := text.toByteArray.data.toList

theorem bytes_eq_encode (text : String) : bytes text = encode text.toList := by
  rw [bytes, ← String.utf8Encode_toList, List.utf8Encode]
  simp [encode]

theorem bytes_ofList (text : List Char) : bytes (String.ofList text) = encode text := by
  rw [bytes_eq_encode, String.toList_ofList]

@[simp]
theorem encode_nil : encode [] = [] := rfl

@[simp]
theorem encode_append (before behind : List Char) :
    encode (before ++ behind) = encode before ++ encode behind :=
  List.flatMap_append

theorem encode_cons (c : Char) (text : List Char) :
    encode (c :: text) = String.utf8EncodeChar c ++ encode text :=
  List.flatMap_cons

@[simp]
theorem length_encode (text : List Char) : (encode text).length = byteLength text := by
  induction text with
  | nil => rfl
  | cons c text ih => simp only [encode_cons, List.length_append, String.length_utf8EncodeChar,
      byteLength, ih]

@[simp]
theorem encode_eq_nil {text : List Char} : encode text = [] ↔ text = [] := by
  cases text with
  | nil => simp
  | cons c text => simp [encode_cons]

theorem utf8ByteSize_ofList (text : List Char) :
    (String.ofList text).utf8ByteSize = byteLength text := by
  rw [← length_encode, ← bytes_ofList]
  rfl

theorem isValid_byteLength {text : String} {before behind : List Char}
    (h : text.toList = before ++ behind) :
    (String.Pos.Raw.mk (byteLength before)).IsValid text := by
  rw [String.Pos.Raw.isValid_iff_exists_append]
  refine ⟨String.ofList before, String.ofList behind, ?_, ?_⟩
  · rw [← String.ofList_append, ← h, String.ofList_toList]
  · rw [String.Pos.Raw.ext_iff, ← utf8ByteSize_ofList]
    rfl

theorem le_or_right (b m : UInt8) : m ≤ b ||| m := by
  rw [UInt8.le_iff_toNat_le, UInt8.toNat_or]
  exact Nat.right_le_or

theorem le_of_mem_utf8EncodeChar {c : Char} (hc : 1 < c.utf8Size) {b : UInt8}
    (hb : b ∈ String.utf8EncodeChar c) : 128 ≤ b := by
  have hle : ∀ {x m : UInt8}, 128 ≤ m → 128 ≤ x ||| m := fun hm =>
    UInt8.le_trans hm (le_or_right _ _)
  have hsize : c.utf8Size = 2 ∨ c.utf8Size = 3 ∨ c.utf8Size = 4 := by
    have := c.utf8Size_le_four
    omega
  rcases hsize with h | h | h
  · rw [String.utf8EncodeChar_eq_cons_cons h] at hb
    simp only [List.mem_cons, List.not_mem_nil, or_false] at hb
    rcases hb with rfl | rfl <;> exact hle (by decide)
  · rw [String.utf8EncodeChar_eq_cons_cons_cons h] at hb
    simp only [List.mem_cons, List.not_mem_nil, or_false] at hb
    rcases hb with rfl | rfl | rfl <;> exact hle (by decide)
  · rw [String.utf8EncodeChar_eq_cons_cons_cons_cons h] at hb
    simp only [List.mem_cons, List.not_mem_nil, or_false] at hb
    rcases hb with rfl | rfl | rfl | rfl <;> exact hle (by decide)

theorem utf8EncodeChar_ascii {a : Char} (ha : a.utf8Size = 1) :
    String.utf8EncodeChar a = [a.toUInt8] := by
  rw [String.utf8EncodeChar_eq_singleton ha, Char.toUInt8_val]

theorem toNat_lt_of_utf8Size {a : Char} (ha : a.utf8Size = 1) : a.toNat < 128 := by
  rw [Char.utf8Size_eq_one_iff, UInt32.le_iff_toNat_le] at ha
  exact Nat.lt_succ_of_le ha

theorem toNat_toUInt8 {a : Char} (ha : a.utf8Size = 1) : a.toUInt8.toNat = a.toNat := by
  have h := toNat_lt_of_utf8Size ha
  rw [← Char.toUInt8_val, UInt32.toNat_toUInt8]
  exact Nat.mod_eq_of_lt (by change a.toNat < 256; omega)

/-- A one-byte character is written in no other way and inside no other character. -/
theorem mem_utf8EncodeChar {a c : Char} (ha : a.utf8Size = 1) :
    a.toUInt8 ∈ String.utf8EncodeChar c ↔ c = a := by
  constructor
  · intro h
    by_cases hc : c.utf8Size = 1
    · rw [utf8EncodeChar_ascii hc, List.mem_singleton] at h
      have hn : a.toNat = c.toNat := by rw [← toNat_toUInt8 ha, h, toNat_toUInt8 hc]
      exact (Char.toNat_inj.mp hn).symm
    · have hlt : 1 < c.utf8Size := by
        have := c.utf8Size_pos
        omega
      have hge := UInt8.le_iff_toNat_le.mp (le_of_mem_utf8EncodeChar hlt h)
      rw [toNat_toUInt8 ha] at hge
      exact absurd (toNat_lt_of_utf8Size ha) (Nat.not_lt.mpr hge)
  · rintro rfl
    simp [utf8EncodeChar_ascii ha]

theorem encode_cons_ascii {a : Char} (ha : a.utf8Size = 1) (text : List Char) :
    encode (a :: text) = a.toUInt8 :: encode text := by
  rw [encode_cons, utf8EncodeChar_ascii ha, List.singleton_append]

theorem mem_encode {a : Char} (ha : a.utf8Size = 1) {text : List Char} :
    a.toUInt8 ∈ encode text ↔ a ∈ text := by
  simp [encode, mem_utf8EncodeChar ha]

theorem take_encode_append (before : List Char) (rest : List UInt8) :
    (encode before ++ rest).take (byteLength before) = encode before :=
  List.take_left' (length_encode before)

theorem drop_encode_cons (before : List Char) (b : UInt8) (rest : List UInt8) :
    (encode before ++ b :: rest).drop (byteLength before + 1) = rest := by
  rw [← length_encode, ← List.drop_drop, List.drop_left, List.drop_succ_cons, List.drop_zero]

theorem getElem?_encode {a : Char} (ha : a.utf8Size = 1) {text : List Char} {n : Nat} :
    (encode text)[n]? = some a.toUInt8 ↔
      ∃ before behind, text = before ++ a :: behind ∧ byteLength before = n := by
  constructor
  · intro h
    induction text generalizing n with
    | nil => simp at h
    | cons c text ih =>
        rw [encode_cons] at h
        by_cases hn : n < (String.utf8EncodeChar c).length
        · rw [List.getElem?_append_left hn] at h
          have hc : c = a := (mem_utf8EncodeChar ha).mp (List.mem_of_getElem? h)
          subst c
          rw [String.length_utf8EncodeChar, ha] at hn
          exact ⟨[], text, rfl, by simp only [byteLength]; omega⟩
        · rw [List.getElem?_append_right (Nat.not_lt.mp hn)] at h
          obtain ⟨before, behind, rfl, hlength⟩ := ih h
          refine ⟨c :: before, behind, rfl, ?_⟩
          rw [String.length_utf8EncodeChar] at hn hlength
          simp only [byteLength]
          omega
  · rintro ⟨before, behind, rfl, rfl⟩
    rw [encode_append, encode_cons_ascii ha, ← length_encode before]
    simp

theorem length_takeWhile_reverse_encode {a : Char} (ha : a.utf8Size = 1) (text : List Char) :
    ((encode text).reverse.takeWhile (· = a.toUInt8)).length =
      (text.reverse.takeWhile (· = a)).length := by
  induction text using List.reverseRecOn with
  | nil => rfl
  | append_singleton text c ih =>
      rw [encode_append, List.reverse_append, List.reverse_append, List.reverse_singleton,
        List.singleton_append]
      by_cases hc : c = a
      · subst c
        rw [encode_cons_ascii ha]
        simpa using ih
      · have hne : (encode [c]).reverse ≠ [] := by simp
        obtain ⟨b, rest, hb⟩ := List.exists_cons_of_ne_nil hne
        have hba : b ≠ a.toUInt8 := by
          rintro rfl
          have hmem : a.toUInt8 ∈ (encode [c]).reverse := by simp [hb]
          rw [List.mem_reverse, mem_encode ha, List.mem_singleton] at hmem
          exact hc hmem.symm
        rw [hb, List.cons_append, List.takeWhile_cons, if_neg (by simpa using hba),
          List.takeWhile_cons, if_neg (by simpa using hc)]
        rfl

end TypedLogging.Text
