import Mathlib.Data.List.Basic
import TypedLogging.Text.Words

namespace TypedLogging.Text

/-- What stands between the underscores of a name, where anything does. -/
def parts (name : List Char) : List (List Char) := (name.splitOn '_').filter (· ≠ [])

def isSnakeChar (c : Char) : Bool := isAsciiLower c || isAsciiDigit c || c == '_'

/-- Words that are told apart again once underscores join them. -/
def Joinable (words : List (List Char)) : Prop := ∀ word ∈ words, word ≠ [] ∧ '_' ∉ word

section Pieces

variable {cut : Char → Bool} {text piece : List Char}

theorem piecesAt_eq (cut : Char → Bool) (text : List Char) :
    piecesAt cut text = text.splitOnP cut := by
  induction text with
  | nil => rfl
  | cons c rest ih =>
      rw [piecesAt, List.splitOnP_cons_eq_if_modifyHead, ih]
      split
      · rfl
      · cases hpieces : rest.splitOnP cut with
        | nil => exact absurd hpieces (List.splitOnP_ne_nil _ _)
        | cons piece pieces => rfl

theorem piecesAt_congr {cut' : Char → Bool} (h : ∀ c ∈ text, cut c = cut' c) :
    piecesAt cut text = piecesAt cut' text := by
  induction text with
  | nil => rfl
  | cons c rest ih =>
      rw [List.forall_mem_cons] at h
      rw [piecesAt, piecesAt, h.1, ih h.2]

theorem mem_of_mem_piecesAt (h : piece ∈ piecesAt cut text) :
    ∀ c ∈ piece, c ∈ text ∧ cut c = false := by
  induction text generalizing piece with
  | nil =>
      rw [List.mem_singleton.mp h]
      simp
  | cons c rest ih =>
      rw [piecesAt] at h
      split at h
      next =>
        rcases List.mem_cons.mp h with rfl | h
        · simp
        · exact fun d hd => ⟨List.mem_cons_of_mem _ (ih h d hd).1, (ih h d hd).2⟩
      next hcut =>
        have hc : cut c = false := by simpa using hcut
        cases hpieces : piecesAt cut rest with
        | nil =>
            rw [hpieces, List.mem_singleton] at h
            subst h
            simp [hc]
        | cons first more =>
            rw [hpieces] at h
            have hin : ∀ other ∈ first :: more, ∀ d ∈ other, d ∈ c :: rest ∧ cut d = false := by
              intro other hother d hd
              have hmem := ih (hpieces ▸ hother) d hd
              exact ⟨List.mem_cons_of_mem _ hmem.1, hmem.2⟩
            rcases List.mem_cons.mp h with rfl | h
            · exact List.forall_mem_cons.mpr
                ⟨⟨List.mem_cons_self, hc⟩, hin first List.mem_cons_self⟩
            · exact hin piece (List.mem_cons_of_mem _ h)

end Pieces

theorem joinWith_cons_cons (separator word next : List Char) (more : List (List Char)) :
    joinWith separator (word :: next :: more) =
      word ++ separator ++ joinWith separator (next :: more) := rfl

theorem joinWith_eq (separator : List Char) (words : List (List Char)) :
    joinWith separator words = separator.intercalate words := by
  induction words with
  | nil => rfl
  | cons word rest ih =>
      cases rest with
      | nil => rw [joinWith, List.intercalate_singleton]
      | cons next more => rw [joinWith_cons_cons, ih, List.intercalate_cons_cons]

theorem mem_joinWith {separator : List Char} {words : List (List Char)} {c : Char}
    (h : c ∈ joinWith separator words) : c ∈ separator ∨ ∃ word ∈ words, c ∈ word := by
  induction words with
  | nil => cases h
  | cons word rest ih =>
      cases rest with
      | nil => exact .inr ⟨word, List.mem_cons_self, h⟩
      | cons next more =>
          rw [joinWith_cons_cons, List.mem_append, List.mem_append] at h
          rcases h with (h | h) | h
          · exact .inr ⟨word, List.mem_cons_self, h⟩
          · exact .inl h
          · exact (ih h).imp_right fun ⟨other, hother, hc⟩ =>
              ⟨other, List.mem_cons_of_mem _ hother, hc⟩

theorem head?_joinWith {separator word : List Char} (h : word ≠ []) (rest : List (List Char)) :
    (joinWith separator (word :: rest)).head? = word.head? := by
  cases rest with
  | nil => rfl
  | cons next more =>
      rw [joinWith_cons_cons, List.append_assoc, List.head?_append_of_ne_nil _ h]

theorem joinWith_concat (separator : List Char) {words : List (List Char)} (h : words ≠ [])
    (last : List Char) :
    joinWith separator (words ++ [last]) = joinWith separator words ++ separator ++ last := by
  induction words with
  | nil => exact absurd rfl h
  | cons word rest ih =>
      cases rest with
      | nil => rfl
      | cons next more =>
          rw [List.cons_append, List.cons_append, joinWith_cons_cons, joinWith_cons_cons,
            ← List.cons_append, ih (by simp)]
          simp only [List.append_assoc]

section Parts

variable {name : List Char} {words : List (List Char)}

theorem parts_append (first second : List Char) :
    parts (first ++ '_' :: second) = parts first ++ parts second := by
  rw [parts, List.splitOn_append_cons_self, List.filter_append]
  rfl

theorem parts_word {word : List Char} (hne : word ≠ []) (hfree : '_' ∉ word) :
    parts word = [word] := by
  rw [parts, List.splitOn_eq_singleton hfree]
  simp [hne]

theorem mem_of_mem_parts {part : List Char} (h : part ∈ parts name) :
    part ≠ [] ∧ ∀ c ∈ part, c ∈ name ∧ c ≠ '_' := by
  rw [parts, List.splitOn_eq_splitOnP, ← piecesAt_eq, List.mem_filter] at h
  refine ⟨by simpa using h.2, fun c hc => ?_⟩
  simpa using mem_of_mem_piecesAt h.1 c hc

theorem parts_joinWith (h : Joinable words) : parts (joinWith ['_'] words) = words := by
  cases words with
  | nil => rfl
  | cons word rest =>
      rw [parts, joinWith_eq, List.splitOn_intercalate '_' (fun other hother => (h other hother).2)
        (by simp), List.filter_eq_self]
      exact fun other hother => by simpa using (h other hother).1

theorem find?_eq_head_parts (name : List Char) :
    name.find? (· ≠ '_') = (parts name).head?.bind List.head? := by
  induction name with
  | nil => rfl
  | cons c rest ih =>
      by_cases hc : c = '_'
      · rw [hc, List.find?_cons_of_neg (by simp), ih, ← List.nil_append ('_' :: rest), parts_append]
        rfl
      · rw [List.find?_cons_of_pos (by simpa using hc), parts,
          List.splitOn_cons_eq_if_modifyHead, if_neg (by simpa using hc)]
        cases hpieces : rest.splitOn '_' with
        | nil => exact absurd hpieces (List.splitOn_ne_nil _ _)
        | cons piece pieces => simp

end Parts

section Chars

variable {c d : Char}

theorem toNat_ofNat_of_lt {n : Nat} (h : n < 0xD800) : (Char.ofNat n).toNat = n := by
  rw [Char.ofNat, dif_pos (.inl h)]
  rfl

theorem isAsciiUpper_iff : isAsciiUpper c = true ↔ 65 ≤ c.toNat ∧ c.toNat ≤ 90 := by
  simp [isAsciiUpper]

theorem isAsciiLower_iff : isAsciiLower c = true ↔ 97 ≤ c.toNat ∧ c.toNat ≤ 122 := by
  simp [isAsciiLower]

theorem isAsciiDigit_iff : isAsciiDigit c = true ↔ 48 ≤ c.toNat ∧ c.toNat ≤ 57 := by
  simp [isAsciiDigit]

theorem isSnakeChar_iff :
    isSnakeChar c = true ↔ isAsciiLower c = true ∨ isAsciiDigit c = true ∨ c = '_' := by
  simp [isSnakeChar, or_assoc]

theorem isAscii_of_lower (h : isAsciiLower c = true) : isAscii c = true := by
  rw [isAsciiLower_iff] at h
  simp only [isAscii, decide_eq_true_eq]
  omega

theorem isAscii_of_digit (h : isAsciiDigit c = true) : isAscii c = true := by
  rw [isAsciiDigit_iff] at h
  simp only [isAscii, decide_eq_true_eq]
  omega

theorem isAsciiUpper_of_isSnakeChar (h : isSnakeChar c = true) : isAsciiUpper c = false := by
  rw [Bool.eq_false_iff, ne_eq, isAsciiUpper_iff]
  rcases isSnakeChar_iff.mp h with h | h | rfl
  · rw [isAsciiLower_iff] at h
    omega
  · rw [isAsciiDigit_iff] at h
    omega
  · decide

theorem isAscii_of_isSnakeChar (h : isSnakeChar c = true) : isAscii c = true := by
  rcases isSnakeChar_iff.mp h with h | h | rfl
  · exact isAscii_of_lower h
  · exact isAscii_of_digit h
  · rfl

theorem isUppercase_of_isSnakeChar (h : isSnakeChar c = true) : isUppercase c = false := by
  rw [isUppercase, if_pos (isAscii_of_isSnakeChar h), isAsciiUpper_of_isSnakeChar h]

theorem isAlphanumeric_of_isSnakeChar (h : isSnakeChar c = true) :
    (!isAlphanumeric c) = (c == '_') := by
  rw [isAlphanumeric, if_pos (isAscii_of_isSnakeChar h), isAsciiAlphanumeric, isAsciiLetter]
  rcases isSnakeChar_iff.mp h with h | h | rfl
  · have hne : c ≠ '_' := by
      rintro rfl
      exact absurd h (by decide)
    simp [h, hne]
  · have hne : c ≠ '_' := by
      rintro rfl
      exact absurd h (by decide)
    simp [h, hne]
  · rfl

theorem uppered_of_isSnakeChar (h : isSnakeChar c = true) (hne : c ≠ '_') :
    ∃ d, uppered c = [d] ∧ lowered d = [c] ∧
      (isAsciiUpper d = true ∧ isAsciiDigit c = false ∨ d = c ∧ isAsciiDigit c = true) := by
  rw [uppered, if_pos (isAscii_of_isSnakeChar h)]
  rcases isSnakeChar_iff.mp h with hlower | hdigit | he
  · rw [if_pos hlower]
    rw [isAsciiLower_iff] at hlower
    have hvalue : (Char.ofNat (c.toNat - 32)).toNat = c.toNat - 32 := toNat_ofNat_of_lt (by omega)
    have hupper : isAsciiUpper (Char.ofNat (c.toNat - 32)) = true := by
      rw [isAsciiUpper_iff, hvalue]
      omega
    have hascii : isAscii (Char.ofNat (c.toNat - 32)) = true := by
      simp only [isAscii, hvalue, decide_eq_true_eq]
      omega
    refine ⟨_, rfl, ?_, .inl ⟨hupper, ?_⟩⟩
    · rw [lowered, if_pos hascii, if_pos hupper, hvalue, Nat.sub_add_cancel (by omega),
        Char.ofNat_toNat]
    · rw [Bool.eq_false_iff, ne_eq, isAsciiDigit_iff]
      omega
  · have hlower : isAsciiLower c ≠ true := by
      rw [isAsciiDigit_iff] at hdigit
      rw [ne_eq, isAsciiLower_iff]
      omega
    refine ⟨c, if_neg hlower ▸ rfl, ?_, .inr ⟨rfl, hdigit⟩⟩
    rw [lowered, if_pos (isAscii_of_isSnakeChar h),
      if_neg (by rw [isAsciiUpper_of_isSnakeChar h]; decide)]
  · exact absurd he hne

end Chars

section Shouty

variable {name : List Char}

theorem pieceWords_of_not_upper {piece : List Char} (h : ∀ c ∈ piece, isUppercase c = false)
    (hne : piece ≠ []) (mode : CaseMode) (word : List Char) :
    pieceWords mode word piece = [word.reverse ++ piece] := by
  induction piece generalizing mode word with
  | nil => exact absurd rfl hne
  | cons c rest ih =>
      rw [List.forall_mem_cons] at h
      cases rest with
      | nil => simp [pieceWords]
      | cons d more =>
          have hd := h.2 d List.mem_cons_self
          rw [pieceWords, if_neg (by simp [hd]), if_neg (by simp [h.1]), ih h.2 (by simp)]
          simp

theorem flatMap_pieceWords {pieces : List (List Char)}
    (h : ∀ piece ∈ pieces, ∀ c ∈ piece, isUppercase c = false) :
    pieces.flatMap (pieceWords .fresh []) = pieces.filter (· ≠ []) := by
  induction pieces with
  | nil => rfl
  | cons piece rest ih =>
      rw [List.forall_mem_cons] at h
      rw [List.flatMap_cons, ih h.2]
      by_cases hne : piece = []
      · rw [hne]
        rfl
      · rw [pieceWords_of_not_upper h.1 hne, List.filter_cons_of_pos (by simpa using hne)]
        rfl

theorem words_of_isSnakeChar (h : ∀ c ∈ name, isSnakeChar c = true) : words name = parts name := by
  have hpieces : piecesAt (fun c => !isAlphanumeric c) name = piecesAt (· == '_') name :=
    piecesAt_congr fun c hc => isAlphanumeric_of_isSnakeChar (h c hc)
  rw [words, hpieces, flatMap_pieceWords, parts, List.splitOn_eq_splitOnP, piecesAt_eq]
  intro piece hpiece c hc
  exact isUppercase_of_isSnakeChar (h c (mem_of_mem_piecesAt hpiece c hc).1)

def IsSnakeWord (word : List Char) : Prop := ∀ c ∈ word, isSnakeChar c = true ∧ c ≠ '_'

theorem isSnakeWord_of_mem_parts (h : ∀ c ∈ name, isSnakeChar c = true) {part : List Char}
    (hpart : part ∈ parts name) : IsSnakeWord part := by
  intro c hc
  obtain ⟨hmem, hne⟩ := (mem_of_mem_parts hpart).2 c hc
  exact ⟨h c hmem, hne⟩

theorem upperWord_cons {c d : Char} (h : uppered c = [d]) (rest : List Char) :
    upperWord (c :: rest) = d :: upperWord rest := by
  rw [upperWord, List.flatMap_cons, h]
  rfl

theorem flatMap_lowered_upperWord {word : List Char} (h : IsSnakeWord word) :
    (upperWord word).flatMap lowered = word := by
  induction word with
  | nil => rfl
  | cons c rest ih =>
      obtain ⟨⟨hc, hne⟩, hrest⟩ := List.forall_mem_cons.mp h
      obtain ⟨d, hd, hback, -⟩ := uppered_of_isSnakeChar hc hne
      rw [upperWord_cons hd, List.flatMap_cons, hback, ih hrest]
      rfl

theorem mem_upperWord {word : List Char} (h : IsSnakeWord word) {d : Char}
    (hd : d ∈ upperWord word) : isAsciiUpper d = true ∨ isAsciiDigit d = true := by
  obtain ⟨c, hc, hd⟩ := List.mem_flatMap.mp hd
  obtain ⟨e, he, -, hkind⟩ := uppered_of_isSnakeChar (h c hc).1 (h c hc).2
  rw [he, List.mem_singleton] at hd
  subst hd
  rcases hkind with ⟨hupper, -⟩ | ⟨rfl, hdigit⟩
  · exact .inl hupper
  · exact .inr hdigit

theorem joinable_map_upperWord {words : List (List Char)}
    (h : ∀ word ∈ words, word ≠ [] ∧ IsSnakeWord word) : Joinable (words.map upperWord) := by
  intro upper hupper
  obtain ⟨word, hword, rfl⟩ := List.mem_map.mp hupper
  obtain ⟨hne, hsnake⟩ := h word hword
  constructor
  · intro hnil
    have hback := flatMap_lowered_upperWord hsnake
    rw [hnil] at hback
    exact hne hback.symm
  · intro hmem
    rcases mem_upperWord hsnake hmem with h | h
    · exact absurd h (by decide)
    · exact absurd h (by decide)

theorem shoutyCase_eq (h : ∀ c ∈ name, isSnakeChar c = true) :
    shoutyCase name = joinWith ['_'] ((parts name).map upperWord) := by
  rw [shoutyCase, words_of_isSnakeChar h]

theorem parts_shoutyCase (h : ∀ c ∈ name, isSnakeChar c = true) :
    parts (shoutyCase name) = (parts name).map upperWord := by
  rw [shoutyCase_eq h, parts_joinWith (joinable_map_upperWord fun part hpart =>
    ⟨(mem_of_mem_parts hpart).1, isSnakeWord_of_mem_parts h hpart⟩)]

/-- A shouted name tells the parts of the name, and nothing else about it. -/
theorem shoutyCase_eq_iff {other : List Char} (h : ∀ c ∈ name, isSnakeChar c = true)
    (hother : ∀ c ∈ other, isSnakeChar c = true) :
    shoutyCase name = shoutyCase other ↔ parts name = parts other := by
  have hback : ∀ {name : List Char}, (∀ c ∈ name, isSnakeChar c = true) →
      (parts (shoutyCase name)).map (·.flatMap lowered) = parts name := by
    intro name h
    rw [parts_shoutyCase h, List.map_map]
    conv_rhs => rw [← List.map_id (parts name)]
    exact List.map_congr_left fun part hpart =>
      flatMap_lowered_upperWord (isSnakeWord_of_mem_parts h hpart)
  constructor
  · intro he
    rw [← hback h, he, hback hother]
  · intro he
    rw [shoutyCase_eq h, he, ← shoutyCase_eq hother]

theorem mem_shoutyCase (h : ∀ c ∈ name, isSnakeChar c = true) {d : Char}
    (hd : d ∈ shoutyCase name) : isAsciiUpper d = true ∨ isAsciiDigit d = true ∨ d = '_' := by
  rw [shoutyCase_eq h] at hd
  rcases mem_joinWith hd with hd | ⟨word, hword, hd⟩
  · exact .inr (.inr (List.mem_singleton.mp hd))
  · obtain ⟨part, hpart, rfl⟩ := List.mem_map.mp hword
    exact (mem_upperWord (isSnakeWord_of_mem_parts h hpart) hd).imp_right .inl

theorem head?_shoutyCase (h : ∀ c ∈ name, isSnakeChar c = true) :
    (shoutyCase name).head? = (name.find? (· ≠ '_')).bind fun c => (uppered c).head? := by
  rw [shoutyCase_eq h, find?_eq_head_parts]
  cases hparts : parts name with
  | nil => rfl
  | cons part more =>
      have hpart : part ∈ parts name := hparts ▸ List.mem_cons_self
      obtain ⟨hne, -⟩ := mem_of_mem_parts hpart
      cases part with
      | nil => exact absurd rfl hne
      | cons c rest =>
          obtain ⟨hc, hcne⟩ := isSnakeWord_of_mem_parts h hpart c List.mem_cons_self
          obtain ⟨d, hd, -⟩ := uppered_of_isSnakeChar hc hcne
          rw [List.map_cons, upperWord_cons hd, head?_joinWith (by simp)]
          simp [hd]

end Shouty

section Snake

theorem mem_pieceWords {mode : CaseMode} {current piece word : List Char}
    (hmode : mode = .upper → current ≠ []) (hword : word ∈ pieceWords mode current piece) :
    word ≠ [] ∧ ∀ c ∈ word, c ∈ current ∨ c ∈ piece := by
  induction piece generalizing mode current with
  | nil => cases hword
  | cons c rest ih =>
      cases rest with
      | nil =>
          rw [pieceWords, List.mem_singleton] at hword
          subst hword
          simp [or_comm]
      | cons d more =>
          -- every word but one that ends here is a word of what follows, begun with `c` or anew
          have hlater : ∀ {mode' : CaseMode} {current' : List Char},
              (mode' = .upper → current' ≠ []) → (∀ e ∈ current', e ∈ c :: current) →
              word ∈ pieceWords mode' current' (d :: more) →
              word ≠ [] ∧ ∀ e ∈ word, e ∈ current ∨ e ∈ c :: d :: more := by
            intro mode' current' hmode' hcurrent hlater
            obtain ⟨hne, hmem⟩ := ih hmode' hlater
            refine ⟨hne, fun e he => ?_⟩
            rcases hmem e he with he | he
            · rcases List.mem_cons.mp (hcurrent e he) with rfl | he
              · exact .inr List.mem_cons_self
              · exact .inl he
            · exact .inr (List.mem_cons_of_mem _ he)
          rw [pieceWords] at hword
          split at hword
          next =>
            rcases List.mem_cons.mp hword with rfl | hword
            · refine ⟨by simp, fun e he => ?_⟩
              rcases List.mem_cons.mp (List.mem_reverse.mp he) with rfl | he
              · exact .inr List.mem_cons_self
              · exact .inl he
            · exact hlater (by simp) (by simp) hword
          next =>
            split at hword
            next hsplit =>
              rcases List.mem_cons.mp hword with rfl | hword
              · exact ⟨by simpa using hmode hsplit.1, fun e he => .inl (List.mem_reverse.mp he)⟩
              · exact hlater (by simp) (by simp) hword
            next => exact hlater (by simp) (fun _ he => he) hword

theorem mem_words {text word : List Char} (h : word ∈ words text) :
    word ≠ [] ∧ ∀ c ∈ word, isAlphanumeric c = true := by
  obtain ⟨piece, hpiece, hword⟩ := List.mem_flatMap.mp h
  obtain ⟨hne, hmem⟩ := mem_pieceWords (by simp) hword
  refine ⟨hne, fun c hc => ?_⟩
  have hin : c ∈ piece := by simpa using hmem c hc
  simpa using (mem_of_mem_piecesAt hpiece c hin).2

theorem toNat_ofNat_cases (n : Nat) : (Char.ofNat n).toNat = n ∨ (Char.ofNat n).toNat = 0 := by
  by_cases h : n.isValidChar
  · left
    rw [Char.ofNat, dif_pos h]
    rfl
  · right
    rw [Char.ofNat, dif_neg h]
    rfl

theorem le_image_lowercaseRuns : ∀ run ∈ lowercaseRuns, 97 ≤ run.image := by
  decide +kernel

theorem le_image_lowercaseExpansions :
    ∀ expansion ∈ lowercaseExpansions, expansion.2 ≠ [] ∧ ∀ n ∈ expansion.2, 97 ≤ n := by
  decide +kernel

theorem exists_of_lookup {expansions : List (Nat × List Nat)} {n : Nat} {image : List Nat}
    (h : expansions.lookup n = some image) : ∃ expansion ∈ expansions, expansion.2 = image := by
  obtain ⟨before, after, rfl, -⟩ := List.lookup_eq_some_iff.mp h
  exact ⟨(n, image), by simp, rfl⟩

theorem mem_lowered_of_not_isAscii {c d : Char} (hc : isAscii c = false) (h : d ∈ lowered c) :
    d.toNat = 0 ∨ 97 ≤ d.toNat := by
  have himage : ∀ {n : Nat}, 97 ≤ n → (Char.ofNat n).toNat = 0 ∨ 97 ≤ (Char.ofNat n).toNat := by
    intro n hn
    rcases toNat_ofNat_cases n with he | he
    · rw [he]
      exact .inr hn
    · exact .inl he
  rw [lowered, if_neg (by simp [hc]), caseForm] at h
  split at h
  next image hlookup =>
    obtain ⟨expansion, hmem, rfl⟩ := exists_of_lookup hlookup
    obtain ⟨n, hn, rfl⟩ := List.mem_map.mp h
    exact himage ((le_image_lowercaseExpansions expansion hmem).2 n hn)
  next =>
    rw [List.mem_singleton] at h
    cases hfound : lowercaseRuns.findSome? (·.mapped? c.toNat) with
    | none =>
        rw [hfound] at h
        have hd : d = c := h
        have hrange : 128 ≤ c.toNat := by simpa [isAscii] using hc
        rw [hd]
        exact .inr (Nat.le_trans (by decide) hrange)
    | some n =>
        obtain ⟨run, hrun, hmapped⟩ := List.exists_of_findSome?_eq_some hfound
        rw [hfound] at h
        subst h
        refine himage ?_
        rw [CaseRun.mapped?] at hmapped
        split at hmapped
        · rw [← Option.some.inj hmapped]
          exact Nat.le_trans (le_image_lowercaseRuns run hrun) (Nat.le_add_right _ _)
        · cases hmapped

theorem lowered_ne_nil (c : Char) : lowered c ≠ [] := by
  rw [lowered]
  split
  · simp
  · rw [caseForm]
    split
    next image hlookup =>
      obtain ⟨expansion, hmem, rfl⟩ := exists_of_lookup hlookup
      simpa using (le_image_lowercaseExpansions expansion hmem).1
    next => simp

theorem mem_lowered {c d : Char} (h : d ∈ lowered c) :
    isAsciiUpper d = false ∧ (d = '_' → c = '_') := by
  cases hc : isAscii c with
  | false =>
      have hd := mem_lowered_of_not_isAscii hc h
      constructor
      · rw [Bool.eq_false_iff, ne_eq, isAsciiUpper_iff]
        omega
      · rintro rfl
        exact absurd hd (by decide)
  | true =>
      rw [lowered, if_pos hc, List.mem_singleton] at h
      split at h
      next hupper =>
        rw [isAsciiUpper_iff] at hupper
        have hvalue : d.toNat = c.toNat + 32 := by
          rw [h, toNat_ofNat_of_lt (by omega)]
        constructor
        · rw [Bool.eq_false_iff, ne_eq, isAsciiUpper_iff]
          omega
        · rintro rfl
          change 95 = _ at hvalue
          omega
      next hupper => exact ⟨by simpa [h] using hupper, fun he => h ▸ he⟩

theorem lowerWord_ne_nil {word : List Char} (h : word ≠ []) : lowerWord word ≠ [] := by
  cases word with
  | nil => exact absurd rfl h
  | cons c rest =>
      cases rest with
      | nil =>
          rw [lowerWord]
          split
          · simp
          · exact lowered_ne_nil c
      | cons d more =>
          change lowered c ++ lowerWord (d :: more) ≠ []
          simp [lowered_ne_nil c]

theorem mem_lowerWord {word : List Char} {d : Char} (h : d ∈ lowerWord word) :
    d = 'ς' ∨ ∃ c ∈ word, d ∈ lowered c := by
  induction word with
  | nil => cases h
  | cons c rest ih =>
      cases rest with
      | nil =>
          rw [lowerWord] at h
          split at h
          · exact .inl (List.mem_singleton.mp h)
          · exact .inr ⟨c, List.mem_cons_self, h⟩
      | cons e more =>
          change d ∈ lowered c ++ lowerWord (e :: more) at h
          rcases List.mem_append.mp h with h | h
          · exact .inr ⟨c, List.mem_cons_self, h⟩
          · exact (ih h).imp_right fun ⟨other, hother, hd⟩ =>
              ⟨other, List.mem_cons_of_mem _ hother, hd⟩

theorem joinable_lowerWords (text : List Char) : Joinable ((words text).map lowerWord) := by
  intro lower hlower
  obtain ⟨word, hword, rfl⟩ := List.mem_map.mp hlower
  obtain ⟨hne, halphanumeric⟩ := mem_words hword
  refine ⟨lowerWord_ne_nil hne, fun hmem => ?_⟩
  rcases mem_lowerWord hmem with h | ⟨c, hc, h⟩
  · exact absurd h (by decide)
  · have hunderscore := halphanumeric c hc
    rw [(mem_lowered h).2 rfl] at hunderscore
    exact absurd hunderscore (by decide)

/-- A name in snake case is its words in lowercase, joined: no underscore stands at an end of it or
next to another one. -/
theorem parts_snakeCase (text : List Char) : parts (snakeCase text) = (words text).map lowerWord :=
  parts_joinWith (joinable_lowerWords text)

theorem joinWith_parts_snakeCase (text : List Char) :
    joinWith ['_'] (parts (snakeCase text)) = snakeCase text := by
  rw [parts_snakeCase, snakeCase]

theorem isAsciiUpper_of_mem_snakeCase {text : List Char} {d : Char} (h : d ∈ snakeCase text) :
    isAsciiUpper d = false := by
  rcases mem_joinWith h with h | ⟨lower, hlower, hd⟩
  · rw [List.mem_singleton.mp h]
    decide
  · obtain ⟨word, -, rfl⟩ := List.mem_map.mp hlower
    rcases mem_lowerWord hd with rfl | ⟨c, -, hd⟩
    · decide
    · exact (mem_lowered hd).1

end Snake

end TypedLogging.Text
