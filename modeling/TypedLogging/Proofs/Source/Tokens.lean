import TypedLogging.Proofs.Source.Reads
import TypedLogging.Proofs.Text.Integer

namespace TypedLogging.Source

open Text Lexer

section Literals

variable {c : Char} {name : String} {token text rest behind : List Char} {trees : List TokenTree}

/-- The characters that begin a literal, digits aside. -/
def quoteStarts : List Char := "\"rbc'".toList

theorem begins_of_literalEnd? (h : literalEnd? (c :: text) = some rest) :
    c ∈ quoteStarts ∨ isAsciiDigit c = true := by
  rcases exists_opens h with ⟨front, scan, more, hopens, htext, -⟩ | hfloat | ⟨-, hinteger⟩
  · refine .inl ?_
    cases hopens <;> cases htext <;> decide
  · obtain ⟨between, hbody, -⟩ := Option.bind_eq_some_iff.mp hfloat
    obtain ⟨d, more, -, htext, hdigit, -⟩ := exists_digits hbody
    cases htext
    exact .inr hdigit
  · obtain ⟨d, more, htext, hdigit, -⟩ := integerEnd?_local hinteger
    rw [List.cons_append, List.cons.injEq] at htext
    exact .inr (htext.1 ▸ hdigit)

/-- A text that is one literal wherever it stands. -/
structure IsLiteral (text : String) : Prop where
  head : ∃ c ∈ text.toList.head?, c ≠ '/'
  lexeme : ∀ ⦃behind⦄, Stops behind →
    lexeme? (text.toList ++ behind) = some (.leaves [.literal text], behind)

theorem IsLiteral.reads {text : String} (h : IsLiteral text) : Reads text.toList [.literal text] := by
  obtain ⟨⟨c, hhead, hc⟩, hlexeme⟩ := h
  obtain ⟨more, htext⟩ := List.head?_eq_some_iff.mp hhead
  rw [htext] at hlexeme ⊢
  exact reads_lexeme hc hlexeme

theorem leaf?_of_literalEnd? (h : literalEnd? (token ++ behind) = some behind) :
    leaf? (token ++ behind) = some (.literal (String.ofList token), behind) := by
  rw [leaf?, h]
  dsimp only
  rw [consumed_append]

theorem isLiteral_of_takes (h : Takes literalEnd? token) : IsLiteral (String.ofList token) := by
  cases token with
  | nil => cases h stops_nil
  | cons c token =>
      have hplain : isGapChar c = false ∧ c ∉ "()[]\x7b\x7d".toList ∧ c ≠ '/' := by
        rcases begins_of_literalEnd? (h stops_nil) with hc | hdigit
        · have hstarts : ∀ c ∈ quoteStarts,
              isGapChar c = false ∧ c ∉ "()[]\x7b\x7d".toList ∧ c ≠ '/' := by decide
          exact hstarts c hc
        · have hbrackets : ∀ d ∈ "()[]\x7b\x7d/".toList, isAsciiDigit d = false := by decide
          refine ⟨isGapChar_of_isWordChar (isWordChar_of_continues (continues_of_digit hdigit)), ?_, ?_⟩
          · intro hc
            rw [hbrackets c (List.mem_append_left ['/'] hc)] at hdigit
            cases hdigit
          · rintro rfl
            cases hdigit
      refine ⟨⟨c, by simp, hplain.2.2⟩, fun behind hstops => ?_⟩
      rw [String.toList_ofList, List.cons_append,
        lexeme?_eq_leaf? hplain.1 hplain.2.1 fun hc => absurd hc hplain.2.2, ← List.cons_append,
        leaf?_of_literalEnd? (h hstops)]
      rfl

theorem isLiteral_errorMark : IsLiteral errorMark := by
  refine ⟨⟨'(', by decide, by decide⟩, fun behind _ => ?_⟩
  obtain ⟨more, hmark⟩ : ∃ more, errorMark.toList = '(' :: more := ⟨_, rfl⟩
  have hbegins : startsWith errorMark (errorMark.toList ++ behind) = true :=
    List.isPrefixOf_iff_prefix.mpr (List.prefix_append _ _)
  have hnone := no_gap_bracket (c := '(') (by decide) (more ++ behind)
  rw [hmark, List.cons_append] at hbegins ⊢
  rw [lexeme?, hnone.1, hnone.2]
  dsimp only
  rw [if_pos hbegins, ← List.cons_append, ← hmark, String.length, List.drop_left]

end Literals

section Operators

variable {c : Char} {text rest behind : List Char} {trees : List TokenTree}

theorem not_literal_of_punct (hc : c ∈ punctuation) (hquote : c ≠ '\'') (text : List Char) :
    literalEnd? (c :: text) = none := by
  have hstarts : ∀ c ∈ quoteStarts, c ∈ punctuation → c = '\'' := by decide
  have hdigits : ∀ c ∈ punctuation, isAsciiDigit c = false := by decide
  refine Option.eq_none_iff_forall_ne_some.mpr fun rest h => ?_
  rcases begins_of_literalEnd? h with hstart | hdigit
  · exact hquote (hstarts c hstart hc)
  · rw [hdigits c hc] at hdigit
    cases hdigit

theorem punctEnd?_eq_some (hc : c ∈ punctuation)
    (hcomment : c = '/' → ∀ d ∈ rest.head?, d ≠ '/' ∧ d ≠ '*') :
    punctEnd? (c :: rest) = some (c, rest) := by
  have hline : startsWith "//" (c :: rest) = false :=
    startsWith_comment (List.prefix_refl _) fun hslash hd => (hcomment hslash '/' hd).1 rfl
  have hblock : startsWith "/*" (c :: rest) = false :=
    startsWith_comment (List.prefix_refl _) fun hslash hd => (hcomment hslash '*' hd).2 rfl
  rw [punctEnd?, hline, hblock]
  simp [hc]

theorem of_punctEnd? (h : punctEnd? text = some (c, rest)) :
    text = c :: rest ∧ c ∈ punctuation ∧ (c = '/' → ∀ d ∈ rest.head?, d ≠ '/' ∧ d ≠ '*') := by
  rw [punctEnd?.eq_def] at h
  split at h
  next => cases h
  next hcomment =>
    cases text with
    | nil => cases h
    | cons d text =>
        dsimp only at h
        split at h
        next hd =>
          cases h
          refine ⟨rfl, by simpa using hd, ?_⟩
          rintro rfl e he
          obtain ⟨more, rfl⟩ := List.head?_eq_some_iff.mp he
          constructor <;> rintro rfl <;> exact hcomment (by simp [startsWith])
        next => cases h

theorem Lexer.Stops.no_comment (hstops : Stops behind) (h : ∀ d ∈ text.head?, d ≠ '/' ∧ d ≠ '*') :
    ∀ d ∈ (text ++ behind).head?, d ≠ '/' ∧ d ≠ '*' := by
  cases text with
  | nil =>
      have hplain : ∀ c ∈ stops, c ≠ '/' ∧ c ≠ '*' := by decide
      exact fun d hd => hplain d (hstops d hd)
  | cons c text => exact h

theorem lexeme?_punct (hc : c ∈ punctuation) (hquote : c ≠ '\'')
    (hcomment : c = '/' → ∀ d ∈ rest.head?, d ≠ '/' ∧ d ≠ '*') :
    lexeme? (c :: rest) = some (.leaves [.punct c (punctEnd? rest).isSome], rest) := by
  have hplain : ∀ c ∈ punctuation, isGapChar c = false ∧ c ∉ "()[]\x7b\x7d".toList := by decide
  rw [lexeme?_eq_leaf? (hplain c hc).1 (hplain c hc).2 hcomment, leaf?, not_literal_of_punct hc hquote,
    punct?, punctEnd?_eq_some hc hcomment]
  simp [hquote]

/-- Whether punctuation begins here does not depend on what stands behind, if that stops a token. -/
theorem punctEnd?_append (hstops : Stops behind) :
    (punctEnd? (text ++ behind)).isSome = (punctEnd? text).isSome := by
  rw [Bool.eq_iff_iff, Option.isSome_iff_exists, Option.isSome_iff_exists]
  cases text with
  | nil =>
      have hplain : ∀ c ∈ stops, c ∉ punctuation := by decide
      refine ⟨fun ⟨(c, rest), h⟩ => ?_, nofun⟩
      obtain ⟨rfl, hc, -⟩ := of_punctEnd? h
      exact absurd hc (hplain c (stops_cons.mp hstops))
  | cons c text =>
      constructor
      · rintro ⟨⟨d, rest⟩, h⟩
        obtain ⟨htext, hd, hcomment⟩ := of_punctEnd? h
        obtain ⟨rfl, rfl⟩ := List.cons.inj htext
        refine ⟨_, punctEnd?_eq_some hd fun hslash e he => hcomment hslash e ?_⟩
        obtain ⟨more, rfl⟩ := List.head?_eq_some_iff.mp he
        rfl
      · rintro ⟨⟨d, rest⟩, h⟩
        obtain ⟨htext, hd, hcomment⟩ := of_punctEnd? h
        obtain ⟨rfl, rfl⟩ := List.cons.inj htext
        exact ⟨_, punctEnd?_eq_some hd fun hslash => hstops.no_comment (hcomment hslash)⟩

theorem Reads.glued (h : Reads text trees) (hc : c ∈ punctuation) (hquote : c ≠ '\'')
    (hcomment : c = '/' → ∀ d ∈ text.head?, d ≠ '/' ∧ d ≠ '*') :
    Reads (c :: text) (.punct c (punctEnd? text).isSome :: trees) where
  begins hbegins := by
    obtain ⟨hslash, more, rfl⟩ := List.cons_prefix_cons.mp hbegins
    exact (hcomment hslash.symm '*' rfl).2 rfl
  read outer before behind fuel result hstops hbehind := by
    have hlexeme := lexeme?_punct hc hquote fun hslash => hstops.no_comment (hcomment hslash)
    rw [List.length_cons, Nat.add_right_comm, List.cons_append, assemble?_leaves hlexeme (by simp),
      punctEnd?_append hstops]
    refine h.read hstops ?_
    simpa using hbehind

/-- The trees of an operator. -/
def operatorTrees : List Char → List TokenTree
  | [] => []
  | c :: rest => .punct c (punctEnd? rest).isSome :: operatorTrees rest

/-- Whether each character is punctuation and none begins a lifetime or a comment. -/
def isOperator : List Char → Bool
  | [] => true
  | c :: rest =>
    punctuation.contains c && c ≠ '\'' && (c ≠ '/' || rest.head?.all fun d => d ≠ '/' && d ≠ '*')
      && isOperator rest

theorem reads_operator (h : isOperator text = true) : Reads text (operatorTrees text) := by
  induction text with
  | nil => exact reads_nil
  | cons c rest ih =>
      simp only [isOperator, Bool.and_eq_true, decide_eq_true_eq, List.contains_iff_mem] at h
      obtain ⟨⟨⟨hc, hquote⟩, hcomment⟩, hrest⟩ := h
      refine (ih hrest).glued hc hquote fun hslash d hd => ?_
      rw [hslash, hd] at hcomment
      simpa using hcomment

end Operators

section Lifetimes

variable {name : String} {text behind : List Char} {trees : List TokenTree}

/-- A name stands here, and what is behind it neither closes quotes nor makes it a raw one. -/
def Names (word rest : List Char) : Prop :=
  Spells word ∧ StopsWord rest ∧ rest.head? ≠ some '\'' ∧ (IsWord word → rest.head? ≠ some '#')

theorem startsWith_iff {start : String} {c : Char} (h : start.toList = [c]) :
    startsWith start text = true ↔ text.head? = some c := by
  rw [startsWith, h, List.isPrefixOf_iff_prefix, List.head?_eq_some_iff]
  exact exists_congr fun rest => eq_comm

theorem exists_name (h : apostropheStands text = true) :
    ∃ word rest, text = word ++ rest ∧ Names word rest := by
  rw [apostropheStands] at h
  split at h
  next => cases h
  next word rest hident =>
    obtain ⟨hspells, htext⟩ := anyIdent?_spells hident
    refine ⟨word.toList, rest, htext, hspells, stopsWord_of_anyIdent? hident, fun hquote => ?_,
      fun hword hmark => ?_⟩
    · have hstart : startsWith "'" rest = true := (startsWith_iff rfl).mpr hquote
      rw [hstart] at h
      cases h
    · have hstart : startsWith "#" rest = true := (startsWith_iff rfl).mpr hmark
      cases hraw : startsWith "r#" text with
      | false => simp [hstart, hraw] at h
      | true =>
          obtain ⟨behind, hname⟩ := startsWith_raw_iff.mp (startsWith_of_anyIdent? hident hraw)
          exact absurd (hword.isWordChar '#' (by simp [hname])) (by decide)

theorem apostropheStands_of_names {word rest : List Char} (h : Names word rest) :
    apostropheStands (word ++ rest) = true := by
  obtain ⟨hspells, hstops, hquote, hmark⟩ := h
  have hclosed : startsWith "'" rest = false := Bool.eq_false_iff.mpr fun h =>
    hquote ((startsWith_iff rfl).mp h)
  have hraw : (startsWith "#" rest && !startsWith "r#" (word ++ rest)) = false := by
    cases hspells with
    | plain hword =>
        rw [Bool.eq_false_iff.mpr fun h => hmark hword ((startsWith_iff rfl).mp h), Bool.false_and]
    | raw =>
        rw [startsWith_append (startsWith_raw_iff.mpr ⟨_, rfl⟩), Bool.not_true, Bool.and_false]
  rw [apostropheStands, anyIdent?_of_spells hspells hstops hmark]
  dsimp only
  rw [hclosed, hraw]
  rfl

theorem Names.congr {word rest other : List Char} (h : Names word rest)
    (hhead : other.head? = rest.head?) : Names word other := by
  obtain ⟨hspells, hstops, hquote, hmark⟩ := h
  exact ⟨hspells, fun d hd => hstops d (hhead ▸ hd), hhead ▸ hquote, fun hword => hhead ▸ hmark hword⟩

theorem Names.of_stops {word : List Char} (h : Spells word) (hstops : StopsIdent behind) :
    Names word behind :=
  ⟨h, fun d hd => (hstops d hd).1, fun hquote => absurd (hstops _ hquote).2 (by decide),
    fun _ hmark => absurd (hstops _ hmark).2 (by decide)⟩

theorem not_literal_of_apostrophe (h : apostropheStands text = true) :
    literalEnd? ('\'' :: text) = none := by
  obtain ⟨word, rest, rfl, hspells, -, hquote, -⟩ := exists_name h
  obtain ⟨c, more, rfl, hstart⟩ := hspells.head
  refine Option.eq_none_iff_forall_ne_some.mpr fun behind hend => ?_
  rw [List.cons_append] at hend
  have hslash : c ≠ '\\' := by
    rintro rfl
    exact absurd hstart (by decide)
  have hclose : closeQuote? (more ++ rest) = some behind := by
    rw [← hend]
    exact ((Opens.character hslash).literalEnd? (more ++ rest)).symm
  cases more with
  | nil =>
      rw [List.nil_append] at hclose
      unfold closeQuote? at hclose
      split at hclose
      next => exact hquote rfl
      next => cases hclose
  | cons d more =>
      have hd := (hspells.chars d (by simp)).1
      rw [List.cons_append] at hclose
      unfold closeQuote? at hclose
      split at hclose
      next he =>
        cases he
        exact absurd hd (by decide)
      next => cases hclose

theorem lexeme?_apostrophe (h : apostropheStands text = true) :
    lexeme? ('\'' :: text) = some (.leaves [.punct '\'' true], text) := by
  have hcomment : '\'' = '/' → ∀ d ∈ text.head?, d ≠ '/' ∧ d ≠ '*' :=
    fun hslash => absurd hslash (by decide)
  rw [lexeme?_eq_leaf? (by decide) (by decide) hcomment, leaf?, not_literal_of_apostrophe h, punct?,
    punctEnd?_eq_some (by decide) hcomment]
  simp [h]

theorem Reads.lifetime (h : Reads text trees)
    (hstands : ∀ behind, Stops behind → apostropheStands (text ++ behind) = true) :
    Reads ('\'' :: text) (.punct '\'' true :: trees) where
  begins hbegins := absurd (List.cons_prefix_cons.mp hbegins).1 (by decide)
  read outer before behind fuel result hstops hbehind := by
    rw [List.length_cons, Nat.add_right_comm, List.cons_append,
      assemble?_leaves (lexeme?_apostrophe (hstands behind hstops)) (by simp)]
    refine h.read hstops ?_
    simpa using hbehind

theorem reads_lifetime (h : IsIdent name) :
    Reads ('\'' :: name.toList) [.punct '\'' true, .ident name] :=
  (reads_ident h).lifetime fun _ hstops => apostropheStands_of_names (.of_stops h.spells hstops.stopsIdent)

end Lifetimes

section Numerals

variable {digits behind : List Char}

theorem floatDigits?_digits (h : ∀ c ∈ digits, isAsciiDigit c = true) (hstops : Stops behind) :
    floatDigits? false (digits ++ behind) = some ⟨false, false, behind⟩ := by
  induction digits with
  | nil => exact hstops.floatDigits? false
  | cons c digits ih =>
      rw [List.forall_mem_cons] at h
      rw [List.cons_append, floatDigits?.eq_def]
      dsimp only
      rw [h.1, Bool.true_or, if_pos rfl, ih h.2]

theorem digitsEnd?_digits (h : ∀ c ∈ digits, isAsciiDigit c = true) (hstops : Stops behind)
    {empty : Bool} (hempty : digits = [] → empty = false) :
    digitsEnd? 10 empty (digits ++ behind) = some behind := by
  induction digits generalizing empty with
  | nil =>
      rw [hempty rfl]
      exact hstops.digitsEnd?
  | cons c digits ih =>
      rw [List.forall_mem_cons] at h
      have hbase : ¬10 ≤ hexValue c := by
        have hdigit := h.1
        rw [isAsciiDigit, Bool.and_eq_true, decide_eq_true_eq, decide_eq_true_eq] at hdigit
        rw [hexValue, if_pos h.1]
        omega
      rw [List.cons_append, digitsEnd?, if_pos h.1, if_neg hbase, ih h.2 fun _ => rfl]

theorem takes_digits (hne : digits ≠ []) (h : ∀ c ∈ digits, isAsciiDigit c = true) :
    Takes literalEnd? digits := by
  intro behind hstops
  obtain ⟨c, digits, rfl⟩ := List.exists_cons_of_ne_nil hne
  have hdigit := h c List.mem_cons_self
  have hrest := fun d hd => h d (List.mem_cons_of_mem c hd)
  have hfloat : floatEnd? (c :: (digits ++ behind)) = none := by
    rw [floatEnd?, floatBodyEnd?_cons hdigit (floatDigits?_digits hrest hstops)]
    rfl
  have hmarks : ∀ mark ∈ "xob".toList, ∀ text, c :: (digits ++ behind) ≠ '0' :: mark :: text := by
    have hplain : ∀ mark ∈ "xob".toList, mark ∉ stops ∧ isAsciiDigit mark = false := by decide
    intro mark hmark text htext
    have hsecond : digits ++ behind = mark :: text := (List.cons.inj htext).2
    cases digits with
    | nil =>
        rw [List.nil_append] at hsecond
        exact (hplain mark hmark).1 (stops_cons.mp (hsecond ▸ hstops))
    | cons d digits =>
        have hd := hrest d List.mem_cons_self
        rw [(List.cons.inj hsecond).1, (hplain mark hmark).2] at hd
        cases hd
  have hinteger : integerEnd? (c :: (digits ++ behind)) = some behind := by
    rw [integerEnd?, integerBodyEnd?, ← List.cons_append, digitsEnd?_digits h hstops fun hnil => absurd hnil (List.cons_ne_nil c digits),
      Option.bind_eq_bind, Option.bind_some, hstops.stopsWord.skipSuffix,
      wordBreak?_eq_some.mpr ⟨rfl, hstops.stopsWord⟩]
    · exact hmarks 'x' (by decide)
    · exact hmarks 'o' (by decide)
    · exact hmarks 'b' (by decide)
  rw [List.cons_append, literalEnd?_digit hdigit, hfloat, hinteger]
  rfl

theorem isLiteral_natural (n : Nat) : IsLiteral (toString n) := by
  have hdigits := isDigits_toDigits n
  have hliteral := isLiteral_of_takes (takes_digits hdigits.1 hdigits.2)
  rwa [← Nat.toList_repr, String.ofList_toList] at hliteral

end Numerals

section Quotations

variable {kind : QuoteKind} {c : Char} {token text rest : List Char} {n count value : Nat}

theorem hexDigit_spec (h : n < 16) : isHexDigit (hexDigit n) = true ∧ hexValue (hexDigit n) = n := by
  have hall : ∀ n < 16, isHexDigit (hexDigit n) = true ∧ hexValue (hexDigit n) = n := by decide
  exact hall n h

theorem length_hexDigits_of_lt (h : n < 16) : (hexDigits n).length ≤ 1 := by
  rw [hexDigits, if_pos h, List.length_singleton]

theorem length_hexDigits_succ {bound k : Nat} (h : ∀ m < bound, (hexDigits m).length ≤ k) :
    ∀ n < 16 * bound, (hexDigits n).length ≤ k + 1 := by
  intro n hn
  rw [hexDigits]
  split
  next => exact Nat.le_add_left 1 k
  next =>
    rw [List.length_append, List.length_singleton]
    exact Nat.succ_le_succ (h _ (Nat.div_lt_of_lt_mul hn))

theorem length_hexDigits : ∀ n < 16 * (16 * (16 * (16 * (16 * 16)))), (hexDigits n).length ≤ 6 :=
  length_hexDigits_succ (length_hexDigits_succ (length_hexDigits_succ (length_hexDigits_succ
    (length_hexDigits_succ fun _ => length_hexDigits_of_lt))))

theorem hexDigits_ne_nil (n : Nat) : hexDigits n ≠ [] := by
  rw [hexDigits]
  split <;> simp

theorem unicodeDigits?_cons (h : n < 16) (hcount : count < 6) (rest : List Char) :
    unicodeDigits? count value (hexDigit n :: rest) = unicodeDigits? (count + 1) (value * 16 + n) rest := by
  rw [unicodeDigits?, if_pos (hexDigit_spec h).1, if_neg (by omega), (hexDigit_spec h).2]

theorem unicodeDigits?_hexDigits (n : Nat) (rest : List Char) (hcount : (hexDigits n).length ≤ 6) :
    unicodeDigits? 0 0 (hexDigits n ++ rest) = unicodeDigits? (hexDigits n).length n rest := by
  induction n using hexDigits.induct generalizing rest with
  | case1 n h =>
      rw [hexDigits, if_pos h, List.length_singleton, List.singleton_append, unicodeDigits?_cons h (by decide),
        Nat.zero_mul, Nat.zero_add, Nat.zero_add]
  | case2 n h ih =>
      rw [hexDigits, if_neg h] at hcount ⊢
      rw [List.length_append, List.length_singleton] at hcount ⊢
      rw [List.append_assoc, ih _ (by omega), List.singleton_append,
        unicodeDigits?_cons (Nat.mod_lt n (by decide)) hcount, Nat.div_add_mod']

theorem unicodeDigits?_char (c : Char) (rest : List Char) :
    unicodeDigits? 0 0 (hexDigits c.toNat ++ '\x7d' :: rest) = some (c.toNat, rest) := by
  have hvalid : c.toNat.isValidChar := c.valid
  have hlength : (hexDigits c.toNat).length ≤ 6 := by
    refine length_hexDigits _ ?_
    unfold Nat.isValidChar at hvalid
    omega
  have hpos := List.length_pos_iff.mpr (hexDigits_ne_nil c.toNat)
  have hend : isHexDigit '\x7d' = false := by decide
  rw [unicodeDigits?_hexDigits c.toNat _ hlength, unicodeDigits?, hend, if_neg Bool.false_ne_true,
    if_neg fun h => absurd h.1 (by decide), if_pos ⟨rfl, hpos, hvalid⟩]

theorem takesQuote_close : TakesQuote .text ['"'] := by
  refine ⟨by decide, fun behind hstops fuel hfuel => ?_⟩
  obtain ⟨left, rfl⟩ : ∃ left, fuel = left + 1 := ⟨fuel - 1, by simp at hfuel; omega⟩
  rw [List.singleton_append, quoteEnd?, hstops.stopsWord.skipSuffix]

theorem quotedChar_ne_nil (c : Char) (next : Option Char) : quotedChar c next ≠ [] := by
  unfold quotedChar unicodeEscape
  split_ifs <;> simp

theorem escapeEnd?_unicode (c : Char) (behind : List Char) :
    escapeEnd? .text ('u' :: '\x7b' :: (hexDigits c.toNat ++ '\x7d' :: behind)) = some behind := by
  rw [escapeEnd?, unicodeDigits?_char]
  rfl

theorem quoteEnd?_quotedChar (c : Char) (next : Option Char) (fuel : Nat) (behind : List Char) :
    quoteEnd? .text (fuel + 1) (quotedChar c next ++ behind) = quoteEnd? .text fuel behind := by
  unfold quotedChar
  split_ifs with hnull hoctal htab hreturn hbreak hquote hslash hescape
  iterate 7 rfl
  · have hunicode : unicodeEscape c ++ behind =
        '\\' :: 'u' :: '\x7b' :: (hexDigits c.toNat ++ '\x7d' :: behind) := by simp [unicodeEscape]
    rw [hunicode, quoteEnd?, escapeEnd?_unicode]
    · rfl
    all_goals simp
  · rw [List.singleton_append, quoteEnd?, QuoteKind.allowsChar, if_pos rfl]
    all_goals simp_all

theorem takesQuote_quotedBody (text : List Char) : TakesQuote .text (quotedBody text ++ ['"']) := by
  induction text with
  | nil => exact takesQuote_close
  | cons c rest ih =>
      rw [quotedBody, List.append_assoc]
      exact ih.step (quotedChar_ne_nil c _) fun fuel behind => quoteEnd?_quotedChar c _ fuel _

theorem isLiteral_quoted (text : String) : IsLiteral (quoted text) := by
  rw [quoted]
  refine isLiteral_of_takes fun behind hstops => ?_
  rw [List.cons_append, List.cons_append, ← List.singleton_append, Opens.text.literalEnd?, quotedEnd?]
  exact (takesQuote_quotedBody text.toList).2 hstops (by simp)

end Quotations

end TypedLogging.Source
