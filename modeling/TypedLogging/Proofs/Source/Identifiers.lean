import Mathlib.Data.List.Basic
import Mathlib.Data.List.TakeWhile
import Mathlib.Data.Option.Basic
import TypedLogging.Source.Literal
import TypedLogging.Source.Lexer

namespace TypedLogging.Source

open Text

namespace Lexer

section Chars

variable {c : Char}

def isWordChar (c : Char) : Bool := startsIdentifier c || continuesIdentifier c

def isPathChar (c : Char) : Bool := isWordChar c || c == '#' || c == ':'

def gapRanges : List (Nat × Nat) := (0x200E, 0x200F) :: blankRanges

def wordRanges : List (Nat × Nat) :=
  [(48, 57), (65, 90), (95, 95), (97, 122)] ++ identifierStartRanges ++ identifierContinueRanges

theorem gapRanges_apart : ∀ r ∈ gapRanges, ∀ s ∈ wordRanges, r.2 < s.1 ∨ s.2 < r.1 := by
  decide +kernel

theorem inRanges_gapRanges (h : isGapChar c = true) : inRanges gapRanges c.toNat = true := by
  simp only [isGapChar, Bool.or_eq_true, beq_iff_eq] at h
  simp only [gapRanges, inRanges, List.any_cons, Bool.or_eq_true]
  rcases h with (h | rfl) | rfl
  · exact .inr h
  · exact .inl rfl
  · exact .inl rfl

theorem inRanges_wordRanges (h : isWordChar c = true) : inRanges wordRanges c.toNat = true := by
  simp only [wordRanges, inRanges, List.any_append, Bool.or_eq_true]
  simp only [isWordChar, startsIdentifier, continuesIdentifier, Bool.or_eq_true] at h
  by_cases hascii : isAscii c = true
  · rw [if_pos hascii, if_pos hascii] at h
    refine .inl (.inl ?_)
    have hunderscore : (c == '_') = true → c.toNat = 95 := by
      intro hc
      rw [eq_of_beq hc]
      rfl
    simp only [isAsciiAlphanumeric, isAsciiLetter, isAsciiLower, isAsciiUpper, isAsciiDigit,
      Bool.or_eq_true, Bool.and_eq_true, decide_eq_true_eq] at h
    simp only [List.any_cons, List.any_nil, Bool.or_false, Bool.or_eq_true, Bool.and_eq_true,
      decide_eq_true_eq]
    grind
  · rw [if_neg hascii, if_neg hascii] at h
    exact h.imp_left .inr

theorem isGapChar_of_isWordChar (h : isWordChar c = true) : isGapChar c = false := by
  rw [Bool.eq_false_iff]
  intro hgap
  have hfirst := inRanges_gapRanges hgap
  have hsecond := inRanges_wordRanges h
  simp only [inRanges, List.any_eq_true, Bool.and_eq_true, decide_eq_true_eq] at hfirst hsecond
  obtain ⟨r, hr, hrn⟩ := hfirst
  obtain ⟨s, hs, hsn⟩ := hsecond
  have := gapRanges_apart r hr s hs
  omega

theorem isGapChar_of_isPathChar (h : isPathChar c = true) : isGapChar c = false := by
  simp only [isPathChar, Bool.or_eq_true, beq_iff_eq] at h
  rcases h with (h | rfl) | rfl
  · exact isGapChar_of_isWordChar h
  · decide
  · decide

theorem not_mem_punctuation (h : isWordChar c = true) : c ∉ punctuation := by
  have hpunctuation : punctuation.all (!isWordChar ·) = true := by decide
  intro hmem
  have hc := List.all_eq_true.mp hpunctuation c hmem
  rw [h] at hc
  cases hc

theorem isWordChar_of_starts (h : startsIdentifier c = true) : isWordChar c = true := by
  rw [isWordChar, h, Bool.true_or]

theorem isWordChar_of_continues (h : continuesIdentifier c = true) : isWordChar c = true := by
  rw [isWordChar, h, Bool.or_true]

end Chars

/-- An identifier that is not raw. -/
def IsWord (word : List Char) : Prop :=
  ∃ c more, word = c :: more ∧ startsIdentifier c = true ∧ ∀ d ∈ more, continuesIdentifier d = true

/-- How an identifier is written. -/
inductive Spells : List Char → Prop
  | plain {word : List Char} (h : IsWord word) : Spells word
  | raw {word : List Char} (h : IsWord word) (hfree : String.ofList word ∉ neverRaw) :
      Spells ('r' :: '#' :: word)

def StopsWord (behind : List Char) : Prop := ∀ d ∈ behind.head?, continuesIdentifier d = false

section Words

variable {text word behind : List Char} {name : String}

theorem IsWord.isWordChar (h : IsWord word) : ∀ d ∈ word, isWordChar d = true := by
  obtain ⟨c, more, rfl, hstart, hmore⟩ := h
  exact List.forall_mem_cons.mpr
    ⟨isWordChar_of_starts hstart, fun d hd => isWordChar_of_continues (hmore d hd)⟩

theorem consumed_append (word behind : List Char) : consumed (word ++ behind) behind = word := by
  simp [consumed]

theorem identEnd?_eq_some : identEnd? text = some behind ↔
    ∃ word, IsWord word ∧ StopsWord behind ∧ text = word ++ behind := by
  constructor
  · intro h
    cases text with
    | nil => cases h
    | cons c rest =>
        rw [identEnd?] at h
        split at h
        next hstart =>
          cases h
          refine ⟨c :: rest.takeWhile continuesIdentifier,
            ⟨c, _, rfl, hstart, fun d => List.mem_takeWhile_imp⟩, ?_, ?_⟩
          · intro d hd
            have hstops := List.head?_dropWhile_not continuesIdentifier rest
            rwa [Option.mem_def.mp hd] at hstops
          · rw [List.cons_append, List.takeWhile_append_dropWhile]
        next => cases h
  · rintro ⟨_, ⟨c, more, rfl, hstart, hmore⟩, hstops, rfl⟩
    rw [List.cons_append, identEnd?, if_pos hstart, List.dropWhile_append_of_pos hmore]
    cases behind with
    | nil => rfl
    | cons d behind =>
        have hd : continuesIdentifier d = false := hstops d rfl
        rw [List.dropWhile_cons, hd, if_neg Bool.false_ne_true]

theorem startsWith_raw_iff : startsWith "r#" text = true ↔ ∃ rest, text = 'r' :: '#' :: rest := by
  rw [startsWith, List.isPrefixOf_iff_prefix]
  constructor
  · rintro ⟨rest, rfl⟩
    exact ⟨rest, rfl⟩
  · rintro ⟨rest, rfl⟩
    exact ⟨rest, rfl⟩

theorem anyIdent?_spells (h : anyIdent? text = some (name, behind)) :
    Spells name.toList ∧ text = name.toList ++ behind := by
  rw [anyIdent?] at h
  split at h
  next hraw =>
    obtain ⟨rest, rfl⟩ := startsWith_raw_iff.mp hraw
    simp only [Option.bind_eq_bind, Option.bind_eq_some_iff] at h
    obtain ⟨rest', hend, _, hguard, hpure⟩ := h
    obtain ⟨word, hword, -, hrest⟩ := identEnd?_eq_some.mp hend
    obtain rfl : rest = word ++ rest' := hrest
    cases hpure
    rw [List.drop_succ_cons, List.drop_succ_cons, List.drop_zero, consumed_append] at hguard
    have hconsumed := consumed_append ('r' :: '#' :: word) behind
    rw [List.cons_append, List.cons_append] at hconsumed
    rw [hconsumed, String.toList_ofList]
    exact ⟨.raw hword (by simpa using (Option.guard_eq_some' _).mp hguard), rfl⟩
  next =>
    simp only [Option.bind_eq_bind, Option.bind_eq_some_iff] at h
    obtain ⟨rest', hend, hpure⟩ := h
    obtain ⟨word, hword, -, rfl⟩ := identEnd?_eq_some.mp hend
    cases hpure
    rw [consumed_append, String.toList_ofList]
    exact ⟨.plain hword, rfl⟩

theorem stopsWord_of_anyIdent? (h : anyIdent? text = some (name, behind)) : StopsWord behind := by
  rw [anyIdent?] at h
  split at h
  all_goals
    simp only [Option.bind_eq_bind, Option.bind_eq_some_iff] at h
    obtain ⟨rest, hend, h⟩ := h
    obtain ⟨word, -, hstops, -⟩ := identEnd?_eq_some.mp hend
  next =>
    obtain ⟨_, -, hpure⟩ := h
    cases hpure
    exact hstops
  next =>
    cases h
    exact hstops

theorem startsWith_of_anyIdent? (h : anyIdent? text = some (name, behind))
    (hraw : startsWith "r#" text = true) : startsWith "r#" name.toList = true := by
  obtain ⟨rest, rfl⟩ := startsWith_raw_iff.mp hraw
  rw [anyIdent?, if_pos hraw] at h
  simp only [Option.bind_eq_bind, Option.bind_eq_some_iff] at h
  obtain ⟨rest', hend, _, -, hpure⟩ := h
  obtain ⟨word, -, -, hrest⟩ := identEnd?_eq_some.mp hend
  obtain rfl : rest = word ++ rest' := hrest
  cases hpure
  rw [← List.cons_append, ← List.cons_append, consumed_append, String.toList_ofList]
  exact startsWith_raw_iff.mpr ⟨word, rfl⟩

theorem anyIdent?_of_spells (h : Spells word) (hstops : StopsWord behind)
    (hmark : IsWord word → behind.head? ≠ some '#') :
    anyIdent? (word ++ behind) = some (String.ofList word, behind) := by
  rw [anyIdent?]
  cases h with
  | plain hword =>
      have hend := identEnd?_eq_some.mpr ⟨word, hword, hstops, rfl⟩
      have hraw : ¬startsWith "r#" (word ++ behind) = true := by
        have hbehind := hmark hword
        rw [startsWith_raw_iff]
        rintro ⟨rest, hrest⟩
        obtain ⟨c, more, rfl, -, hmore⟩ := hword
        rw [List.cons_append, List.cons.injEq] at hrest
        cases more with
        | nil =>
            exact hbehind (congrArg List.head? hrest.2)
        | cons d more =>
            cases hrest.2
            exact absurd (hmore '#' List.mem_cons_self) (by decide)
      rw [if_neg hraw, hend, Option.bind_eq_bind, Option.bind_some, consumed_append]
      rfl
  | @raw word hword hfree =>
      have hend := identEnd?_eq_some.mpr ⟨word, hword, hstops, rfl⟩
      have hconsumed := consumed_append ('r' :: '#' :: word) behind
      have hguard : (guard (!neverRaw.contains (String.ofList word)) : Option Unit) = some () :=
        if_pos (by simpa using hfree)
      rw [List.cons_append, List.cons_append] at hconsumed ⊢
      rw [if_pos (startsWith_raw_iff.mpr ⟨word ++ behind, rfl⟩)]
      simp only [List.drop_succ_cons, List.drop_zero, Option.bind_eq_bind, hend, Option.bind_some,
        consumed_append, hguard, hconsumed]
      rfl

end Words

/-- A name that is an identifier by itself. -/
def IsIdent (name : String) : Prop := ident? name.toList = some (name, [])

instance (name : String) : Decidable (IsIdent name) :=
  inferInstanceAs (Decidable (ident? name.toList = some (name, [])))

def StopsIdent (behind : List Char) : Prop :=
  ∀ d ∈ behind.head?, continuesIdentifier d = false ∧ d ∉ "#\"'".toList

section Idents

variable {text word behind : List Char} {name : String}

theorem ident?_eq_some : ident? text = some (name, behind) ↔
    literalStarts.any (startsWith · text) = false ∧ anyIdent? text = some (name, behind) := by
  rw [ident?]
  cases literalStarts.any (startsWith · text) <;> simp

theorem startsWith_append {start : String} (h : startsWith start word = true) (behind : List Char) :
    startsWith start (word ++ behind) = true := by
  rw [startsWith, List.isPrefixOf_iff_prefix] at h ⊢
  exact h.trans (List.prefix_append word behind)

theorem startsWith_of_stopsIdent {start : String}
    (hstart : ∀ d ∈ start.toList, continuesIdentifier d = true ∨ d ∈ "#\"'".toList)
    (hstops : StopsIdent behind) (h : startsWith start (word ++ behind) = true) :
    startsWith start word = true := by
  rw [startsWith, List.isPrefixOf_iff_prefix] at h ⊢
  rcases List.prefix_or_prefix_of_prefix h (List.prefix_append word behind) with hshort | ⟨more, hmore⟩
  · exact hshort
  · cases more with
    | nil => exact ⟨[], by rw [List.append_nil, ← hmore, List.append_nil]⟩
    | cons d more =>
        rw [← hmore, List.prefix_append_right_inj] at h
        obtain ⟨further, rfl⟩ := h
        obtain ⟨hcontinues, hmarks⟩ := hstops d rfl
        rcases hstart d (hmore ▸ List.mem_append_right word List.mem_cons_self) with hd | hd
        · rw [hd] at hcontinues
          cases hcontinues
        · exact absurd hd hmarks

theorem isIdent_of_ident? (h : ident? text = some (name, behind)) :
    IsIdent name ∧ text = name.toList ++ behind := by
  obtain ⟨hliteral, hany⟩ := ident?_eq_some.mp h
  obtain ⟨hspells, rfl⟩ := anyIdent?_spells hany
  have hstops : StopsWord [] := fun d hd => nomatch hd
  have hname := anyIdent?_of_spells hspells hstops fun _ => by simp
  rw [List.append_nil, String.ofList_toList] at hname
  refine ⟨ident?_eq_some.mpr ⟨?_, hname⟩, rfl⟩
  rw [List.any_eq_false] at hliteral ⊢
  exact fun start hstart hbegins => hliteral start hstart (startsWith_append hbegins behind)

theorem ident?_append (h : IsIdent name) (hstops : StopsIdent behind) :
    ident? (name.toList ++ behind) = some (name, behind) := by
  obtain ⟨hliteral, hany⟩ := ident?_eq_some.mp h
  obtain ⟨hspells, -⟩ := anyIdent?_spells hany
  have hstarts : ∀ start ∈ literalStarts, ∀ d ∈ start.toList,
      continuesIdentifier d = true ∨ d ∈ "#\"'".toList := by decide +kernel
  refine ident?_eq_some.mpr ⟨?_, ?_⟩
  · rw [List.any_eq_false] at hliteral ⊢
    exact fun start hstart hbegins => hliteral start hstart
      (startsWith_of_stopsIdent (hstarts start hstart) hstops hbegins)
  · rw [anyIdent?_of_spells hspells (fun d hd => (hstops d hd).1), String.ofList_toList]
    exact fun _ hmark => absurd (hstops '#' hmark).2 (by decide)

theorem IsIdent.spells (h : IsIdent name) : Spells name.toList :=
  (anyIdent?_spells (ident?_eq_some.mp h).2).1

theorem Spells.begins (h : Spells word) : literalStarts.any (startsWith · word) = false := by
  rw [List.any_eq_false]
  intro start hstart hbegins
  rw [startsWith, List.isPrefixOf_iff_prefix] at hbegins
  cases h with
  | plain hword =>
      have hmarks : ∀ start ∈ literalStarts, ∃ d ∈ start.toList, isWordChar d = false := by decide +kernel
      obtain ⟨d, hd, hchar⟩ := hmarks start hstart
      rw [hword.isWordChar d (hbegins.subset hd)] at hchar
      cases hchar
  | raw hword =>
      obtain ⟨c, more, rfl, hc, -⟩ := hword
      have hmarks : ∀ start ∈ literalStarts,
          start = "r#\"" ∨ start = "r##" ∨ ¬start.toList.take 2 <+: ['r', '#'] := by decide +kernel
      have hthird : ∀ d, ['r', '#', d] <+: 'r' :: '#' :: c :: more → d = c := by
        rintro d ⟨rest, hrest⟩
        simp only [List.cons_append, List.cons.injEq] at hrest
        exact hrest.2.2.1
      rcases hmarks start hstart with rfl | rfl | hshort
      · exact absurd (hthird _ hbegins ▸ hc) (by decide)
      · exact absurd (hthird _ hbegins ▸ hc) (by decide)
      · exact hshort (List.prefix_of_prefix_length_le ((List.take_prefix 2 _).trans hbegins)
          ⟨c :: more, rfl⟩ (List.length_take_le 2 _))

theorem isIdent_of_isIdentifierText (h : Literal.isIdentifierText name.toList = true) : IsIdent name := by
  obtain ⟨c, more, hname, hstart, hmore⟩ : IsWord name.toList := by
    cases hname : name.toList with
    | nil =>
        rw [hname] at h
        cases h
    | cons c more =>
        rw [hname, Literal.isIdentifierText, Bool.and_eq_true, List.all_eq_true] at h
        exact ⟨c, more, rfl, h.1, h.2⟩
  have hspells : Spells name.toList := .plain ⟨c, more, hname, hstart, hmore⟩
  have hstops : StopsWord [] := fun d hd => nomatch hd
  have hany := anyIdent?_of_spells hspells hstops fun _ => by simp
  rw [List.append_nil, String.ofList_toList] at hany
  exact ident?_eq_some.mpr ⟨hspells.begins, hany⟩

theorem Spells.head (h : Spells word) : ∃ c more, word = c :: more ∧ startsIdentifier c = true := by
  cases h with
  | plain hword =>
      obtain ⟨c, more, rfl, hstart, -⟩ := hword
      exact ⟨c, more, rfl, hstart⟩
  | raw => exact ⟨'r', _, rfl, by decide⟩

theorem Spells.chars (h : Spells word) : ∀ d ∈ word, isPathChar d = true ∧ d ≠ ':' := by
  have hchars : ∀ word : List Char, IsWord word → ∀ d ∈ word, isPathChar d = true ∧ d ≠ ':' := by
    intro word hword d hd
    have hchar := hword.isWordChar d hd
    refine ⟨by rw [isPathChar, hchar, Bool.true_or, Bool.true_or], ?_⟩
    rintro rfl
    exact absurd hchar (by decide)
  cases h with
  | plain hword => exact hchars _ hword
  | raw hword =>
      exact List.forall_mem_cons.mpr ⟨by decide, List.forall_mem_cons.mpr ⟨by decide, hchars _ hword⟩⟩

end Idents

section Lexemes

variable {c : Char} {text rest behind : List Char} {name : String}

theorem startsWith_comment {start : String} {second : Char} (hstart : ['/', second] <+: start.toList)
    (h : c = '/' → rest.head? ≠ some second) : startsWith start (c :: rest) = false := by
  rw [startsWith, Bool.eq_false_iff, ne_eq, List.isPrefixOf_iff_prefix]
  intro hbegins
  obtain ⟨more, hmore⟩ := hstart.trans hbegins
  rw [List.cons_append, List.cons_append, List.cons.injEq] at hmore
  exact h hmore.1.symm (by rw [← hmore.2]; rfl)

theorem gap?_eq_none (hgap : isGapChar c = false)
    (hcomment : c = '/' → ∀ d ∈ rest.head?, d ≠ '/' ∧ d ≠ '*') : gap? (c :: rest) = none := by
  have hline : startsWith "//" (c :: rest) = false :=
    startsWith_comment (List.prefix_refl _) fun hc hd => (hcomment hc '/' hd).1 rfl
  have hblock : ∀ start : String, ['/', '*'] <+: start.toList → startsWith start (c :: rest) = false :=
    fun start hstart => startsWith_comment hstart fun hc hd => (hcomment hc '*' hd).2 rfl
  rw [gap?, isPlainLineComment, isPlainBlockComment, hline, hblock "/*" (by decide),
    hblock "/**/" (by decide)]
  simp [hgap]

theorem docComment?_eq_none (hcomment : c = '/' → ∀ d ∈ rest.head?, d ≠ '/' ∧ d ≠ '*') :
    docComment? (c :: rest) = none := by
  have hline : ∀ start : String, ['/', '/'] <+: start.toList → startsWith start (c :: rest) = false :=
    fun start hstart => startsWith_comment hstart fun hc hd => (hcomment hc '/' hd).1 rfl
  have hblock : ∀ start : String, ['/', '*'] <+: start.toList → startsWith start (c :: rest) = false :=
    fun start hstart => startsWith_comment hstart fun hc hd => (hcomment hc '*' hd).2 rfl
  rw [docComment?, hline "//!" (by decide), hline "///" (by decide), hblock "/*!" (by decide),
    hblock "/**" (by decide)]
  rfl

theorem lexeme?_eq_leaf? (hgap : isGapChar c = false) (hbracket : c ∉ "()[]\x7b\x7d".toList)
    (hcomment : c = '/' → ∀ d ∈ rest.head?, d ≠ '/' ∧ d ≠ '*') :
    lexeme? (c :: rest) =
      (leaf? (c :: rest)).map fun (tree, behind) => (.leaves [tree], behind) := by
  have hopens : ∀ d ∈ "()[]\x7b\x7d".toList, ∀ behind, c :: rest ≠ d :: behind :=
    fun d hd behind he => hbracket ((List.cons.inj he).1 ▸ hd)
  rw [lexeme?, gap?_eq_none hgap hcomment, docComment?_eq_none hcomment]
  · cases leaf? (c :: rest) <;> rfl
  all_goals exact hopens _ (by decide)

theorem lexeme?_of_isPathChar (h : isPathChar c = true) (rest : List Char) :
    lexeme? (c :: rest) =
      (leaf? (c :: rest)).map fun (tree, behind) => (.leaves [tree], behind) := by
  have hchars : "()[]\x7b\x7d/".toList.all (!isPathChar ·) = true := by decide
  have hc : ∀ d ∈ "()[]\x7b\x7d/".toList, c ≠ d := by
    rintro d hd rfl
    have hopen := List.all_eq_true.mp hchars c hd
    rw [h] at hopen
    cases hopen
  exact lexeme?_eq_leaf? (isGapChar_of_isPathChar h)
    (fun hmem => hc c (List.mem_append_left ['/'] hmem) rfl)
    fun hslash => absurd hslash (hc '/' (by decide))

theorem begins_of_rawEnd? {kind : QuoteKind} (h : rawEnd? kind text = some behind) :
    ∃ more, text = '"' :: more ∨ text = '#' :: '"' :: more ∨ text = '#' :: '#' :: more := by
  unfold rawEnd? at h
  dsimp only at h
  split at h
  next more hmore =>
    cases text with
    | nil => cases hmore
    | cons c rest =>
        by_cases hc : c = '#'
        · subst hc
          cases rest with
          | nil => cases hmore
          | cons d rest =>
              by_cases hd : d = '#'
              · exact ⟨rest, .inr (.inr (by rw [hd]))⟩
              · simp only [List.takeWhile_cons, beq_self_eq_true, if_true, beq_iff_eq, hd, if_false,
                  List.length_singleton, List.drop_one, List.tail_cons, List.cons.injEq] at hmore
                exact ⟨rest, .inr (.inl (by rw [hmore.1]))⟩
        · simp only [List.takeWhile_cons, beq_iff_eq, hc, if_false, List.length_nil, List.drop_zero,
            List.cons.injEq] at hmore
          exact ⟨rest, .inl (by rw [hmore.1])⟩
  next => cases h

theorem isAsciiDigit_of_starts (h : startsIdentifier c = true) : isAsciiDigit c = false := by
  rw [Bool.eq_false_iff]
  intro hdigit
  simp only [isAsciiDigit, Bool.and_eq_true, decide_eq_true_eq] at hdigit
  have hascii : isAscii c = true := by
    rw [isAscii, decide_eq_true_eq]
    omega
  rw [startsIdentifier, if_pos hascii, isAsciiLetter, isAsciiLower, isAsciiUpper] at h
  simp only [Bool.or_eq_true, Bool.and_eq_true, decide_eq_true_eq, beq_iff_eq] at h
  rcases h with h | rfl
  · omega
  · exact absurd hdigit (by decide)

theorem floatEnd?_eq_none (h : startsIdentifier c = true) (rest : List Char) :
    floatEnd? (c :: rest) = none := by
  have hbody : floatBodyEnd? (c :: rest) = none := by
    rw [floatBodyEnd?, isAsciiDigit_of_starts h, if_neg Bool.false_ne_true]
  rw [floatEnd?, hbody]
  rfl

theorem integerEnd?_eq_none (h : startsIdentifier c = true) (rest : List Char) :
    integerEnd? (c :: rest) = none := by
  have hdigit := isAsciiDigit_of_starts h
  have hzero : c ≠ '0' := by
    rintro rfl
    cases hdigit
  have hbase : (isHexDigit c && decide (hexValue c < 10)) = false := by
    rw [Bool.and_eq_false_imp, isHexDigit, hexValue, hdigit]
    intro hletter
    simp only [Bool.false_or, Bool.or_eq_true, Bool.and_eq_true, decide_eq_true_eq] at hletter
    simp only [Bool.false_eq_true, if_false, decide_eq_false_iff_not]
    split <;> omega
  have hbody : integerBodyEnd? (c :: rest) = none := by
    rw [integerBodyEnd?, digitsEnd?, hdigit, hbase]
    · simp
    all_goals exact fun _ he => hzero (List.cons.inj he).1
  rw [integerEnd?, hbody]
  rfl

def BeginsLiteral (text : List Char) : Prop := ∃ start ∈ literalStarts, startsWith start text = true

theorem begins_of_stringEnd? (hstart : startsIdentifier c = true)
    (h : stringEnd? (c :: rest) = some behind) : BeginsLiteral (c :: rest) := by
  unfold stringEnd? at h
  split at h
  next he =>
    cases he
    exact absurd hstart (by decide)
  next he =>
    cases he
    obtain ⟨more, rfl | rfl | rfl⟩ := begins_of_rawEnd? h
    · exact ⟨"r\"", by decide, rfl⟩
    · exact ⟨"r#\"", by decide, rfl⟩
    · exact ⟨"r##", by decide, rfl⟩
  next => cases h

theorem begins_of_byteStringEnd? (h : byteStringEnd? text = some behind) : BeginsLiteral text := by
  unfold byteStringEnd? at h
  split at h
  next => exact ⟨"b\"", by decide, rfl⟩
  next =>
    obtain ⟨more, rfl | rfl | rfl⟩ := begins_of_rawEnd? h
    · exact ⟨"br\"", by decide, rfl⟩
    · exact ⟨"br#", by decide, rfl⟩
    · exact ⟨"br#", by decide, rfl⟩
  next => cases h

theorem begins_of_terminatedStringEnd? (h : terminatedStringEnd? text = some behind) :
    BeginsLiteral text := by
  unfold terminatedStringEnd? at h
  split at h
  next => exact ⟨"c\"", by decide, rfl⟩
  next =>
    obtain ⟨more, rfl | rfl | rfl⟩ := begins_of_rawEnd? h
    · exact ⟨"cr\"", by decide, rfl⟩
    · exact ⟨"cr#", by decide, rfl⟩
    · exact ⟨"cr#", by decide, rfl⟩
  next => cases h

theorem begins_of_byteEnd? (h : byteEnd? text = some behind) : BeginsLiteral text := by
  unfold byteEnd? at h
  split at h
  next => exact ⟨"b'", by decide, rfl⟩
  next => exact ⟨"b'", by decide, rfl⟩
  next => cases h

theorem characterEnd?_eq_none (hstart : startsIdentifier c = true) (rest : List Char) :
    characterEnd? (c :: rest) = none := by
  unfold characterEnd?
  split
  next he =>
    cases he
    exact absurd hstart (by decide)
  next he =>
    cases he
    exact absurd hstart (by decide)
  next => rfl

theorem literalEnd?_eq_none (hstart : startsIdentifier c = true)
    (h : literalStarts.any (startsWith · (c :: rest)) = false) : literalEnd? (c :: rest) = none := by
  have hbegins : ¬BeginsLiteral (c :: rest) := by
    rintro ⟨start, hmem, hbegins⟩
    exact List.any_eq_false.mp h start hmem hbegins
  have hnone : ∀ scanner : Scanner, (∀ behind, scanner (c :: rest) = some behind →
      BeginsLiteral (c :: rest)) → scanner (c :: rest) = none :=
    fun scanner hscanner => Option.eq_none_iff_forall_ne_some.mpr
      fun behind hend => hbegins (hscanner behind hend)
  rw [literalEnd?, hnone stringEnd? fun _ => begins_of_stringEnd? hstart,
    hnone byteStringEnd? fun _ => begins_of_byteStringEnd?,
    hnone terminatedStringEnd? fun _ => begins_of_terminatedStringEnd?,
    hnone byteEnd? fun _ => begins_of_byteEnd?, characterEnd?_eq_none hstart,
    floatEnd?_eq_none hstart, integerEnd?_eq_none hstart]
  rfl

theorem punctEnd?_eq_none (hstart : startsIdentifier c = true) (rest : List Char) :
    punctEnd? (c :: rest) = none := by
  have hc : c ∉ punctuation := not_mem_punctuation (isWordChar_of_starts hstart)
  rw [punctEnd?]
  simp [hc]

theorem leaf?_of_ident? (h : ident? text = some (name, behind)) :
    leaf? text = some (.ident name, behind) := by
  obtain ⟨hliteral, hany⟩ := ident?_eq_some.mp h
  obtain ⟨hspells, htext⟩ := anyIdent?_spells hany
  obtain ⟨c, more, hname, hstart⟩ := hspells.head
  rw [hname, List.cons_append] at htext
  subst htext
  have hpunct : punct? (c :: (more ++ behind)) = none := by
    rw [punct?, punctEnd?_eq_none hstart]
    rfl
  rw [leaf?, literalEnd?_eq_none hstart hliteral, hpunct, h]

theorem ident?_of_leaf? (h : leaf? text = some (.ident name, behind)) :
    ident? text = some (name, behind) := by
  rw [leaf?] at h
  split at h
  next => cases h
  next =>
    split at h
    next found hfound =>
      cases h
      simp only [punct?, Option.bind_eq_bind, Option.bind_eq_some_iff] at hfound
      obtain ⟨⟨c, rest⟩, -, hfound⟩ := hfound
      split at hfound
      next =>
        obtain ⟨_, -, hfound⟩ := Option.bind_eq_some_iff.mp hfound
        cases hfound
      next => cases hfound
    next =>
      split at h
      next found rest hfound =>
        cases h
        exact hfound
      next =>
        split at h <;> cases h

theorem lexeme?_of_ident? (h : ident? text = some (name, behind)) :
    lexeme? text = some (.leaves [.ident name], behind) := by
  obtain ⟨hident, rfl⟩ := isIdent_of_ident? h
  obtain ⟨c, more, hname, -⟩ := hident.spells.head
  have hleaf := leaf?_of_ident? h
  rw [hname, List.cons_append] at hleaf ⊢
  rw [lexeme?_of_isPathChar (hident.spells.chars c (by rw [hname]; exact List.mem_cons_self)).1,
    hleaf]
  rfl

theorem lexeme?_colon (behind : List Char) : lexeme? (':' :: behind) =
    some (.leaves [.punct ':' (punctEnd? behind).isSome], behind) := by
  rw [lexeme?_of_isPathChar (by decide)]
  rfl

end Lexemes

end Lexer

end TypedLogging.Source
