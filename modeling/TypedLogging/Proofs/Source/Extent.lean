import TypedLogging.Proofs.Source.Identifiers

namespace TypedLogging.Source.Lexer

open Text

/-- The characters that may stand right behind a printed token. -/
def stops : List Char := " \n)]".toList

def Stops (behind : List Char) : Prop := ∀ c ∈ behind.head?, c ∈ stops

/-- The scanner takes the token, whatever it stands before. -/
def Takes (scan : Scanner) (token : List Char) : Prop :=
  ∀ ⦃behind⦄, Stops behind → scan (token ++ behind) = some behind

def IsLocal (scan : Scanner) : Prop :=
  ∀ ⦃text rest⦄, scan text = some rest → ∃ token, text = token ++ rest ∧ Takes scan token

section Ranges

/-- Whether the range lies in one of the others, and the next ranges in that one or behind it. -/
def isWithin (range : Nat × Nat) (next : List (Nat × Nat) → Bool) : List (Nat × Nat) → Bool
  | [] => false
  | other :: rest =>
    if range.2 ≤ other.2 then other.1 ≤ range.1 && next (other :: rest) else isWithin range next rest

/-- Whether every range lies in one of the others; both lists are in order. -/
def areWithin : List (Nat × Nat) → List (Nat × Nat) → Bool
  | [] => fun _ => true
  | range :: rest => isWithin range (areWithin rest)

variable {n : Nat} {ranges others : List (Nat × Nat)}

theorem isWithin_sound {range : Nat × Nat} {next : List (Nat × Nat) → Bool}
    (h : isWithin range next others = true) :
    (∃ other ∈ others, other.1 ≤ range.1 ∧ range.2 ≤ other.2) ∧
      ∃ rest, rest <:+ others ∧ next rest = true := by
  induction others with
  | nil => cases h
  | cons other rest ih =>
      rw [isWithin] at h
      split at h
      next hlast =>
        rw [Bool.and_eq_true, decide_eq_true_eq] at h
        exact ⟨⟨other, List.mem_cons_self, h.1, hlast⟩, other :: rest, List.suffix_refl _, h.2⟩
      next =>
        obtain ⟨⟨found, hfound, hrange⟩, more, hmore, hnext⟩ := ih h
        exact ⟨⟨found, List.mem_cons_of_mem other hfound, hrange⟩, more,
          hmore.trans (List.suffix_cons other rest), hnext⟩

theorem inRanges_of_areWithin (h : areWithin ranges others = true) (hn : inRanges ranges n = true) :
    inRanges others n = true := by
  induction ranges generalizing others with
  | nil => cases hn
  | cons range rest ih =>
      obtain ⟨⟨other, hother, hfirst, hlast⟩, more, hmore, hnext⟩ := isWithin_sound h
      rw [inRanges, List.any_cons, Bool.or_eq_true] at hn
      rw [inRanges, List.any_eq_true]
      rcases hn with hn | hn
      · refine ⟨other, hother, ?_⟩
        simp only [Bool.and_eq_true, decide_eq_true_eq] at hn ⊢
        omega
      · obtain ⟨found, hfound, hrange⟩ := List.any_eq_true.mp (ih hnext hn)
        exact ⟨found, hmore.subset hfound, hrange⟩

theorem continues_of_starts {c : Char} (h : startsIdentifier c = true) :
    continuesIdentifier c = true := by
  have hwithin : areWithin identifierStartRanges identifierContinueRanges = true := by decide +kernel
  rw [startsIdentifier] at h
  rw [continuesIdentifier]
  split at h
  next hascii =>
    rw [Bool.or_eq_true] at h
    rw [if_pos hascii, isAsciiAlphanumeric]
    rcases h with h | h <;> simp [h]
  next hascii =>
    rw [if_neg hascii]
    exact inRanges_of_areWithin hwithin h

end Ranges

section Suffixes

variable {c : Char} {token text rest behind : List Char}

theorem stops_nil : Stops [] := by
  intro c hc
  cases hc

theorem stops_cons : Stops (c :: text) ↔ c ∈ stops := by simp [Stops]

theorem Stops.stopsWord (h : Stops behind) : StopsWord behind := by
  have hstops : ∀ c ∈ stops, continuesIdentifier c = false := by decide
  exact fun c hc => hstops c (h c hc)

theorem Stops.stopsIdent (h : Stops behind) : StopsIdent behind := by
  have hstops : ∀ c ∈ stops, continuesIdentifier c = false ∧ c ∉ "#\"'".toList := by decide
  exact fun c hc => hstops c (h c hc)

theorem StopsWord.skipSuffix (h : StopsWord behind) : skipSuffix behind = behind := by
  cases behind with
  | nil => rfl
  | cons c rest =>
      have hstart : ¬startsIdentifier c = true := by
        intro hstart
        have hc := h c rfl
        rw [continues_of_starts hstart] at hc
        cases hc
      rw [Lexer.skipSuffix, identEnd?, if_neg hstart, Option.getD_none]

theorem skipSuffix_append {word : List Char} (hword : IsWord word) (hrest : StopsWord rest) :
    skipSuffix (word ++ rest) = rest := by
  rw [skipSuffix, identEnd?_eq_some.mpr ⟨word, hword, hrest, rfl⟩, Option.getD_some]

theorem exists_suffix (text : List Char) :
    ∃ suffix, text = suffix ++ skipSuffix text ∧ (suffix = [] ∨ IsWord suffix) ∧
      ∀ ⦃behind⦄, Stops behind → skipSuffix (suffix ++ behind) = behind := by
  cases hend : identEnd? text with
  | none =>
      exact ⟨[], by simp [skipSuffix, hend], .inl rfl, fun behind h => h.stopsWord.skipSuffix⟩
  | some rest =>
      obtain ⟨word, hword, -, rfl⟩ := identEnd?_eq_some.mp hend
      exact ⟨word, by simp [skipSuffix, hend], .inr hword,
        fun behind h => skipSuffix_append hword h.stopsWord⟩

end Suffixes

section Quoted

variable {kind : QuoteKind} {text rest marks : List Char} {count value fuel : Nat}

theorem unicodeDigits?_local {result : Nat} (h : unicodeDigits? count value text = some (result, rest)) :
    ∃ token, text = token ++ rest ∧
      ∀ behind, unicodeDigits? count value (token ++ behind) = some (result, behind) := by
  fun_induction unicodeDigits? count value text with
  | case1 | case2 | case6 => cases h
  | case3 count value c digits hhex hcount ih =>
      obtain ⟨token, rfl, htoken⟩ := ih h
      refine ⟨c :: token, rfl, fun behind => ?_⟩
      rw [List.cons_append, unicodeDigits?, if_pos hhex, if_neg hcount, htoken]
  | case4 count value c digits hhex hmark ih =>
      obtain ⟨token, rfl, htoken⟩ := ih h
      refine ⟨c :: token, rfl, fun behind => ?_⟩
      rw [List.cons_append, unicodeDigits?, if_neg hhex, if_pos hmark, htoken]
  | case5 count value c digits hhex hmark hclose =>
      cases h
      refine ⟨[c], rfl, fun behind => ?_⟩
      rw [List.singleton_append, unicodeDigits?, if_neg hhex, if_neg hmark, if_pos hclose]

theorem escapeEnd?_local (h : escapeEnd? kind text = some rest) :
    ∃ token, text = token ++ rest ∧ ∀ behind, escapeEnd? kind (token ++ behind) = some behind := by
  unfold escapeEnd? at h
  split at h
  next high low more =>
    split at h
    next hhex =>
      cases h
      exact ⟨['x', high, low], rfl, fun behind => if_pos hhex⟩
    next => cases h
  next more =>
    simp only [Option.bind_eq_bind, Option.bind_eq_some_iff] at h
    obtain ⟨⟨value, _⟩, hdigits, _, hguard, hpure⟩ := h
    cases hpure
    obtain ⟨token, rfl, htoken⟩ := unicodeDigits?_local hdigits
    refine ⟨'u' :: '\x7b' :: token, rfl, fun behind => ?_⟩
    simp only [List.cons_append, escapeEnd?, htoken, Option.bind_eq_bind, Option.bind_some, hguard]
    rfl
  next more =>
    split at h
    next => cases h
    next hkind =>
      cases h
      exact ⟨['0'], rfl, fun behind => if_neg hkind⟩
  all_goals try cases h
  all_goals exact ⟨[_], rfl, fun behind => rfl⟩

/-- Behind an escaped line break stands what ends the blanks, which is what they end before. -/
theorem lineGapEnd?_local (h : lineGapEnd? text = some rest) :
    ∃ gap, text = gap ++ rest ∧
      ∀ more, more.head? = rest.head? → lineGapEnd? (gap ++ more) = some more := by
  fun_induction lineGapEnd? text with
  | case1 | case3 => cases h
  | case2 text ih =>
      obtain ⟨gap, rfl, hgap⟩ := ih h
      exact ⟨'\r' :: '\n' :: gap, rfl, hgap⟩
  | case4 text ih | case5 text ih | case6 text ih =>
      obtain ⟨gap, rfl, hgap⟩ := ih h
      exact ⟨_ :: gap, rfl, hgap⟩
  | case7 text hnil hbreak hreturn hspace htab hfeed =>
      cases h
      obtain ⟨c, more, rfl⟩ := List.exists_cons_of_ne_nil hnil
      refine ⟨[], rfl, fun other hother => ?_⟩
      obtain ⟨further, rfl⟩ : ∃ further, other = c :: further := List.head?_eq_some_iff.mp hother
      rw [List.nil_append, lineGapEnd?]
      all_goals simp_all

/-- Behind an opening quote the token runs to the closing one and its suffix. -/
def TakesQuote (kind : QuoteKind) (token : List Char) : Prop :=
  token ≠ [] ∧ ∀ ⦃behind⦄, Stops behind → ∀ ⦃fuel⦄, token.length ≤ fuel →
    quoteEnd? kind fuel (token ++ behind) = some behind

theorem TakesQuote.step {token : List Char} (h : TakesQuote kind token) {front : List Char} (hfront : front ≠ [])
    (hstep : ∀ fuel behind, quoteEnd? kind (fuel + 1) (front ++ (token ++ behind)) =
      quoteEnd? kind fuel (token ++ behind)) : TakesQuote kind (front ++ token) := by
  refine ⟨by simp [hfront], fun behind hstops fuel hfuel => ?_⟩
  have hlength := List.length_pos_iff.mpr hfront
  rw [List.length_append] at hfuel
  obtain ⟨left, rfl⟩ : ∃ left, fuel = left + 1 := ⟨fuel - 1, by omega⟩
  rw [List.append_assoc, hstep, h.2 hstops (by omega)]

theorem exists_gap {c : Char} (hc : c = '\n' ∨ c = '\r')
    (h : lineGapEnd? (c :: text) >>= quoteEnd? kind fuel = some rest)
    (ih : ∀ ⦃text⦄, quoteEnd? kind fuel text = some rest →
      ∃ token, text = token ++ rest ∧ TakesQuote kind token) :
    ∃ token, '\\' :: c :: text = token ++ rest ∧ TakesQuote kind token := by
  obtain ⟨between, hgap, hend⟩ := Option.bind_eq_some_iff.mp h
  obtain ⟨gap, htext, hgap⟩ := lineGapEnd?_local hgap
  obtain ⟨token, rfl, htoken⟩ := ih hend
  refine ⟨'\\' :: gap ++ token, by rw [htext, List.append_assoc, List.cons_append], ?_⟩
  refine htoken.step (by simp) fun fuel behind => ?_
  obtain ⟨d, more, rfl⟩ := List.exists_cons_of_ne_nil htoken.1
  have hgap := hgap (d :: more ++ behind) (by simp)
  obtain ⟨further, hfurther⟩ : ∃ further, gap ++ (d :: more ++ behind) = c :: further := by
    cases gap with
    | nil => exact ⟨more ++ behind, by rw [(List.cons.inj htext).1]; rfl⟩
    | cons e gap => exact ⟨gap ++ (d :: more ++ behind), by rw [(List.cons.inj htext).1]; rfl⟩
  rw [hfurther] at hgap
  rw [List.cons_append, hfurther]
  rcases hc with rfl | rfl <;> rw [quoteEnd?, hgap] <;> rfl

theorem quoteEnd?_local (h : quoteEnd? kind fuel text = some rest) :
    ∃ token, text = token ++ rest ∧ TakesQuote kind token := by
  induction fuel generalizing text rest with
  | zero => cases h
  | succ fuel ih =>
      unfold quoteEnd? at h
      split at h
      next => cases h
      next text =>
        cases h
        obtain ⟨suffix, htext, -, hsuffix⟩ := exists_suffix text
        refine ⟨'"' :: suffix, by rw [List.cons_append, ← htext], by simp, ?_⟩
        intro behind hstops more hmore
        obtain ⟨more, rfl⟩ : ∃ left, more = left + 1 := ⟨more - 1, by simp at hmore; omega⟩
        rw [List.cons_append, quoteEnd?, hsuffix hstops]
      next text =>
        obtain ⟨token, rfl, htoken⟩ := ih h
        exact ⟨['\r', '\n'] ++ token, rfl, htoken.step (by simp) fun _ _ => rfl⟩
      next => cases h
      next => exact exists_gap (.inl rfl) h fun _ => ih
      next => exact exists_gap (.inr rfl) h fun _ => ih
      next text hfeed hreturn =>
        obtain ⟨between, hbehind, hend⟩ := Option.bind_eq_some_iff.mp h
        obtain ⟨escape, rfl, hescape⟩ := escapeEnd?_local hbehind
        obtain ⟨token, rfl, htoken⟩ := ih hend
        refine ⟨'\\' :: escape ++ token, by simp, htoken.step (by simp) fun fuel behind => ?_⟩
        cases escape with
        | nil => cases hescape []
        | cons c escape =>
            rw [List.cons_append, List.cons_append, quoteEnd?, ← List.cons_append, hescape]
            · rfl
            all_goals simp_all
      next c text hquote hbreak hreturn hslash hfeed hother =>
        split at h
        next hallow =>
          obtain ⟨token, rfl, htoken⟩ := ih h
          refine ⟨[c] ++ token, rfl, htoken.step (by simp) fun fuel behind => ?_⟩
          rw [List.singleton_append, quoteEnd?, if_pos hallow]
          all_goals simp_all
        next => cases h

theorem quotedEnd?_local (kind : QuoteKind) : IsLocal (quotedEnd? kind) := by
  intro text rest h
  obtain ⟨token, rfl, -, htoken⟩ := quoteEnd?_local h
  exact ⟨token, rfl, fun behind hstops => htoken hstops (by simp; omega)⟩

theorem rawBodyEnd?_local (h : rawBodyEnd? kind marks text = some rest) :
    ∃ token, text = token ++ rest ∧ marks.length < token.length ∧
      Takes (rawBodyEnd? kind marks) token := by
  fun_induction rawBodyEnd? kind marks text with
  | case1 | case5 | case7 => cases h
  | case2 text hmarks =>
      cases h
      obtain ⟨more, rfl⟩ := List.isPrefixOf_iff_prefix.mp hmarks
      obtain ⟨suffix, htext, -, hsuffix⟩ := exists_suffix more
      rw [List.drop_left]
      refine ⟨'"' :: marks ++ suffix, ?_, ?_, fun behind hstops => ?_⟩
      · rw [List.append_assoc, ← htext, List.cons_append]
      · rw [List.length_append, List.length_cons]
        omega
      · have hbegins : marks.isPrefixOf (marks ++ (suffix ++ behind)) = true :=
          List.isPrefixOf_iff_prefix.mpr (List.prefix_append _ _)
        rw [List.append_assoc, List.cons_append, rawBodyEnd?, if_pos hbegins, List.drop_left,
          hsuffix hstops]
  | case3 text hmarks ih =>
      obtain ⟨token, rfl, hlength, htoken⟩ := ih h
      refine ⟨'"' :: token, rfl, by simp; omega, fun behind hstops => ?_⟩
      have hbegins : ¬marks.isPrefixOf (token ++ behind) = true := by
        intro hmore
        rw [List.isPrefixOf_iff_prefix] at hmarks hmore
        exact hmarks ((List.prefix_of_prefix_length_le hmore (List.prefix_append token behind)
          hlength.le).trans (List.prefix_append token rest))
      rw [List.cons_append, rawBodyEnd?, if_neg hbegins, htoken hstops]
  | case4 text ih =>
      obtain ⟨token, rfl, hlength, htoken⟩ := ih h
      exact ⟨'\r' :: '\n' :: token, rfl, by simp; omega, fun behind hstops => htoken hstops⟩
  | case6 c text hquote hbreak hreturn hallow ih =>
      obtain ⟨token, rfl, hlength, htoken⟩ := ih h
      refine ⟨c :: token, rfl, by simp; omega, fun behind hstops => ?_⟩
      rw [List.cons_append, rawBodyEnd?, if_pos hallow, htoken hstops]
      all_goals simp_all

theorem takeWhile_marks (hmarks : ∀ c ∈ marks, c = '#') (text : List Char) :
    (marks ++ '"' :: text).takeWhile (· == '#') = marks := by
  rw [List.takeWhile_append_of_pos (by simpa using hmarks), List.takeWhile_cons_of_neg (by decide),
    List.append_nil]

theorem rawEnd?_eq (hmarks : ∀ c ∈ marks, c = '#') (text : List Char) :
    rawEnd? kind (marks ++ '"' :: text) =
      if 255 < marks.length then none else rawBodyEnd? kind marks text := by
  rw [rawEnd?, takeWhile_marks hmarks, List.drop_left]
  rfl

theorem exists_marks (h : rawEnd? kind text = some rest) :
    ∃ marks more, text = marks ++ '"' :: more ∧ ∀ c ∈ marks, c = '#' := by
  obtain ⟨more, htext⟩ := List.takeWhile_prefix (· == '#') (l := text)
  have hmarks : ∀ c ∈ text.takeWhile (· == '#'), c = '#' := fun c hc => by
    simpa using List.mem_takeWhile_imp hc
  unfold rawEnd? at h
  generalize text.takeWhile (· == '#') = marks at *
  subst htext
  dsimp only at h
  rw [List.drop_left] at h
  split at h
  next more => exact ⟨marks, more, rfl, hmarks⟩
  next => cases h

theorem rawEnd?_local (kind : QuoteKind) : IsLocal (rawEnd? kind) := by
  intro text rest h
  obtain ⟨marks, more, rfl, hmarks⟩ := exists_marks h
  rw [rawEnd?_eq hmarks] at h
  split at h
  next => cases h
  next hlength =>
    obtain ⟨token, rfl, -, htoken⟩ := rawBodyEnd?_local h
    refine ⟨marks ++ '"' :: token, by simp, fun behind hstops => ?_⟩
    rw [List.append_assoc, List.cons_append, rawEnd?_eq hmarks, if_neg hlength, htoken hstops]

theorem closeQuote?_local : IsLocal closeQuote? := by
  intro text rest h
  unfold closeQuote? at h
  split at h
  next text =>
    cases h
    obtain ⟨suffix, htext, -, hsuffix⟩ := exists_suffix text
    refine ⟨'\'' :: suffix, by rw [List.cons_append, ← htext], fun behind hstops => ?_⟩
    rw [List.cons_append, closeQuote?, hsuffix hstops]
  next => cases h

theorem escaped_local (kind : QuoteKind) : IsLocal (escapeEnd? kind · >>= closeQuote?) := by
  intro text rest h
  obtain ⟨between, hbetween, hclose⟩ := Option.bind_eq_some_iff.mp h
  obtain ⟨escape, rfl, hescape⟩ := escapeEnd?_local hbetween
  obtain ⟨token, rfl, htoken⟩ := closeQuote?_local hclose
  refine ⟨escape ++ token, by simp, fun behind hstops => ?_⟩
  dsimp only
  rw [List.append_assoc, hescape, Option.bind_eq_bind, Option.bind_some, htoken hstops]

/-- How a literal in quotes begins, and what finds its end. -/
inductive Opens : List Char → Scanner → Prop
  | text : Opens ['"'] (quotedEnd? .text)
  | raw : Opens ['r'] (rawEnd? .text)
  | bytes : Opens ['b', '"'] (quotedEnd? .bytes)
  | rawBytes : Opens ['b', 'r'] (rawEnd? .bytes)
  | terminated : Opens ['c', '"'] (quotedEnd? .terminated)
  | rawTerminated : Opens ['c', 'r'] (rawEnd? .terminated)
  | escape : Opens ['\'', '\\'] (escapeEnd? .text · >>= closeQuote?)
  | escapedByte : Opens ['b', '\'', '\\'] (escapeEnd? .bytes · >>= closeQuote?)
  | character {c : Char} (h : c ≠ '\\') : Opens ['\'', c] closeQuote?
  | byte {c : Char} (h : c ≠ '\\') (hascii : isAscii c = true) : Opens ['b', '\'', c] closeQuote?

theorem Opens.isLocal {front : List Char} {scan : Scanner} (h : Opens front scan) : IsLocal scan := by
  cases h with
  | text | bytes | terminated => exact quotedEnd?_local _
  | raw | rawBytes | rawTerminated => exact rawEnd?_local _
  | escape | escapedByte => exact escaped_local _
  | character | byte => exact closeQuote?_local

theorem Opens.literalEnd? {front : List Char} {scan : Scanner} (h : Opens front scan)
    (text : List Char) : literalEnd? (front ++ text) = scan text := by
  cases h <;> simp_all [Lexer.literalEnd?, stringEnd?, byteStringEnd?, terminatedStringEnd?, byteEnd?,
    characterEnd?, floatEnd?, floatBodyEnd?, integerEnd?, integerBodyEnd?, digitsEnd?, isAsciiDigit,
    isHexDigit, hexValue]

theorem exists_opens (h : literalEnd? text = some rest) :
    (∃ front scan more, Opens front scan ∧ text = front ++ more ∧ scan more = some rest) ∨
      floatEnd? text = some rest ∨ floatEnd? text = none ∧ integerEnd? text = some rest := by
  simp only [literalEnd?, Option.orElse_eq_orElse, Option.orElse_eq_or, Option.or_eq_some_iff] at h
  rcases h with h | ⟨-, h | ⟨-, h | ⟨-, h | ⟨-, h | ⟨-, h⟩⟩⟩⟩⟩
  · unfold stringEnd? at h
    split at h
    next => exact .inl ⟨_, _, _, .text, rfl, h⟩
    next => exact .inl ⟨_, _, _, .raw, rfl, h⟩
    next => cases h
  · unfold byteStringEnd? at h
    split at h
    next => exact .inl ⟨_, _, _, .bytes, rfl, h⟩
    next => exact .inl ⟨_, _, _, .rawBytes, rfl, h⟩
    next => cases h
  · unfold terminatedStringEnd? at h
    split at h
    next => exact .inl ⟨_, _, _, .terminated, rfl, h⟩
    next => exact .inl ⟨_, _, _, .rawTerminated, rfl, h⟩
    next => cases h
  · unfold byteEnd? at h
    split at h
    next => exact .inl ⟨_, _, _, .escapedByte, rfl, h⟩
    next c more hslash =>
      split at h
      next hascii =>
        exact .inl ⟨_, _, more, .byte hslash hascii, rfl, h⟩
      next => cases h
    next => cases h
  · unfold characterEnd? at h
    split at h
    next => exact .inl ⟨_, _, _, .escape, rfl, h⟩
    next c more hslash =>
      exact .inl ⟨_, _, more, .character hslash, rfl, h⟩
    next => cases h
  · exact .inr h

end Quoted

section Numbers

variable {c : Char} {base : Nat} {dotted signed valued empty : Bool} {scan : FloatScan}
  {text token rest more behind body : List Char}

/-- `more` begins as `rest` does or with what stops a token. -/
def Follows (rest more : List Char) : Prop := more.head? = rest.head? ∨ Stops more

theorem stops_isNumberChar : ∀ c ∈ stops, isAsciiDigit c = false ∧ c ≠ '_' ∧ c ≠ '.' ∧ c ≠ 'e' ∧
    c ≠ 'E' ∧ c ≠ '+' ∧ c ≠ '-' ∧ isHexDigit c = false ∧ startsIdentifier c = false := by decide

theorem Stops.floatDigits? (h : Stops behind) (dotted : Bool) :
    floatDigits? dotted behind = some ⟨dotted, false, behind⟩ := by
  cases behind with
  | nil => rfl
  | cons c rest =>
      have hc := stops_isNumberChar c (stops_cons.mp h)
      simp [Lexer.floatDigits?, hc]

theorem exponentEnd?_valued (h : ∀ c ∈ more.head?, isAsciiDigit c = false ∧ c ≠ '_') :
    exponentEnd? signed true more = some more := by
  cases more with
  | nil => rfl
  | cons c more =>
      have hc := h c rfl
      simp [exponentEnd?, hc]

theorem floatDigits?_dot (h : ∀ d ∈ text.head?, d ≠ '.' ∧ startsIdentifier d = false) :
    floatDigits? false ('.' :: text) = floatDigits? true text := by
  cases text with
  | nil => rfl
  | cons d text =>
      have hd := h d rfl
      rw [floatDigits?]
      simp [hd, isAsciiDigit]

theorem floatDigits?_local (h : floatDigits? dotted text = some scan) :
    ∃ token, text = token ++ scan.rest ∧
      (scan.exponent = true → ∃ front letter, token = front ++ [letter] ∧ (letter = 'e' ∨ letter = 'E')) ∧
      ∀ ⦃more⦄, (scan.exponent = false → Follows scan.rest more) →
        floatDigits? dotted (token ++ more) = some ⟨scan.dotted, scan.exponent, more⟩ := by
  fun_induction floatDigits? dotted text with
  | case1 dotted =>
      cases h
      refine ⟨[], rfl, nofun, fun more hmore => ?_⟩
      rcases hmore rfl with hsame | hstops
      · rw [List.head?_eq_none_iff.mp hsame]
        rfl
      · exact hstops.floatDigits? dotted
  | case2 dotted c text hdigit ih =>
      obtain ⟨token, rfl, hletter, htoken⟩ := ih h
      refine ⟨c :: token, rfl, fun hexponent => ?_, fun more hmore => ?_⟩
      · obtain ⟨front, letter, rfl, hends⟩ := hletter hexponent
        exact ⟨c :: front, letter, rfl, hends⟩
      · rw [List.cons_append, floatDigits?.eq_def]
        dsimp only
        rw [if_pos hdigit, htoken hmore]
  | case3 c text hdigit hdot =>
      cases h
      refine ⟨[], rfl, nofun, fun more hmore => ?_⟩
      rcases hmore rfl with hsame | hstops
      · obtain ⟨further, rfl⟩ := List.head?_eq_some_iff.mp hsame
        rw [List.nil_append, floatDigits?.eq_def]
        simp [hdigit, hdot]
      · exact hstops.floatDigits? true
  | case4 => cases h
  | case5 dotted c hdigit hdot hdotted d text hd ih =>
      obtain ⟨token, htext, hletter, htoken⟩ := ih h
      obtain rfl : c = '.' := eq_of_beq hdot
      obtain rfl : dotted = false := Bool.eq_false_iff.mpr hdotted
      refine ⟨'.' :: token, by rw [List.cons_append, htext], fun hexponent => ?_, fun more hmore => ?_⟩
      · obtain ⟨front, letter, rfl, hends⟩ := hletter hexponent
        exact ⟨'.' :: front, letter, rfl, hends⟩
      rw [List.cons_append, floatDigits?_dot, htoken hmore]
      intro e he
      have hsame : e = d → e ≠ '.' ∧ startsIdentifier e = false := by
        rintro rfl
        simpa using hd
      cases token with
      | cons e' token => exact hsame (by simp_all)
      | nil =>
          have hexponent : scan.exponent = false := by
            by_contra hexponent
            obtain ⟨front, letter, hnil, -⟩ := hletter (by simpa using hexponent)
            simp at hnil
          rcases hmore hexponent with hhead | hstops
          · rw [List.nil_append] at htext he
            rw [hhead, ← htext] at he
            exact hsame (Option.some.inj he).symm
          · have := stops_isNumberChar e (hstops e he)
            exact ⟨this.2.2.1, this.2.2.2.2.2.2.2.2⟩
  | case6 dotted c hdigit hdot hdotted =>
      cases h
      obtain rfl : c = '.' := eq_of_beq hdot
      obtain rfl : dotted = false := Bool.eq_false_iff.mpr hdotted
      refine ⟨['.'], rfl, nofun, fun more hmore => ?_⟩
      rcases hmore rfl with hsame | hstops
      · rw [List.head?_eq_none_iff.mp hsame]
        rfl
      · rw [List.singleton_append, floatDigits?_dot, hstops.floatDigits?]
        intro d hd
        have := stops_isNumberChar d (hstops d hd)
        exact ⟨this.2.2.1, this.2.2.2.2.2.2.2.2⟩
  | case7 dotted c text hdigit hdot hexp =>
      cases h
      refine ⟨[c], rfl, fun _ => ⟨[], c, rfl, by simpa using hexp⟩, fun more _ => ?_⟩
      rw [List.singleton_append, floatDigits?.eq_def]
      simp [hdigit, hdot, hexp]
  | case8 dotted c text hdigit hdot hexp =>
      cases h
      refine ⟨[], rfl, nofun, fun more hmore => ?_⟩
      rcases hmore rfl with hsame | hstops
      · obtain ⟨further, rfl⟩ := List.head?_eq_some_iff.mp hsame
        rw [List.nil_append, floatDigits?.eq_def]
        simp [hdigit, hdot, hexp]
      · exact hstops.floatDigits? dotted

theorem exponentEnd?_local (h : exponentEnd? signed valued text = some rest) :
    ∃ token, text = token ++ rest ∧
      ∀ ⦃more⦄, Follows rest more → exponentEnd? signed valued (token ++ more) = some more := by
  have hends : ∀ rest : List Char, (∀ c ∈ rest.head?, isAsciiDigit c = false ∧ c ≠ '_') →
      ∀ ⦃more⦄, Follows rest more → ∀ signed, exponentEnd? signed true more = some more := by
    intro rest hrest more hmore signed
    refine exponentEnd?_valued fun c hc => ?_
    rcases hmore with hsame | hstops
    · exact hrest c (hsame ▸ hc)
    · have := stops_isNumberChar c (hstops c hc)
      exact ⟨this.1, this.2.1⟩
  fun_induction exponentEnd? signed valued text with
  | case2 | case4 | case9 => cases h
  | case1 signed =>
      cases h
      exact ⟨[], rfl, fun more hmore => hends [] (by simp) hmore signed⟩
  | case3 signed c text hsign =>
      cases h
      have hc : isAsciiDigit c = false ∧ c ≠ '_' := by
        rcases (by simpa using hsign : c = '+' ∨ c = '-') with rfl | rfl <;> decide
      exact ⟨[], rfl, fun more hmore => hends (c :: text) (by simpa using hc) hmore signed⟩
  | case5 signed valued c text hsign hvalued hsigned ih =>
      obtain ⟨token, rfl, htoken⟩ := ih h
      refine ⟨c :: token, rfl, fun more hmore => ?_⟩
      rw [List.cons_append, exponentEnd?, if_pos hsign, if_neg hvalued, if_neg hsigned, htoken hmore]
  | case6 signed valued c text hsign hdigit ih =>
      obtain ⟨token, rfl, htoken⟩ := ih h
      refine ⟨c :: token, rfl, fun more hmore => ?_⟩
      rw [List.cons_append, exponentEnd?, if_neg hsign, if_pos hdigit, htoken hmore]
  | case7 signed valued c text hsign hdigit hmark ih =>
      obtain ⟨token, rfl, htoken⟩ := ih h
      refine ⟨c :: token, rfl, fun more hmore => ?_⟩
      rw [List.cons_append, exponentEnd?, if_neg hsign, if_neg hdigit, if_pos hmark, htoken hmore]
  | case8 signed c text hsign hdigit hmark =>
      cases h
      exact ⟨[], rfl, fun more hmore => hends (c :: text) (by simp_all) hmore signed⟩

theorem continues_of_hexDigit (h : isHexDigit c = true) : continuesIdentifier c = true := by
  simp only [isHexDigit, isAsciiDigit, Bool.or_eq_true, Bool.and_eq_true, decide_eq_true_eq] at h
  have hascii : isAscii c = true := by
    rw [isAscii, decide_eq_true_eq]
    omega
  rw [continuesIdentifier, if_pos hascii]
  simp only [isAsciiAlphanumeric, isAsciiLetter, isAsciiLower, isAsciiUpper, isAsciiDigit,
    Bool.or_eq_true, Bool.and_eq_true, decide_eq_true_eq]
  omega

theorem continues_of_digit (h : isAsciiDigit c = true) : continuesIdentifier c = true :=
  continues_of_hexDigit (by rw [isHexDigit, h]; rfl)

theorem isDigit_of_stopsWord (h : StopsWord rest) :
    ∀ c ∈ rest.head?, isAsciiDigit c = false ∧ c ≠ '_' := by
  intro c hc
  have hword := h c hc
  constructor
  · rw [Bool.eq_false_iff]
    intro hdigit
    rw [continues_of_digit hdigit] at hword
    cases hword
  · rintro rfl
    exact absurd hword (by decide)

theorem exponentEnd?_of_stops {word : List Char} (hword : ∀ d ∈ word, continuesIdentifier d = true)
    (hstops : Stops behind) (h : exponentEnd? signed valued (word ++ behind) = some more)
    (hrest : StopsWord rest) : ∃ tail, more = tail ++ behind ∧ tail <:+ word ∧
      exponentEnd? signed valued (word ++ rest) = some (tail ++ rest) := by
  induction word generalizing signed valued with
  | nil =>
      cases valued with
      | true =>
          rw [List.nil_append, exponentEnd?_valued (isDigit_of_stopsWord hstops.stopsWord)] at h
          cases h
          exact ⟨[], rfl, List.suffix_refl _, exponentEnd?_valued (isDigit_of_stopsWord hrest)⟩
      | false =>
          cases behind with
          | nil => cases h
          | cons c behind =>
              have hc := stops_isNumberChar c (stops_cons.mp hstops)
              simp [exponentEnd?, hc] at h
  | cons c word ih =>
      rw [List.forall_mem_cons] at hword
      have hsign : ¬(c == '+' || c == '-') = true := by
        intro hsign
        rcases (by simpa using hsign : c = '+' ∨ c = '-') with rfl | rfl <;>
          exact absurd hword.1 (by decide)
      rw [List.cons_append, exponentEnd?, if_neg hsign] at h ⊢
      split at h
      next hdigit =>
        obtain ⟨tail, rfl, htail, hend⟩ := ih hword.2 h
        exact ⟨tail, rfl, htail.trans (List.suffix_cons c word), by rw [if_pos hdigit, hend]⟩
      next hdigit =>
        split at h
        next hmark =>
          obtain ⟨tail, rfl, htail, hend⟩ := ih hword.2 h
          exact ⟨tail, rfl, htail.trans (List.suffix_cons c word), by
            rw [if_neg hdigit, if_pos hmark, hend]⟩
        next hmark =>
          split at h
          next hvalued =>
            cases h
            exact ⟨c :: word, rfl, List.suffix_refl _, by
              rw [if_neg hdigit, if_neg hmark, if_pos hvalued, List.cons_append]⟩
          next => cases h

theorem wordBreak?_eq_some : wordBreak? text = some rest ↔ text = rest ∧ StopsWord rest := by
  cases text with
  | nil =>
      rw [wordBreak?, Option.some.injEq]
      refine ⟨?_, fun h => h.1⟩
      rintro rfl
      exact ⟨rfl, nofun⟩
  | cons c text =>
      rw [wordBreak?]
      split
      next hc =>
        refine ⟨nofun, ?_⟩
        rintro ⟨rfl, hstops⟩
        rw [hstops c rfl] at hc
        cases hc
      next hc =>
        rw [Option.some.injEq]
        refine ⟨?_, fun h => h.1⟩
        rintro rfl
        exact ⟨rfl, fun d hd => by cases hd; simpa using hc⟩

theorem follows_suffix (suffix : List Char) (h : Stops behind) :
    Follows (suffix ++ rest) (suffix ++ behind) := by
  cases suffix with
  | nil => exact .inr h
  | cons c suffix => exact .inl rfl

theorem takes_number {scan : Scanner} {between : List Char}
    (h : wordBreak? (skipSuffix between) = some rest) (body : List Char) (htext : text = body ++ between)
    (hbody : ∀ ⦃suffix⦄, suffix = [] ∨ IsWord suffix → between = suffix ++ rest → StopsWord rest →
      ∀ ⦃behind⦄, Stops behind → scan (body ++ (suffix ++ behind)) = some (suffix ++ behind)) :
    ∃ token, text = token ++ rest ∧ Takes (fun text => do wordBreak? (skipSuffix (← scan text))) token := by
  obtain ⟨hskip, hrest⟩ := wordBreak?_eq_some.mp h
  obtain ⟨suffix, hsuffix, hword, hstops⟩ := exists_suffix between
  rw [hskip] at hsuffix
  refine ⟨body ++ suffix, by rw [List.append_assoc, ← hsuffix, htext], fun behind h => ?_⟩
  dsimp only
  rw [List.append_assoc, hbody hword hsuffix hrest h, Option.bind_eq_bind, Option.bind_some, hstops h,
    wordBreak?_eq_some.mpr ⟨rfl, h.stopsWord⟩]

theorem floatBodyEnd?_cons (hdigit : isAsciiDigit c = true) (h : floatDigits? false text = some scan) :
    floatBodyEnd? (c :: text) =
      if scan.exponent then
        match exponentEnd? false false scan.rest with
        | some behind => some behind
        | none =>
          if scan.dotted then some ((c :: text).drop ((c :: text).length - scan.rest.length - 1))
          else none
      else if scan.dotted then some scan.rest else none := by
  rw [floatBodyEnd?, if_pos hdigit]
  exact h ▸ rfl

theorem exists_digits (h : floatBodyEnd? text = some rest) :
    ∃ c more scan, text = c :: more ∧ isAsciiDigit c = true ∧ floatDigits? false more = some scan := by
  cases text with
  | nil => cases h
  | cons c text =>
      rw [floatBodyEnd?] at h
      split at h
      next hdigit =>
        cases hdigits : floatDigits? false text with
        | none =>
            rw [hdigits] at h
            cases h
        | some scan => exact ⟨c, text, scan, rfl, hdigit, hdigits⟩
      next => cases h

theorem floatBodyEnd?_letter {front : List Char} {letter : Char} (hdigit : isAsciiDigit c = true)
    (h : floatDigits? false (front ++ letter :: text) = some ⟨true, true, text⟩)
    (hnone : exponentEnd? false false text = none) :
    floatBodyEnd? (c :: front ++ letter :: text) = some (letter :: text) := by
  have hlength : (c :: (front ++ letter :: text)).length - text.length - 1 = (c :: front).length := by
    simp
    omega
  rw [List.cons_append, floatBodyEnd?_cons hdigit h]
  dsimp only
  rw [if_pos rfl, hnone, if_pos rfl, hlength, ← List.cons_append, List.drop_left]

theorem floatEnd?_local : IsLocal floatEnd? := by
  intro text rest h
  obtain ⟨between, hbody, hbreak⟩ := Option.bind_eq_some_iff.mp h
  obtain ⟨c, text, scan, rfl, hdigit, hscan⟩ := exists_digits hbody
  obtain ⟨digits, rfl, hletter, hdigits⟩ := floatDigits?_local hscan
  have hcases := hbody
  rw [floatBodyEnd?_cons hdigit hscan] at hcases
  split at hcases
  next hexponent =>
    have hnew : ∀ more, floatDigits? false (digits ++ more) = some ⟨scan.dotted, true, more⟩ := by
      intro more
      rw [hdigits (by simp [hexponent]), hexponent]
    split at hcases
    next value hvalue =>
      cases hcases
      obtain ⟨exponent, hrest, hend⟩ := exponentEnd?_local hvalue
      refine takes_number hbreak (c :: digits ++ exponent) (by rw [hrest]; simp) ?_
      rintro suffix - rfl - behind hstops
      rw [List.append_assoc, List.cons_append, floatBodyEnd?_cons hdigit (hnew _), if_pos rfl,
        hend (follows_suffix _ hstops)]
    next hvalue =>
      split at hcases
      next hdotted =>
        obtain ⟨front, letter, rfl, hends⟩ := hletter hexponent
        simp only [hdotted, List.append_assoc, List.singleton_append] at hnew hbody ⊢
        rw [← List.cons_append, floatBodyEnd?_letter hdigit (hnew _) hvalue, Option.some.injEq] at hbody
        subst hbody
        refine takes_number hbreak (c :: front) rfl ?_
        rintro suffix (rfl | ⟨first, tail, rfl, -, htail⟩) hsuffix hrest behind hstops
        · have hletter := hrest letter (by rw [← List.nil_append rest, ← hsuffix]; rfl)
          rcases hends with rfl | rfl <;> exact absurd hletter (by decide)
        · rw [List.cons_append, List.cons.injEq] at hsuffix
          obtain ⟨rfl, htext⟩ := hsuffix
          refine floatBodyEnd?_letter hdigit (hnew _) (Option.eq_none_iff_forall_ne_some.mpr ?_)
          intro more hmore
          obtain ⟨_, -, -, hold⟩ := exponentEnd?_of_stops htail hstops hmore hrest
          rw [htext, hold] at hvalue
          cases hvalue
      next => cases hcases
  next hexponent =>
    split at hcases
    next hdotted =>
      cases hcases
      refine takes_number hbreak (c :: digits) rfl ?_
      rintro suffix - hsuffix - behind hstops
      have hnew := hdigits fun _ => hsuffix ▸ follows_suffix suffix hstops
      rw [List.cons_append, floatBodyEnd?_cons hdigit hnew, if_neg hexponent, if_pos hdotted]
    next => cases hcases

theorem digitsEnd?_ends (h : ∀ c ∈ more.head?, isAsciiDigit c = false ∧
    (isHexDigit c && decide (hexValue c < base)) = false ∧ c ≠ '_') :
    digitsEnd? base false more = some more := by
  cases more with
  | nil => rfl
  | cons c more =>
      have hc := h c rfl
      rw [digitsEnd?, hc.1, hc.2.1]
      simp [hc.2.2]

theorem Stops.digitsEnd? (h : Stops behind) : digitsEnd? base false behind = some behind := by
  refine digitsEnd?_ends fun c hc => ?_
  have := stops_isNumberChar c (h c hc)
  simp [this]

theorem digitsEnd?_local (h : digitsEnd? base empty text = some rest) :
    ∃ token, text = token ++ rest ∧ (∀ d ∈ token, continuesIdentifier d = true) ∧
      (empty = true → token ≠ []) ∧
      ∀ ⦃more⦄, Follows rest more → digitsEnd? base empty (token ++ more) = some more := by
  fun_induction digitsEnd? base empty text with
  | case1 => cases h
  | case2 empty hempty =>
      cases h
      obtain rfl : empty = false := by simpa using hempty
      refine ⟨[], rfl, by simp, by simp, fun more hmore => ?_⟩
      rcases hmore with hsame | hmore
      · rw [List.head?_eq_none_iff.mp hsame]
        rfl
      · exact hmore.digitsEnd?
  | case3 empty c text hdigit hbase => cases h
  | case4 empty c text hdigit hbase ih =>
      obtain ⟨token, rfl, hword, -, htoken⟩ := ih h
      refine ⟨c :: token, rfl, List.forall_mem_cons.mpr ⟨continues_of_digit hdigit, hword⟩,
        by simp, fun more hmore => ?_⟩
      rw [List.cons_append, digitsEnd?, if_pos hdigit, if_neg hbase, htoken hmore]
  | case5 empty c text hdigit hhex ih =>
      obtain ⟨token, rfl, hword, -, htoken⟩ := ih h
      refine ⟨c :: token, rfl, List.forall_mem_cons.mpr ⟨continues_of_hexDigit ?_, hword⟩,
        by simp, fun more hmore => ?_⟩
      · simp_all
      · rw [List.cons_append, digitsEnd?, if_neg hdigit, if_pos hhex, htoken hmore]
  | case6 empty c text hdigit hhex hmark hempty => cases h
  | case7 empty c text hdigit hhex hmark hempty ih =>
      obtain ⟨token, rfl, hword, -, htoken⟩ := ih h
      obtain rfl : c = '_' := eq_of_beq hmark
      refine ⟨'_' :: token, rfl, List.forall_mem_cons.mpr ⟨by decide, hword⟩, by simp,
        fun more hmore => ?_⟩
      rw [List.cons_append, digitsEnd?, if_neg hdigit, if_neg hhex, if_pos hmark, if_neg hempty,
        htoken hmore]
  | case8 => cases h
  | case9 empty c text hdigit hhex hmark hempty =>
      cases h
      obtain rfl : empty = false := by simpa using hempty
      refine ⟨[], rfl, by simp, by simp, fun more hmore => ?_⟩
      rcases hmore with hsame | hmore
      · refine digitsEnd?_ends fun d hd => ?_
        rw [List.nil_append, hsame] at hd
        cases hd
        simp_all
      · exact hmore.digitsEnd?

theorem isAsciiDigit_of_digitsEnd? (h : digitsEnd? 10 true (c :: text) = some rest) :
    isAsciiDigit c = true := by
  by_contra hdigit
  have hbase : ¬(isHexDigit c && decide (hexValue c < 10)) = true := by
    simp only [isHexDigit, hexValue, Bool.and_eq_true, decide_eq_true_eq, hdigit, if_false,
      Bool.or_eq_true, false_or]
    split <;> omega
  rw [digitsEnd?, if_neg hdigit, if_neg hbase] at h
  simp at h

theorem integerBodyEnd?_local (h : integerBodyEnd? text = some rest) :
    ∃ c token, text = c :: token ++ rest ∧ isAsciiDigit c = true ∧
      (∀ d ∈ token, continuesIdentifier d = true) ∧
      ∀ ⦃more⦄, Follows rest more → integerBodyEnd? (c :: token ++ more) = some more := by
  unfold integerBodyEnd? at h
  split at h
  next text =>
    obtain ⟨token, rfl, hword, -, htoken⟩ := digitsEnd?_local h
    exact ⟨'0', 'x' :: token, rfl, by decide, List.forall_mem_cons.mpr ⟨by decide, hword⟩,
      fun more hmore => htoken hmore⟩
  next text =>
    obtain ⟨token, rfl, hword, -, htoken⟩ := digitsEnd?_local h
    exact ⟨'0', 'o' :: token, rfl, by decide, List.forall_mem_cons.mpr ⟨by decide, hword⟩,
      fun more hmore => htoken hmore⟩
  next text =>
    obtain ⟨token, rfl, hword, -, htoken⟩ := digitsEnd?_local h
    exact ⟨'0', 'b' :: token, rfl, by decide, List.forall_mem_cons.mpr ⟨by decide, hword⟩,
      fun more hmore => htoken hmore⟩
  next hhex hoctal hbinary =>
    obtain ⟨token, rfl, hword, hne, htoken⟩ := digitsEnd?_local h
    obtain ⟨c, token, rfl⟩ := List.exists_cons_of_ne_nil (hne rfl)
    rw [List.forall_mem_cons] at hword
    refine ⟨c, token, rfl, isAsciiDigit_of_digitsEnd? h, hword.2, fun more hmore => ?_⟩
    have hmark : ∀ mark ∈ "xob".toList, (∀ text, c :: token ++ rest ≠ '0' :: mark :: text) →
        ∀ text, c :: token ++ more ≠ '0' :: mark :: text := by
      intro mark hmark hold text hnew
      cases token with
      | cons d token =>
          rw [List.cons_append, List.cons_append, List.cons.injEq, List.cons.injEq] at hnew
          exact hold (token ++ rest) (by rw [hnew.1, hnew.2.1]; rfl)
      | nil =>
          rw [List.cons_append, List.nil_append, List.cons.injEq] at hnew
          obtain ⟨rfl, rfl⟩ := hnew
          rcases hmore with hsame | hstops
          · obtain ⟨further, rfl⟩ := List.head?_eq_some_iff.mp hsame.symm
            exact hold further rfl
          · have hmarks : ∀ mark ∈ "xob".toList, mark ∉ stops := by decide
            exact hmarks mark hmark (stops_cons.mp hstops)
    rw [integerBodyEnd?, htoken hmore]
    · exact hmark 'x' (by decide) hhex
    · exact hmark 'o' (by decide) hoctal
    · exact hmark 'b' (by decide) hbinary

theorem integerEnd?_local (h : integerEnd? text = some rest) :
    ∃ c word, text = c :: word ++ rest ∧ isAsciiDigit c = true ∧
      (∀ d ∈ word, continuesIdentifier d = true) ∧ StopsWord rest ∧ Takes integerEnd? (c :: word) := by
  obtain ⟨between, hbody, hbreak⟩ := Option.bind_eq_some_iff.mp h
  obtain ⟨c, token, rfl, hdigit, hword, htoken⟩ := integerBodyEnd?_local hbody
  obtain ⟨hskip, hrest⟩ := wordBreak?_eq_some.mp hbreak
  obtain ⟨suffix, hsuffix, hsuffixWord, hend⟩ := exists_suffix between
  rw [hskip] at hsuffix
  subst hsuffix
  refine ⟨c, token ++ suffix, by simp, hdigit, ?_, hrest, fun behind hstops => ?_⟩
  · intro d hd
    rcases List.mem_append.mp hd with hd | hd
    · exact hword d hd
    · rcases hsuffixWord with rfl | ⟨first, tail, rfl, hstart, htail⟩
      · cases hd
      · rcases List.mem_cons.mp hd with rfl | hd
        · exact continues_of_starts hstart
        · exact htail d hd
  · rw [integerEnd?, ← List.cons_append, List.append_assoc, htoken (follows_suffix _ hstops),
      Option.bind_eq_bind, Option.bind_some, hend hstops, wordBreak?_eq_some.mpr ⟨rfl, hstops.stopsWord⟩]

theorem exists_exponent {word : List Char} (hword : ∀ d ∈ word, continuesIdentifier d = true)
    (hstops : Stops behind) (h : floatDigits? false (word ++ behind) = some scan) :
    scan.dotted = false ∧ (scan.exponent = true → ∃ tail, tail <:+ word ∧ scan.rest = tail ++ behind ∧
      ∀ rest, floatDigits? false (word ++ rest) = some ⟨false, true, tail ++ rest⟩) := by
  induction word with
  | nil =>
      rw [List.nil_append, hstops.floatDigits?] at h
      cases h
      exact ⟨rfl, nofun⟩
  | cons c word ih =>
      rw [List.forall_mem_cons] at hword
      have hdot : (c == '.') = false := by
        rw [beq_eq_false_iff_ne]
        rintro rfl
        exact absurd hword.1 (by decide)
      have hcons : ∀ text, floatDigits? false (c :: text) =
          if isAsciiDigit c || c == '_' then floatDigits? false text
          else if c == 'e' || c == 'E' then some ⟨false, true, text⟩
          else some ⟨false, false, c :: text⟩ := by
        intro text
        rw [floatDigits?.eq_def]
        simp [hdot]
      rw [List.cons_append, hcons] at h
      split at h
      next hdigit =>
        obtain ⟨hdotted, hexponent⟩ := ih hword.2 h
        refine ⟨hdotted, fun hscan => ?_⟩
        obtain ⟨tail, htail, hrest, hnew⟩ := hexponent hscan
        exact ⟨tail, htail.trans (List.suffix_cons c word), hrest, fun rest => by
          rw [List.cons_append, hcons, if_pos hdigit, hnew]⟩
      next hdigit =>
        split at h
        next hletter =>
          cases h
          exact ⟨rfl, fun _ => ⟨word, List.suffix_cons c word, rfl, fun rest => by
            rw [List.cons_append, hcons, if_neg hdigit, if_pos hletter]⟩⟩
        next =>
          cases h
          exact ⟨rfl, nofun⟩

theorem exists_wordBreak {word : List Char} (hword : ∀ d ∈ word, continuesIdentifier d = true)
    (hrest : StopsWord rest) (h : wordBreak? (skipSuffix (word ++ behind)) = some more) :
    ∃ found, wordBreak? (skipSuffix (word ++ rest)) = some found := by
  refine ⟨rest, wordBreak?_eq_some.mpr ⟨?_, hrest⟩⟩
  cases word with
  | nil => rw [List.nil_append, hrest.skipSuffix]
  | cons c word =>
      rw [List.forall_mem_cons] at hword
      by_cases hstart : startsIdentifier c = true
      · exact skipSuffix_append ⟨c, word, rfl, hstart, hword.2⟩ hrest
      · have hskip : skipSuffix (c :: word ++ behind) = c :: word ++ behind := by
          rw [List.cons_append, skipSuffix, identEnd?, if_neg hstart, Option.getD_none]
        rw [hskip, List.cons_append, wordBreak?, if_pos hword.1] at h
        cases h

theorem floatEnd?_of_stops {word : List Char} (hdigit : isAsciiDigit c = true)
    (hword : ∀ d ∈ word, continuesIdentifier d = true) (hrest : StopsWord rest) (hstops : Stops behind)
    (h : floatEnd? (c :: word ++ behind) = some more) : ∃ found, floatEnd? (c :: word ++ rest) = some found := by
  obtain ⟨between, hbody, hbreak⟩ := Option.bind_eq_some_iff.mp h
  obtain ⟨_, _, scan, htext, -, hscan⟩ := exists_digits hbody
  rw [List.cons_append, List.cons.injEq] at htext
  obtain ⟨rfl, rfl⟩ := htext
  obtain ⟨hdotted, hexponent⟩ := exists_exponent hword hstops hscan
  rw [List.cons_append, floatBodyEnd?_cons hdigit hscan, hdotted, if_neg Bool.false_ne_true] at hbody
  split at hbody
  next hletter =>
    obtain ⟨tail, htail, hscanRest, hnew⟩ := hexponent hletter
    split at hbody
    next value hvalue =>
      cases hbody
      rw [hscanRest] at hvalue
      have htailWord : ∀ d ∈ tail, continuesIdentifier d = true := fun d hd => hword d (htail.subset hd)
      obtain ⟨last, rfl, hlast, hold⟩ := exponentEnd?_of_stops htailWord hstops hvalue hrest
      have hfloat := floatBodyEnd?_cons hdigit (hnew rest)
      dsimp only at hfloat
      rw [if_pos rfl, hold] at hfloat
      obtain ⟨found, hfound⟩ := exists_wordBreak
        (fun d hd => htailWord d (hlast.subset hd)) hrest hbreak
      exact ⟨found, by rw [List.cons_append, floatEnd?, hfloat]; exact hfound⟩
    next => cases hbody
  next => cases hbody

end Numbers

theorem literalEnd?_digit {c : Char} (hdigit : isAsciiDigit c = true) (text : List Char) :
    literalEnd? (c :: text) = (floatEnd? (c :: text) <|> integerEnd? (c :: text)) := by
  have hc : c ≠ '"' ∧ c ≠ 'r' ∧ c ≠ 'b' ∧ c ≠ 'c' ∧ c ≠ '\'' := by
    refine ⟨?_, ?_, ?_, ?_, ?_⟩ <;> rintro rfl <;> exact absurd hdigit (by decide)
  simp [literalEnd?, stringEnd?, byteStringEnd?, terminatedStringEnd?, byteEnd?, characterEnd?, hc]

/-- A literal is found again wherever nothing stands behind it that could belong to it. -/
theorem literalEnd?_local : IsLocal literalEnd? := by
  intro text rest h
  rcases exists_opens h with ⟨front, scan, more, hopens, rfl, hscan⟩ | hfloat | ⟨hfloat, hinteger⟩
  · obtain ⟨token, rfl, htoken⟩ := hopens.isLocal hscan
    refine ⟨front ++ token, by simp, fun behind hstops => ?_⟩
    rw [List.append_assoc, hopens.literalEnd?, htoken hstops]
  · obtain ⟨token, rfl, htoken⟩ := floatEnd?_local hfloat
    obtain ⟨between, hbody, -⟩ := Option.bind_eq_some_iff.mp hfloat
    obtain ⟨c, more, -, htext, hdigit, -⟩ := exists_digits hbody
    cases token with
    | nil => cases htoken stops_nil
    | cons d token =>
        rw [List.cons_append, List.cons.injEq] at htext
        obtain ⟨rfl, -⟩ := htext
        refine ⟨d :: token, rfl, fun behind hstops => ?_⟩
        rw [List.cons_append, literalEnd?_digit hdigit, ← List.cons_append, htoken hstops]
        rfl
  · obtain ⟨c, word, rfl, hdigit, hword, hrest, htoken⟩ := integerEnd?_local hinteger
    refine ⟨c :: word, rfl, fun behind hstops => ?_⟩
    have hnone : floatEnd? (c :: word ++ behind) = none := by
      refine Option.eq_none_iff_forall_ne_some.mpr fun more hmore => ?_
      obtain ⟨found, hfound⟩ := floatEnd?_of_stops hdigit hword hrest hstops hmore
      rw [hfound] at hfloat
      cases hfloat
    rw [List.cons_append, literalEnd?_digit hdigit, ← List.cons_append, hnone, htoken hstops]
    rfl

end TypedLogging.Source.Lexer
