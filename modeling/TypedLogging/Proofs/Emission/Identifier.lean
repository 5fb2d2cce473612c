import TypedLogging.Emission
import TypedLogging.Proofs.Emission.Helper
import TypedLogging.Proofs.Text.Integer
import TypedLogging.Proofs.Text.Words

namespace TypedLogging.Emission

open Outcome
open Text (isAscii isAsciiAlphanumeric isAsciiDigit isAsciiLetter isAsciiLower isAsciiUpper
  isSnakeChar)

/-- The keywords of the 2024 edition, the strict ones and the reserved ones. -/
def keywords : List String :=
  ["as", "async", "await", "break", "const", "continue", "crate", "dyn", "else", "enum", "extern",
   "false", "fn", "for", "if", "impl", "in", "let", "loop", "match", "mod", "move", "mut", "pub", "ref",
   "return", "self", "Self", "static", "struct", "super", "trait", "true", "type", "unsafe", "use",
   "where", "while", "abstract", "become", "box", "do", "final", "gen", "macro", "override", "priv",
   "try", "typeof", "unsized", "virtual", "yield"]

/-- A name that can be an identifier and is no keyword; an underscore by itself is no name. -/
def IsIdentifier (name : String) : Prop :=
  Source.Literal.isIdentifierText name.toList = true ∧ name ≠ "_" ∧ name ∉ keywords

def isPlainChar (c : Char) : Bool := isAsciiAlphanumeric c || c == '_'

/-- A name of letters, digits and underscores that does not begin with a digit and is not reserved. -/
structure IsPlain (name : String) : Prop where
  chars : ∀ c ∈ name.toList, isPlainChar c = true
  begins : ∃ c rest, name.toList = c :: rest ∧ isAsciiDigit c = false
  free : Source.isReserved name = false

section Chars

variable {c : Char}

theorem isPlainChar_iff : isPlainChar c = true ↔
    isAsciiLower c = true ∨ isAsciiUpper c = true ∨ isAsciiDigit c = true ∨ c = '_' := by
  simp [isPlainChar, isAsciiAlphanumeric, isAsciiLetter, or_assoc]

theorem isAscii_of_isPlainChar (h : isPlainChar c = true) : isAscii c = true := by
  rcases isPlainChar_iff.mp h with h | h | h | rfl
  · exact Text.isAscii_of_lower h
  · rw [Text.isAsciiUpper_iff] at h
    simp only [isAscii, decide_eq_true_eq]
    omega
  · exact Text.isAscii_of_digit h
  · rfl

theorem startsIdentifier_of_isPlainChar (h : isPlainChar c = true) :
    Text.startsIdentifier c = !isAsciiDigit c := by
  rw [Text.startsIdentifier, if_pos (isAscii_of_isPlainChar h), isAsciiLetter]
  rcases isPlainChar_iff.mp h with h | h | h | rfl
  · have hdigit : isAsciiDigit c = false := by
      rw [Text.isAsciiLower_iff] at h
      rw [Bool.eq_false_iff, ne_eq, Text.isAsciiDigit_iff]
      omega
    simp [h, hdigit]
  · have hdigit : isAsciiDigit c = false := by
      rw [Text.isAsciiUpper_iff] at h
      rw [Bool.eq_false_iff, ne_eq, Text.isAsciiDigit_iff]
      omega
    simp [h, hdigit]
  · have hletter : isAsciiLower c = false ∧ isAsciiUpper c = false ∧ c ≠ '_' := by
      refine ⟨?_, ?_, ?_⟩
      · rw [Text.isAsciiDigit_iff] at h
        rw [Bool.eq_false_iff, ne_eq, Text.isAsciiLower_iff]
        omega
      · rw [Text.isAsciiDigit_iff] at h
        rw [Bool.eq_false_iff, ne_eq, Text.isAsciiUpper_iff]
        omega
      · rintro rfl
        exact absurd h (by decide)
    simp [h, hletter]
  · rfl

theorem continuesIdentifier_of_isPlainChar (h : isPlainChar c = true) :
    Text.continuesIdentifier c = true := by
  rw [Text.continuesIdentifier, if_pos (isAscii_of_isPlainChar h)]
  exact h

theorem isIdentifierText_cons {rest : List Char} (h : ∀ d ∈ c :: rest, isPlainChar d = true) :
    Source.Literal.isIdentifierText (c :: rest) = !isAsciiDigit c := by
  rw [List.forall_mem_cons] at h
  have hrest : rest.all Text.continuesIdentifier = true :=
    List.all_eq_true.mpr fun d hd => continuesIdentifier_of_isPlainChar (h.2 d hd)
  rw [Source.Literal.isIdentifierText, startsIdentifier_of_isPlainChar h.1, hrest, Bool.and_true]

end Chars

section Plain

variable {name base : String}

theorem IsPlain.isIdentifierText (h : IsPlain name) :
    Source.Literal.isIdentifierText name.toList = true := by
  obtain ⟨c, rest, hname, hdigit⟩ := h.begins
  have hchars := h.chars
  rw [hname] at hchars
  rw [hname, isIdentifierText_cons hchars, hdigit]
  rfl

theorem isIdentifier_iff_of_free (htext : Source.Literal.isIdentifierText name.toList = true)
    (hfree : Source.isReserved name = false) : IsIdentifier name ↔ name ≠ "gen" := by
  have hkeywords : ∀ word ∈ keywords, word ∈ Source.reservedWords ∨ word = "gen" := by decide
  rw [Bool.eq_false_iff, ne_eq, Source.isReserved, List.contains_iff_mem] at hfree
  constructor
  · rintro ⟨-, -, hname⟩ rfl
    exact hname (by decide)
  · refine fun hne => ⟨htext, ?_, fun hmem => (hkeywords name hmem).elim hfree hne⟩
    rintro rfl
    exact hfree (by decide)

theorem isReserved_of_underscore (h : '_' ∈ name.toList) (hne : name ≠ "_") :
    Source.isReserved name = false := by
  have hwords : ∀ word ∈ Source.reservedWords, '_' ∈ word.toList → word = "_" := by
    decide
  rw [Bool.eq_false_iff, ne_eq, Source.isReserved, List.contains_iff_mem]
  exact fun hmem => hne (hwords name hmem h)

theorem mem_plainName {text : List Char} {d : Char} (h : d ∈ plainName text) :
    d = '_' ∨ d ∈ "arg".toList ∨ d ∈ text ∧ isAsciiAlphanumeric d = true := by
  have hmap : ∀ e ∈ text.map (fun c => if isAsciiAlphanumeric c then c else '_'),
      e = '_' ∨ e ∈ text ∧ isAsciiAlphanumeric e = true := by
    intro e he
    obtain ⟨c, hc, rfl⟩ := List.mem_map.mp he
    split
    next halphanumeric => exact .inr ⟨hc, halphanumeric⟩
    next => exact .inl rfl
  rw [plainName] at h
  split at h
  next => exact .inr (.inl h)
  next c rest hchars =>
    rw [hchars] at hmap
    split at h
    · rcases List.mem_cons.mp h with h | h
      · exact .inl h
      · exact (hmap d h).imp_right .inr
    · exact (hmap d h).imp_right .inr

theorem plainName_begins (text : List Char) :
    ∃ c rest, plainName text = c :: rest ∧ isAsciiDigit c = false := by
  rw [plainName]
  split
  next => exact ⟨'a', "rg".toList, rfl, by decide⟩
  next c rest hchars =>
    split
    next => exact ⟨'_', _, rfl, by decide⟩
    next hdigit => exact ⟨c, rest, rfl, by simpa using hdigit⟩

theorem isPlainChar_of_mem_plainName {text : List Char} {d : Char} (h : d ∈ plainName text) :
    isPlainChar d = true := by
  have harg : ∀ e ∈ "arg".toList, isPlainChar e = true := List.all_eq_true.mp (by decide)
  rcases mem_plainName h with rfl | h | ⟨-, h⟩
  · decide
  · exact harg d h
  · simp [isPlainChar, h]

theorem begins_append {first : List Char} (second : List Char)
    (h : ∃ c rest, first = c :: rest ∧ isAsciiDigit c = false) :
    ∃ c rest, first ++ second = c :: rest ∧ isAsciiDigit c = false := by
  obtain ⟨c, rest, rfl, hdigit⟩ := h
  exact ⟨c, rest ++ second, rfl, hdigit⟩

theorem isPlain_sanitize (text : String) : IsPlain (sanitize text) := by
  have hchars : ∀ c ∈ plainName text.toList, isPlainChar c = true :=
    fun c hc => isPlainChar_of_mem_plainName hc
  have hbegins := plainName_begins text.toList
  rw [sanitize]
  split
  next hreserved =>
    have hlist : ((String.ofList (plainName text.toList)).push '_').toList =
        plainName text.toList ++ ['_'] := by simp
    refine ⟨?_, ?_, isReserved_of_underscore (by simp [hlist]) ?_⟩
    · rw [hlist]
      exact List.forall_mem_append.mpr ⟨hchars, List.forall_mem_singleton.mpr (by decide)⟩
    · rw [hlist]
      exact begins_append _ hbegins
    · intro he
      have hlength := congrArg List.length (hlist.symm.trans (congrArg String.toList he))
      obtain ⟨c, rest, hname, -⟩ := hbegins
      rw [hname] at hlength
      simp at hlength
  next hreserved =>
    refine ⟨?_, ?_, by simpa using hreserved⟩
    · rwa [String.toList_ofList]
    · rwa [String.toList_ofList]

theorem isAsciiDigit_of_mem_repr {number : Nat} {c : Char} (h : c ∈ (Nat.repr number).toList) :
    isAsciiDigit c = true := by
  rw [Nat.toList_repr] at h
  exact (Text.isDigits_toDigits number).2 c h

theorem IsPlain.numbered (h : IsPlain base) (number : Nat) : IsPlain (numbered base number) := by
  have hlist := toList_numbered base number
  refine ⟨?_, ?_, isReserved_of_underscore (by simp [hlist]) ?_⟩
  · rw [hlist]
    refine List.forall_mem_append.mpr ⟨h.chars, List.forall_mem_cons.mpr ⟨by decide, ?_⟩⟩
    intro c hc
    exact isPlainChar_iff.mpr (.inr (.inr (.inl (isAsciiDigit_of_mem_repr hc))))
  · rw [hlist]
    exact begins_append _ h.begins
  · intro he
    obtain ⟨c, rest, hname, -⟩ := h.begins
    rw [he, hname] at hlist
    simp at hlist

theorem forall_unique {p : String → Prop} (h : p base) (hnumbered : ∀ number, p (numbered base number))
    (taken : List String) : p (unique base taken) := by
  by_cases htaken : base ∈ taken
  · obtain ⟨k, -, hk, -, -⟩ := unique_of_mem htaken
    rw [hk]
    exact hnumbered k
  · rwa [unique_of_not_mem htaken]

theorem IsPlain.unique (h : IsPlain base) (taken : List String) : IsPlain (unique base taken) :=
  forall_unique h h.numbered taken

theorem forall_uniqueAll {p : String → Prop} {bases : List String}
    (h : ∀ base ∈ bases, p base ∧ ∀ number, p (numbered base number)) (taken : List String) :
    ∀ name ∈ uniqueAll taken bases, p name := by
  induction bases generalizing taken with
  | nil => exact fun name hname => nomatch hname
  | cons base rest ih =>
      rw [List.forall_mem_cons] at h
      exact List.forall_mem_cons.mpr ⟨forall_unique h.1.1 h.1.2 taken, ih h.2 _⟩

theorem isPlain_methodOf (binding : Binding) (taken : List String) :
    IsPlain (methodOf binding taken) := (isPlain_sanitize _).unique taken

theorem isPlain_of_mem_paramNames {slots : List Slot} (h : name ∈ paramNames slots) :
    IsPlain name := by
  refine forall_uniqueAll ?_ [] name h
  intro base hbase
  obtain ⟨slot, -, rfl⟩ := List.mem_map.mp hbase
  exact ⟨isPlain_sanitize _, (isPlain_sanitize _).numbered⟩

theorem isPlain_error : IsPlain "error" :=
  ⟨List.all_eq_true.mp (by decide), ⟨'e', "rror".toList, rfl, by decide⟩, by decide⟩

theorem IsPlain.append_loggerMessages (h : IsPlain name) : IsPlain (name ++ "LoggerMessages") := by
  have hlist : (name ++ "LoggerMessages").toList = name.toList ++ "LoggerMessages".toList :=
    String.toList_append
  have hwords : ∀ word ∈ Source.reservedWords, word.toList.length < 14 := by decide
  refine ⟨?_, ?_, ?_⟩
  · rw [hlist]
    exact List.forall_mem_append.mpr ⟨h.chars, List.all_eq_true.mp (by decide)⟩
  · rw [hlist]
    exact begins_append _ h.begins
  · rw [Bool.eq_false_iff, ne_eq, Source.isReserved, List.contains_iff_mem]
    intro hmem
    have hlength := hwords _ hmem
    rw [hlist, List.length_append] at hlength
    have hsuffix : "LoggerMessages".toList.length = 14 := by decide
    omega

end Plain

section Methods

variable {text : String} {c : Char}

theorem toList_sanitize (text : String) : ∃ marks, (∀ c ∈ marks, c = '_') ∧
    (sanitize text).toList = plainName text.toList ++ marks := by
  rw [sanitize]
  split
  · exact ⟨['_'], by simp, by simp⟩
  · exact ⟨[], by simp, by simp⟩

theorem isSnakeChar_of_mem_sanitize (h : c ∈ (sanitize (TypedLogging.snake text)).toList) :
    isSnakeChar c = true := by
  have harg : ∀ d ∈ "arg".toList, isSnakeChar d = true := List.all_eq_true.mp (by decide)
  obtain ⟨marks, hmarks, hname⟩ := toList_sanitize (TypedLogging.snake text)
  rw [hname, TypedLogging.snake, String.toList_ofList] at h
  rcases List.mem_append.mp h with h | h
  · rcases mem_plainName h with rfl | h | ⟨h, halphanumeric⟩
    · decide
    · exact harg c h
    · have hupper := Text.isAsciiUpper_of_mem_snakeCase h
      have hkind : isAsciiLower c = true ∨ isAsciiDigit c = true := by
        simpa [isAsciiAlphanumeric, isAsciiLetter, hupper] using halphanumeric
      exact Text.isSnakeChar_iff.mpr (hkind.imp_right .inl)
  · rw [hmarks c h]
    decide

theorem isSnakeChar_of_mem_numbered {base : String} (h : ∀ c ∈ base.toList, isSnakeChar c = true)
    (number : Nat) : ∀ c ∈ (numbered base number).toList, isSnakeChar c = true := by
  rw [toList_numbered]
  refine List.forall_mem_append.mpr ⟨h, List.forall_mem_cons.mpr ⟨by decide, ?_⟩⟩
  intro c hc
  exact Text.isSnakeChar_iff.mpr (.inr (.inl (isAsciiDigit_of_mem_repr hc)))

theorem isSnakeChar_of_mem_methodOf (binding : Binding) (taken : List String) :
    ∀ c ∈ (methodOf binding taken).toList, isSnakeChar c = true := by
  have hbase : ∀ c ∈ (sanitize (TypedLogging.snake binding.name)).toList, isSnakeChar c = true :=
    fun c hc => isSnakeChar_of_mem_sanitize hc
  exact forall_unique (p := fun name => ∀ c ∈ name.toList, isSnakeChar c = true) hbase
    (isSnakeChar_of_mem_numbered hbase) taken

/-- The first character of a name that is no underscore, which its constant begins with. -/
def leading? (name : String) : Option Char := name.toList.find? (· ≠ '_')

theorem toList_constantOf (method : String) :
    (constantOf method).toList = Text.shoutyCase method.toList ++ "_EVENT_ID".toList := by
  simp [constantOf, TypedLogging.shouty]

theorem isIdentifierText_constantOf {method : String}
    (h : ∀ c ∈ method.toList, isSnakeChar c = true) :
    Source.Literal.isIdentifierText (constantOf method).toList =
      !(leading? method).any isAsciiDigit := by
  have hhead := Text.head?_shoutyCase h
  have hsuffix : ∀ c ∈ "_EVENT_ID".toList, isPlainChar c = true := List.all_eq_true.mp (by decide)
  rw [toList_constantOf]
  cases hleading : leading? method with
  | none =>
      rw [leading?] at hleading
      rw [hleading] at hhead
      rw [List.head?_eq_none_iff.mp hhead]
      decide
  | some c =>
      rw [leading?] at hleading
      have hc := h c (List.mem_of_find?_eq_some hleading)
      have hne : c ≠ '_' := by simpa using List.find?_some hleading
      obtain ⟨d, hd, -, hkind⟩ := Text.uppered_of_isSnakeChar hc hne
      rw [hleading, Option.bind_some, hd] at hhead
      obtain ⟨rest, hshouty⟩ := List.head?_eq_some_iff.mp hhead
      have hchars : ∀ e ∈ d :: (rest ++ "_EVENT_ID".toList), isPlainChar e = true := by
        rw [← List.cons_append, ← hshouty]
        refine List.forall_mem_append.mpr ⟨fun e he => ?_, hsuffix⟩
        exact isPlainChar_iff.mpr (.inr (Text.mem_shoutyCase h he))
      rw [hshouty, List.cons_append, isIdentifierText_cons hchars, Option.any_some]
      rcases hkind with ⟨hupper, hdigit⟩ | ⟨rfl, -⟩
      · have hnot : isAsciiDigit d = false := by
          rw [Text.isAsciiUpper_iff] at hupper
          rw [Bool.eq_false_iff, ne_eq, Text.isAsciiDigit_iff]
          omega
        rw [hnot, hdigit]
      · rfl

theorem find?_plainName (text : List Char) : (plainName text).find? (· ≠ '_') =
    if text = [] then some 'a' else text.find? isAsciiAlphanumeric := by
  have hmap : (text.map fun c => if isAsciiAlphanumeric c then c else '_').find? (· ≠ '_') =
      text.find? isAsciiAlphanumeric := by
    induction text with
    | nil => rfl
    | cons c rest ih =>
        rw [List.map_cons]
        by_cases hc : isAsciiAlphanumeric c = true
        · have hne : c ≠ '_' := by
            rintro rfl
            exact absurd hc (by decide)
          rw [if_pos hc, List.find?_cons_of_pos (by simpa using hne), List.find?_cons_of_pos hc]
        · rw [if_neg hc, List.find?_cons_of_neg (by simp), ih, List.find?_cons_of_neg hc]
  rw [plainName]
  split
  next hnil => rw [if_pos (List.map_eq_nil_iff.mp hnil)]; rfl
  next c rest hchars =>
    have hne : text ≠ [] := by
      rintro rfl
      cases hchars
    rw [if_neg hne, ← hmap, hchars]
    split
    · rw [List.find?_cons_of_neg (by simp)]
    · rfl

theorem leading?_sanitize (text : String) : leading? (sanitize text) =
    if text = "" then some 'a' else text.toList.find? isAsciiAlphanumeric := by
  obtain ⟨marks, hmarks, hname⟩ := toList_sanitize text
  have hnone : marks.find? (· ≠ '_') = none :=
    List.find?_eq_none.mpr fun c hc => by simp [hmarks c hc]
  rw [leading?, hname, List.find?_append, hnone, Option.or_none, find?_plainName]
  simp

theorem leading?_numbered (base : String) (number : Nat) :
    leading? (numbered base number) = (leading? base).or (Nat.repr number).toList.head? := by
  rw [leading?, leading?, toList_numbered, List.find?_append, List.find?_cons_of_neg (by simp)]
  congr 1
  cases hdigits : (Nat.repr number).toList with
  | nil => rfl
  | cons c rest =>
      have hmem : c ∈ (Nat.repr number).toList := hdigits ▸ List.mem_cons_self
      have hdigit : isAsciiDigit c = true := isAsciiDigit_of_mem_repr hmem
      have hne : c ≠ '_' := by
        rintro rfl
        exact absurd hdigit (by decide)
      rw [List.find?_cons_of_pos (by simpa using hne), List.head?_cons]

end Methods

end TypedLogging.Emission
