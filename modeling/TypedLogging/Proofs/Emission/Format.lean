import TypedLogging.Emission.Format
import TypedLogging.Proofs.Binding
import TypedLogging.Proofs.Emission.Helper
import TypedLogging.Proofs.Template.Layout

namespace TypedLogging.Emission

open Text Template

inductive FormatPiece
  | char (c : Char)
  | argument
  deriving DecidableEq

/-- Reads a format. No brace is legal that is not one of a pair. -/
def readFormat : List Char → Option (List FormatPiece)
  | [] => some []
  | '\x7b' :: '\x7b' :: rest => (readFormat rest).map (.char '\x7b' :: ·)
  | '\x7d' :: '\x7d' :: rest => (readFormat rest).map (.char '\x7d' :: ·)
  | '\x7b' :: '\x7d' :: rest => (readFormat rest).map (.argument :: ·)
  | c :: rest => if isBrace c then none else (readFormat rest).map (.char c :: ·)

/-- Writes the pieces of a format with the arguments in their places. None may be left. -/
def fill : List FormatPiece → List (List Char) → Option (List Char)
  | [], [] => some []
  | .char c :: rest, values => (fill rest values).map (c :: ·)
  | .argument :: rest, value :: values => (fill rest values).map (value ++ ·)
  | _, _ => none

/-- Joins doubled braces in one pass from left to right. -/
def unescape : List Char → List Char
  | [] => []
  | '\x7b' :: '\x7b' :: rest => '\x7b' :: unescape rest
  | '\x7d' :: '\x7d' :: rest => '\x7d' :: unescape rest
  | c :: rest => c :: unescape rest

/-- Texts with values between them. -/
def weave : List (List Char) → List (List Char) → List Char
  | text :: texts, value :: values => text ++ value ++ weave texts values
  | texts, _ => texts.flatten

theorem head?_joinDoubled (brace : Char) (text : List Char) :
    (joinDoubled brace text).head? = text.head? := by
  cases text with
  | nil => rfl
  | cons c rest =>
      cases rest with
      | nil => rfl
      | cons d rest =>
          rw [joinDoubled]
          split
          next h => simp [h.1]
          next => rfl

theorem joinDoubled_cons {brace c : Char} {rest : List Char}
    (h : c = brace → rest.head? ≠ some brace) :
    joinDoubled brace (c :: rest) = c :: joinDoubled brace rest := by
  cases rest with
  | nil => rfl
  | cons d rest =>
      rw [joinDoubled, if_neg]
      rintro ⟨hc, rfl⟩
      exact h hc rfl

/-- The pass over one kind of brace leaves the other kind as it stands. -/
theorem literalText_eq_unescape (piece : List Char) : literalText piece = unescape piece := by
  rw [literalText]
  fun_induction unescape piece with
  | case1 => rfl
  | case2 rest ih =>
      rw [joinDoubled, if_pos ⟨rfl, rfl⟩, joinDoubled_cons (by simp), ih]
  | case3 rest ih =>
      have hopen : joinDoubled '\x7b' ('\x7d' :: '\x7d' :: rest) =
          '\x7d' :: '\x7d' :: joinDoubled '\x7b' rest := by
        rw [joinDoubled_cons (by simp), joinDoubled_cons (by simp)]
      rw [hopen, joinDoubled, if_pos ⟨rfl, rfl⟩, ih]
  | case4 c rest hopen hclose ih =>
      have hfirst : c = '\x7b' → rest.head? ≠ some '\x7b' := by
        rintro rfl hhead
        obtain ⟨rest', rfl⟩ := List.head?_eq_some_iff.mp hhead
        exact hopen rest' rfl rfl
      have hsecond : c = '\x7d' → (joinDoubled '\x7b' rest).head? ≠ some '\x7d' := by
        rintro rfl hhead
        rw [head?_joinDoubled] at hhead
        obtain ⟨rest', rfl⟩ := List.head?_eq_some_iff.mp hhead
        exact hclose rest' rfl rfl
      rw [joinDoubled_cons hfirst, joinDoubled_cons hsecond, ih]

theorem readFormat_cons {c : Char} (hc : isBrace c = false) (rest : List Char) :
    readFormat (c :: rest) = (readFormat rest).map (.char c :: ·) := by
  obtain ⟨hopen, hclose⟩ : c ≠ '\x7b' ∧ c ≠ '\x7d' := by simpa [isBrace] using hc
  rw [readFormat] <;> simp_all

theorem readFormat_argument (rest : List Char) :
    readFormat ('\x7b' :: '\x7d' :: rest) = (readFormat rest).map (.argument :: ·) := by
  simp [readFormat]

/-- Doubled braces are read as single ones, whatever follows: none of them can pair with a brace
behind the text. -/
theorem readFormat_doubleBraces_append (text rest : List Char) :
    readFormat (doubleBraces text ++ rest) =
      (readFormat rest).map (text.map .char ++ ·) := by
  induction text with
  | nil => simp [doubleBraces]
  | cons c text ih =>
      rw [doubleBraces]
      split
      next hc =>
        obtain rfl | rfl : c = '\x7b' ∨ c = '\x7d' := by simpa [isBrace] using hc
        · simp [readFormat, ih, Function.comp_def]
        · simp [readFormat, ih, Function.comp_def]
      next hc =>
        rw [List.cons_append, readFormat_cons (by simpa using hc), ih]
        simp [Function.comp_def]

def charPieces (gap : List Char) : List FormatPiece := (unescape gap).map .char

def pieces : List (List Char) → List FormatPiece
  | [] => []
  | [gap] => charPieces gap
  | gap :: gaps => charPieces gap ++ .argument :: pieces gaps

theorem formatLiteral_append (gap rest : List Char) :
    readFormat (formatLiteral gap ++ rest) = (readFormat rest).map (charPieces gap ++ ·) := by
  rw [formatLiteral, readFormat_doubleBraces_append, literalText_eq_unescape, charPieces]

theorem pieces_cons {gap : List Char} {gaps : List (List Char)} (h : gaps ≠ []) :
    pieces (gap :: gaps) = charPieces gap ++ .argument :: pieces gaps := by
  cases gaps with
  | nil => exact absurd rfl h
  | cons => rfl

theorem laid_gaps_ne_nil {offset : Nat} {slots : List Slot} {gaps : List (List Char)}
    {text : List Char} (h : Laid offset slots gaps text) : gaps ≠ [] := by
  cases h <;> simp

theorem laid_length_gaps {offset : Nat} {slots : List Slot} {gaps : List (List Char)}
    {text : List Char} (h : Laid offset slots gaps text) : gaps.length = slots.length + 1 := by
  induction h with
  | last => rfl
  | slot gap _ _ _ ih => rw [List.length_cons, List.length_cons, ih]

theorem readFormat_formatFrom_append {offset : Nat} {slots : List Slot}
    {gaps : List (List Char)} {text : List Char} (h : Laid offset slots gaps text)
    (rest : List Char) :
    readFormat (formatFrom offset text slots ++ rest) =
      (readFormat rest).map (pieces gaps ++ ·) := by
  induction h with
  | last offset gap => exact formatLiteral_append gap rest
  | @slot offset slot slots gaps text gap hstart hstop hrest ih =>
      have htake : slot.start - offset = byteLength gap := by omega
      have hdrop : slot.stop - offset = byteLength (gap ++ braced slot.aliasName) := by
        rw [byteLength_append]
        omega
      rw [formatFrom, htake, takeBytes_append, hdrop, ← List.append_assoc, dropBytes_append,
        List.append_assoc, formatLiteral_append, List.cons_append, List.cons_append,
        readFormat_argument, ih, pieces_cons (laid_gaps_ne_nil hrest)]
      simp [Function.comp_def]

theorem count_charPieces (gap : List Char) : (charPieces gap).count .argument = 0 := by
  rw [List.count_eq_zero]
  simp [charPieces]

theorem count_pieces {gaps : List (List Char)} (h : gaps ≠ []) :
    (pieces gaps).count .argument + 1 = gaps.length := by
  induction gaps with
  | nil => exact absurd rfl h
  | cons gap gaps ih =>
      cases gaps with
      | nil => simp [pieces, count_charPieces]
      | cons gap' gaps =>
          rw [pieces_cons (by simp), List.count_append, count_charPieces, List.count_cons_self,
            Nat.zero_add, ih (by simp), List.length_cons (a := gap)]

theorem fill_charPieces_append (gap : List Char) (rest : List FormatPiece)
    (values : List (List Char)) :
    fill (charPieces gap ++ rest) values = (fill rest values).map (unescape gap ++ ·) := by
  rw [charPieces]
  induction unescape gap with
  | nil => simp
  | cons c text ih => simp [fill, ih, Function.comp_def]

theorem fill_pieces_append {gaps values : List (List Char)}
    (h : gaps.length = values.length + 1) (rest : List FormatPiece) (more : List (List Char)) :
    fill (pieces gaps ++ rest) (values ++ more) =
      (fill rest more).map (weave (gaps.map unescape) values ++ ·) := by
  induction gaps generalizing values with
  | nil => simp at h
  | cons gap gaps ih =>
      cases values with
      | nil =>
          obtain rfl : gaps = [] := by simpa using h
          rw [pieces, fill_charPieces_append]
          simp [weave]
      | cons value values =>
          have hgaps : gaps ≠ [] := by
            rintro rfl
            simp at h
          rw [pieces_cons hgaps, List.append_assoc, fill_charPieces_append, List.cons_append,
            List.cons_append, fill, ih (by simpa using h)]
          simp [weave, Function.comp_def]

theorem readFormat_formatString {template : Template}
    (h : Laid 0 template.slots template.gaps template.normalized.toList) :
    readFormat (formatString template).toList = some (pieces template.gaps) := by
  have hread := readFormat_formatFrom_append h []
  rw [List.append_nil] at hread
  rw [formatString, String.toList_ofList, hread]
  simp [readFormat]

theorem readFormat_withError {template : Template}
    (h : Laid 0 template.slots template.gaps template.normalized.toList) :
    readFormat (withError (formatString template)).toList =
      some (pieces template.gaps ++ [.char ':', .char ' ', .argument]) := by
  rw [withError, formatString, String.toList_append, String.toList_ofList,
    readFormat_formatFrom_append h]
  simp [readFormat, isBrace]

theorem fill_pieces {gaps values : List (List Char)} (h : gaps.length = values.length + 1) :
    fill (pieces gaps) values = some (weave (gaps.map unescape) values) := by
  have hfill := fill_pieces_append h [] []
  rw [List.append_nil, List.append_nil] at hfill
  rw [hfill]
  simp [fill]

theorem fill_pieces_withError {gaps values : List (List Char)}
    (h : gaps.length = values.length + 1) (error : List Char) :
    fill (pieces gaps ++ [.char ':', .char ' ', .argument]) (values ++ [error]) =
      some (weave (gaps.map unescape) values ++ ": ".toList ++ error) := by
  rw [fill_pieces_append h]
  simp [fill]

theorem arms_of_helperOf {binding : Binding} {eventId : EventId} {taken : List String}
    {helper : Helper} (h : helperOf binding eventId taken = .ok helper) :
    helper.armWithout.format = formatString binding.template ∧
      helper.armWithout.arguments.length = binding.template.slots.length ∧
      helper.armWithError.format = withError (formatString binding.template) ∧
      helper.armWithError.arguments.length = binding.template.slots.length + 1 := by
  have hformat := format_of_helperOf h
  have hlength := length_paramNames_of_helperOf h
  refine ⟨hformat, hlength, ?_, ?_⟩
  · rw [Helper.armWithError, hformat]
  · rw [Helper.armWithError, List.length_append, hlength, List.length_singleton]

/-- The formats of a bound message are legal, with and without an error, and write what its template
stands for. They are those of the arms of its helper. -/
theorem formats_of_bind {lookup : Lookup} {location : Location} {arguments : List Argument}
    {binding : Binding} (h : bind lookup location arguments = .ok binding) :
    (∃ pieces, readFormat (formatString binding.template).toList = some pieces ∧
      pieces.count .argument = binding.template.slots.length ∧
      ∀ values, values.length = binding.template.slots.length →
        fill pieces values = some (weave (binding.template.gaps.map unescape) values)) ∧
    (∃ pieces, readFormat (withError (formatString binding.template)).toList = some pieces ∧
      pieces.count .argument = binding.template.slots.length + 1 ∧
      ∀ values error, values.length = binding.template.slots.length →
        fill pieces (values ++ [error]) =
          some (weave (binding.template.gaps.map unescape) values ++ ": ".toList ++ error)) ∧
    ∀ eventId taken helper, helperOf binding eventId taken = .ok helper →
      helper.armWithout.format = formatString binding.template ∧
        helper.armWithout.arguments.length = binding.template.slots.length ∧
        helper.armWithError.format = withError (formatString binding.template) ∧
        helper.armWithError.arguments.length = binding.template.slots.length + 1 := by
  obtain ⟨raw, hraw⟩ := Binding.exists_parse_of_bind h
  have hlaid := parse_laid hraw
  rw [← gaps_of_parse hraw] at hlaid
  have hlength := laid_length_gaps hlaid
  have hcount := count_pieces (laid_gaps_ne_nil hlaid)
  refine ⟨⟨_, readFormat_formatString hlaid, by omega, ?_⟩,
    ⟨_, readFormat_withError hlaid, ?_, ?_⟩, fun _ _ _ => arms_of_helperOf⟩
  · intro values hvalues
    exact fill_pieces (hlength.trans (by rw [hvalues]))
  · rw [List.count_append]
    change _ + 1 = _
    omega
  · intro values error hvalues
    exact fill_pieces_withError (hlength.trans (by rw [hvalues])) error

def strayArguments : List Argument :=
  [⟨none, .string "Braces"⟩, ⟨none, .member ⟨["LogLevel", "Debug"], MemberRef.two_le_length_debug⟩⟩,
    ⟨none, .string "\x7d\x7b\x7b \x7bX:u32\x7d\x7d \x7b"⟩]

def strayBinding : Binding where
  name := "Braces"
  logLevel := ⟨["LogLevel", "Debug"], MemberRef.two_le_length_debug⟩
  template := {
    raw := "\x7d\x7b\x7b \x7bX:u32\x7d\x7d \x7b"
    normalized := "\x7d\x7b\x7b \x7bX\x7d\x7d \x7b"
    slots := [⟨"X", ⟨"u32", "u32"⟩, 4, 7⟩] }
  explicitId := none
  scope := .generic

theorem formats_of_bind_stray :
    bind .plain ⟨"crate", []⟩ strayArguments = .ok strayBinding ∧
      ∃ pieces, readFormat (formatString strayBinding.template).toList = some pieces ∧
        pieces.count .argument = 1 ∧
        fill pieces ["7".toList] = some "\x7d\x7b 7\x7d \x7b".toList := by
  have h : bind .plain ⟨"crate", []⟩ strayArguments = .ok strayBinding := by decide
  obtain ⟨⟨pieces, hread, hcount, hfill⟩, -⟩ := formats_of_bind h
  exact ⟨h, pieces, hread, hcount, (hfill ["7".toList] rfl).trans (by decide)⟩

end TypedLogging.Emission
