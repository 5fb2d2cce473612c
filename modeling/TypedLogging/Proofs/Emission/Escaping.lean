import TypedLogging.Proofs.Emission.Format
import TypedLogging.Proofs.Template.Grammar

namespace TypedLogging.Emission

open Text Template

def escape : List Char → List Char
  | [] => []
  | c :: rest => if isBrace c then c :: c :: escape rest else c :: escape rest

/-- A placeholder, and the literal text behind it. -/
structure Field where
  aliasName : String
  type : String
  literal : String

/-- The parts of a placeholder can be told apart. -/
structure Field.Plain (field : Field) : Prop where
  alias_ne : field.aliasName ≠ ""
  alias_plain : ∀ c ∈ field.aliasName.toList, isBrace c = false
  type_ne : field.type ≠ ""
  type_plain : ∀ c ∈ field.type.toList, isBrace c = false ∧ c ≠ ':'

def Field.body (field : Field) : List Char := field.aliasName.toList ++ ':' :: field.type.toList

def Field.placeholder (field : Field) : List Char := '\x7b' :: (field.body ++ ['\x7d'])

/-- A template: a literal text, and the fields behind it. -/
def writtenChars (first : List Char) : List Field → List Char
  | [] => escape first
  | field :: fields =>
    escape first ++ (field.placeholder ++ writtenChars field.literal.toList fields)

def written (first : String) (fields : List Field) : String :=
  String.ofList (writtenChars first.toList fields)

def literals (first : String) (fields : List Field) : List (List Char) :=
  first.toList :: fields.map (·.literal.toList)

/-- The placeholders of a template that begins at the byte offset `offset`. -/
def foundFrom (offset : Nat) (first : List Char) : List Field → List Placeholder
  | [] => []
  | field :: fields =>
    ⟨field.aliasName, field.type, offset + byteLength (escape first),
        byteLength field.placeholder⟩
      :: foundFrom (offset + byteLength (escape first) + byteLength field.placeholder)
        field.literal.toList fields

theorem unescape_cons_of_plain {c : Char} (hc : isBrace c = false) (rest : List Char) :
    unescape (c :: rest) = c :: unescape rest := by
  obtain ⟨hopen, hclose⟩ := isBrace_eq_false.mp hc
  rw [unescape] <;> simp_all

theorem unescape_escape (text : List Char) : unescape (escape text) = text := by
  induction text with
  | nil => rfl
  | cons c rest ih =>
      rw [escape]
      split
      next hc =>
        obtain rfl | rfl : c = '\x7b' ∨ c = '\x7d' := by simpa [isBrace] using hc
        · rw [unescape, ih]
        · rw [unescape, ih]
      next hc => rw [unescape_cons_of_plain (by simpa using hc), ih]

theorem placeholders_doubled (form : PlaceholderForm) {before : List Char}
    (heven : openRun before % 2 = 0) (rest : List Char) :
    placeholders form before ('\x7b' :: '\x7b' :: rest) =
      placeholders form (before ++ ['\x7b', '\x7b']) rest := by
  have hahead : bodyAhead ('\x7b' :: rest) = none := by
    cases h : bodyAhead ('\x7b' :: rest) with
    | none => rfl
    | some body =>
        obtain ⟨hbody, behind, hsplit⟩ := bodyAhead_eq_some.mp h
        cases body with
        | nil => exact absurd (List.cons.inj hsplit).1 (by decide)
        | cons c body =>
            obtain ⟨rfl, -⟩ := List.cons.inj hsplit
            exact absurd (hbody '\x7b' (by simp)) (by decide)
  have hodd : ¬(openRun before + 1) % 2 = 0 := by omega
  simp [placeholders, placeholderAt, hahead, hodd]

theorem openRun_doubled {before : List Char} (heven : openRun before % 2 = 0) :
    openRun (before ++ ['\x7b', '\x7b']) % 2 = 0 := by
  have hsplit : before ++ ['\x7b', '\x7b'] = before ++ ['\x7b'] ++ ['\x7b'] := by simp
  rw [hsplit, openRun_append_open, openRun_append_open]
  omega

theorem placeholders_escape_append (form : PlaceholderForm) (text : List Char)
    {before : List Char} (heven : openRun before % 2 = 0) (rest : List Char) :
    openRun (before ++ escape text) % 2 = 0 ∧
      placeholders form before (escape text ++ rest) =
        placeholders form (before ++ escape text) rest := by
  induction text generalizing before with
  | nil => simpa [escape] using heven
  | cons c text ih =>
      by_cases hopen : c = '\x7b'
      · subst c
        obtain ⟨hrun, hfound⟩ := ih (openRun_doubled heven)
        have hesc : escape ('\x7b' :: text) = '\x7b' :: '\x7b' :: escape text := rfl
        rw [hesc, List.cons_append, List.cons_append, placeholders_doubled form heven, hfound]
        simpa using hrun
      · by_cases hclose : c = '\x7d'
        · subst c
          obtain ⟨hrun, hfound⟩ := ih (openRun_append_even fun h => hopen h.1)
          have hesc : escape ('\x7d' :: text) = '\x7d' :: '\x7d' :: escape text := rfl
          rw [hesc, List.cons_append, List.cons_append, placeholders_cons_of_ne form _ _ hopen,
            placeholders_cons_of_ne form _ _ hopen, hfound]
          simpa using hrun
        · obtain ⟨hrun, hfound⟩ := ih (openRun_append_even fun h => hopen h.1)
          have hesc : escape (c :: text) = c :: escape text := by
            rw [escape, if_neg]
            simp [isBrace_eq_false.mpr ⟨hopen, hclose⟩]
          rw [hesc, List.cons_append, placeholders_cons_of_ne form _ _ hopen, hfound]
          simpa using hrun

theorem Field.Plain.body_plain {field : Field} (h : field.Plain) :
    ∀ c ∈ field.body, isBrace c = false := by
  intro c hc
  rcases List.mem_append.mp hc with hc | hc
  · exact h.alias_plain c hc
  · rcases List.mem_cons.mp hc with rfl | hc
    · rfl
    · exact (h.type_plain c hc).1

theorem Field.Plain.splitBody {field : Field} (h : field.Plain) :
    splitBody .typed field.body = some (field.aliasName.toList, field.type.toList) := by
  have hne : ∀ {text : String}, text ≠ "" → text.toList ≠ [] := fun htext hnil =>
    htext (String.toList_eq_nil_iff.mp hnil)
  refine splitBody_typed.mpr ⟨rfl, hne h.alias_ne, hne h.type_ne, ?_⟩
  intro hcolon
  exact (h.type_plain _ (List.dropLast_subset _ hcolon)).2 rfl

theorem placeholders_field {field : Field} (h : field.Plain) {before : List Char}
    (heven : openRun before % 2 = 0) (rest : List Char) :
    openRun (before ++ field.placeholder) % 2 = 0 ∧
      placeholders .typed before (field.placeholder ++ rest) =
        ⟨field.aliasName, field.type, byteLength before, byteLength field.placeholder⟩
          :: placeholders .typed (before ++ field.placeholder) rest := by
  have henclosed : field.placeholder = enclosed field.body := rfl
  rw [henclosed, openRun_append_enclosed, byteLength_enclosed,
    placeholders_enclosed heven h.body_plain h.splitBody, String.ofList_toList,
    String.ofList_toList]
  exact ⟨rfl, rfl⟩

theorem placeholders_writtenChars {first : List Char} {fields : List Field}
    (h : ∀ field ∈ fields, field.Plain) {before : List Char} (heven : openRun before % 2 = 0) :
    placeholders .typed before (writtenChars first fields) =
      foundFrom (byteLength before) first fields := by
  induction fields generalizing first before with
  | nil =>
      have hfound := (placeholders_escape_append .typed first heven []).2
      rw [List.append_nil] at hfound
      rw [writtenChars, hfound]
      rfl
  | cons field fields ih =>
      obtain ⟨hrun, hescape⟩ := placeholders_escape_append .typed first heven
        (field.placeholder ++ writtenChars field.literal.toList fields)
      obtain ⟨hrun', hfield⟩ := placeholders_field (h field (by simp)) hrun
        (writtenChars field.literal.toList fields)
      rw [writtenChars, hescape, hfield, ih (fun f hf => h f (by simp [hf])) hrun', foundFrom]
      simp only [byteLength_append]

theorem tokenize_written (first : String) {fields : List Field}
    (h : ∀ field ∈ fields, field.Plain) :
    tokenize (written first fields) = foundFrom 0 first.toList fields := by
  rw [tokenize, scan_eq, written, String.toList_ofList]
  exact placeholders_writtenChars h rfl

theorem map_foundFrom (offset : Nat) (first : List Char) (fields : List Field) :
    (foundFrom offset first fields).map (fun found => (found.aliasName, found.type)) =
      fields.map fun field => (field.aliasName, field.type) := by
  induction fields generalizing offset first with
  | nil => rfl
  | cons field fields ih => rw [foundFrom, List.map_cons, List.map_cons, ih]

theorem outside_foundFrom (offset : Nat) (first : String) (fields : List Field) :
    outside offset (writtenChars first.toList fields) (foundFrom offset first.toList fields) =
      (literals first fields).map escape := by
  induction fields generalizing offset first with
  | nil => rfl
  | cons field fields ih =>
      have hstop : offset + byteLength (escape first.toList) + byteLength field.placeholder - offset =
          byteLength (escape first.toList ++ field.placeholder) := by
        rw [byteLength_append]
        omega
      rw [foundFrom, writtenChars, outside, Placeholder.stop, Nat.add_sub_cancel_left,
        takeBytes_append, hstop, ← List.append_assoc, dropBytes_append, ih]
      rfl

theorem exists_parse_written {lookup : Lookup} {location : Location} {first : String}
    {fields : List Field} (hne : fields ≠ []) (h : ∀ field ∈ fields, field.Plain)
    (htypes : ∀ field ∈ fields, ∃ type, lookup.resolve location field.type = .ok type) :
    ∃ template, Template.parse lookup location (written first fields) = .ok template := by
  have hfound := tokenize_written first h
  have hmap := map_foundFrom 0 first.toList fields
  rw [← hfound] at hmap
  have hresolve : ∀ a ∈ tokenize (written first fields),
      ∃ type, lookup.resolve location a.type = .ok type := by
    intro a ha
    have hmem : (a.aliasName, a.type) ∈ fields.map fun field => (field.aliasName, field.type) := by
      rw [← hmap]
      exact List.mem_map_of_mem ha
    obtain ⟨field, hfield, he⟩ := List.mem_map.mp hmem
    rw [← (Prod.mk.inj he).2]
    exact htypes field hfield
  obtain ⟨⟨text, slots⟩, hnormal⟩ := exists_normalize_eq_ok hresolve 0 0
    (written first fields).toList
  refine ⟨_, parse_eq_ok.mpr ⟨?_, text, slots, hnormal, rfl⟩⟩
  intro hnil
  rw [hnil, List.map_nil, eq_comm, List.map_eq_nil_iff] at hmap
  exact hne hmap

theorem map_unescape_literals (first : String) (fields : List Field) :
    ((literals first fields).map escape).map unescape = literals first fields := by
  rw [List.map_map]
  exact (List.map_congr_left fun text _ => unescape_escape text).trans (List.map_id _)

/-- Literal texts whose braces are doubled come back as they were, with the arguments between them. -/
theorem written_renders (lookup : Lookup) (location : Location) (first : String)
    {fields : List Field} (hne : fields ≠ []) (h : ∀ field ∈ fields, field.Plain)
    (htypes : ∀ field ∈ fields, ∃ type, lookup.resolve location field.type = .ok type) :
    (tokenize (written first fields)).map (fun found => (found.aliasName, found.type)) =
        fields.map (fun field => (field.aliasName, field.type)) ∧
      ∃ template, Template.parse lookup location (written first fields) = .ok template ∧
        ∀ values, values.length = fields.length →
          (readFormat (formatString template).toList).bind (fill · values) =
            some (weave (literals first fields) values) := by
  refine ⟨by rw [tokenize_written first h, map_foundFrom], ?_⟩
  obtain ⟨template, hparse⟩ := exists_parse_written hne h htypes
  refine ⟨template, hparse, ?_⟩
  intro values hvalues
  have hgaps : template.gaps = (literals first fields).map escape := by
    rw [gaps_of_parse hparse, tokenize_written first h, written, String.toList_ofList,
      outside_foundFrom]
  have hlaid := parse_laid hparse
  rw [← gaps_of_parse hparse] at hlaid
  have hlength : template.gaps.length = values.length + 1 := by
    rw [hgaps, hvalues]
    simp [literals]
  rw [readFormat_formatString hlaid, Option.bind_some, fill_pieces hlength, hgaps,
    map_unescape_literals]

theorem written_renders_touching :
    (tokenize (written "\x7b" [⟨"a:b", "u32", "\x7d\x7b"⟩, ⟨":", "T", ""⟩])).map
        (fun found => (found.aliasName, found.type)) = [("a:b", "u32"), (":", "T")] ∧
      ∃ template,
        Template.parse .plain ⟨"crate", []⟩
          (written "\x7b" [⟨"a:b", "u32", "\x7d\x7b"⟩, ⟨":", "T", ""⟩]) = .ok template ∧
        (readFormat (formatString template).toList).bind (fill · ["1".toList, "2".toList]) =
          some "\x7b1\x7d\x7b2".toList := by
  have hplain : ∀ field ∈ ([⟨"a:b", "u32", "\x7d\x7b"⟩, ⟨":", "T", ""⟩] : List Field),
      field.Plain := by
    intro field hfield
    simp only [List.mem_cons, List.not_mem_nil, or_false] at hfield
    rcases hfield with rfl | rfl
    · exact ⟨by decide, by simp [isBrace], by decide, by simp [isBrace]⟩
    · exact ⟨by decide, by simp [isBrace], by decide, by simp [isBrace]⟩
  obtain ⟨hfound, template, hparse, hrender⟩ := written_renders .plain ⟨"crate", []⟩ "\x7b"
    (by simp) hplain (fun field _ => ⟨_, rfl⟩)
  exact ⟨hfound, template, hparse, (hrender ["1".toList, "2".toList] rfl).trans (by decide)⟩

end TypedLogging.Emission
