import TypedLogging.Proofs.Emission.Checked
import TypedLogging.Proofs.Emission.Constants
import TypedLogging.Proofs.Source.Grammar.Level

namespace TypedLogging

namespace Emission

open Discovery (fileFindings symbolTable)
open Outcome
open Source (IsItemName)
open Text (isAsciiAlphanumeric isAsciiDigit)

section Blurring

variable {name : String}

/-- The characters that are left of a name when all but ASCII letters and digits count as underscores. -/
def blurredChars (name : List Char) : List Char :=
  name.map fun c => if isAsciiAlphanumeric c then c else '_'

/-- A blurred name. A single underscore, which is no name, is doubled. -/
def blurred (name : String) : String :=
  if blurredChars name.toList = ['_'] then "__" else String.ofList (blurredChars name.toList)

theorem blurredChars_eq_self {name : List Char} (h : ∀ c ∈ name, isPlainChar c = true) :
    blurredChars name = name := by
  rw [blurredChars]
  conv_rhs => rw [← List.map_id' name]
  refine List.map_congr_left fun c hc => ?_
  rcases (Bool.or_eq_true _ _).mp (h c hc) with halphanumeric | hmark
  · exact if_pos halphanumeric
  · rw [eq_of_beq hmark]
    rfl

theorem begins_of_isItemName (h : IsItemName name) :
    ∃ c rest, name.toList = c :: rest ∧ isAsciiDigit c = false := by
  obtain ⟨c, rest, hname, hstart⟩ := h.1.spells.head
  exact ⟨c, rest, hname, Source.Lexer.isAsciiDigit_of_starts hstart⟩

theorem plainName_of_isItemName (h : IsItemName name) :
    plainName name.toList = blurredChars name.toList := by
  obtain ⟨c, rest, hname, hdigit⟩ := begins_of_isItemName h
  have hblurred : isAsciiDigit (if isAsciiAlphanumeric c then c else '_') = false := by
    split
    · exact hdigit
    · rfl
  rw [plainName, hname, blurredChars, List.map_cons]
  exact if_neg (by simpa using hblurred)

theorem isReserved_blurredChars (h : IsItemName name) :
    Source.isReserved (String.ofList (blurredChars name.toList)) = true ↔
      blurredChars name.toList = ['_'] := by
  constructor
  · intro hreserved
    by_contra hne
    have hword : String.ofList (blurredChars name.toList) ≠ "_" := by
      rwa [ne_eq, ← String.toList_inj, String.toList_ofList]
    by_cases hmark : '_' ∈ blurredChars name.toList
    · rw [isReserved_of_underscore (by rwa [String.toList_ofList]) hword] at hreserved
      cases hreserved
    · rw [blurredChars, map_plain (plain_of_map hmark), String.ofList_toList, h.2] at hreserved
      cases hreserved
  · intro he
    rw [he]
    decide

theorem sanitize_of_isItemName (h : IsItemName name) : sanitize name = blurred name := by
  have hreserved := isReserved_blurredChars h
  rw [sanitize, blurred, plainName_of_isItemName h]
  by_cases he : blurredChars name.toList = ['_']
  · rw [if_pos (hreserved.mpr he), if_pos he, he]
    rfl
  · rw [if_neg (fun hname => he (hreserved.mp hname)), if_neg he]

/-- A name is kept exactly if it consists of ASCII letters, digits and underscores. -/
theorem sanitize_eq_self_iff (h : IsItemName name) :
    sanitize name = name ↔ ∀ c ∈ name.toList, isPlainChar c = true := by
  constructor
  · intro he
    rw [← he]
    exact (isPlain_sanitize name).chars
  · intro hchars
    have hself := blurredChars_eq_self hchars
    have hne : blurredChars name.toList ≠ ['_'] := by
      intro hmark
      have hreserved := (isReserved_blurredChars h).mpr hmark
      rw [hself, String.ofList_toList, h.2] at hreserved
      cases hreserved
    rw [sanitize_of_isItemName h, blurred, if_neg hne, hself, String.ofList_toList]

end Blurring

theorem typeName_of_extensionOf {ordinal : Nat} {declaration : Annotated} {extension : Extension}
    (h : extensionOf ordinal declaration = .ok extension) :
    extension.typeName = sanitize declaration.typeName := by
  obtain ⟨helpers, -, hmade⟩ := Outcome.bind_eq_ok.mp h
  rw [← Outcome.pure_eq_ok.mp hmade]

def IsCollectedFrom (config : Config) (text : String) (declaration : Annotated) : Prop :=
  ∃ file here lookup, Source.File.ofText? text = some file ∧
    ∃ found ∈ (fileFindings config here file).declarations,
      declaration ∈ (collect config.qualifiedAttribute lookup found).declarations

theorem typeName_of_mem_collect {name : String} {lookup : Lookup} {found : Declaration}
    {declaration : Annotated} (h : declaration ∈ (collect name lookup found).declarations) :
    declaration.typeName = found.name := by
  have hgives := gives_collect name lookup found
  generalize collect name lookup found = collection at h hgives
  cases hgives with
  | unmatched | missing | disallowed => cases h
  | placed types path further _ _ bindings =>
      dsimp only at h
      split at h
      next => cases h
      next => rw [List.mem_singleton.mp h]

theorem isItemName_of_isCollectedFrom {config : Config} {text : String} {declaration : Annotated}
    (h : IsCollectedFrom config text declaration) : IsItemName declaration.typeName := by
  obtain ⟨file, here, lookup, hfile, found, hfound, hdeclaration⟩ := h
  have hrecorded : found ∈ Discovery.recorded config here file.types :=
    Discovery.declarations_items config here file.items ▸ hfound
  obtain ⟨occurrence, hoccurrence, rfl⟩ := List.mem_map.mp hrecorded
  rw [typeName_of_mem_collect hdeclaration]
  exact Source.isItemName_of_file hfile occurrence (List.mem_of_mem_filter hoccurrence)

def collectedIn (text : String) : List Annotated :=
  ((Source.File.ofText? text).map fun file =>
    let found := fileFindings .default (some "crate") file
    found.declarations.flatMap fun declaration =>
      (collect Config.default.qualifiedAttribute (symbolTable found).lookup declaration).declarations).getD []

theorem isCollectedFrom_of_mem {text : String} {declaration : Annotated}
    (h : declaration ∈ collectedIn text) : IsCollectedFrom .default text declaration := by
  unfold collectedIn at h
  cases hfile : Source.File.ofText? text with
  | none =>
      rw [hfile] at h
      cases h
  | some file =>
      rw [hfile] at h
      obtain ⟨found, hfound, hdeclaration⟩ := List.mem_flatMap.mp h
      exact ⟨file, some "crate", _, hfile, found, hfound, hdeclaration⟩

def typesText (names : List String) : String :=
  String.join (names.map fun name =>
    "#[logger_message(\"Up\",LogLevel::Debug,\"\x7bX:u32\x7d\")]struct " ++ name ++ ";")

def sized (typeName : String) : Annotated := ⟨"crate", [], "", typeName, [plainBinding "Up"]⟩

theorem collectedIn_sizes :
    collectedIn (typesText ["Größe", "Grüße"]) = [sized "Größe", sized "Grüße"] := by
  decide +kernel

/-- A file has one block on a type alone. Its type is the declared one exactly if the name of that
consists of ASCII letters, digits and underscores, and it is the same for two declarations exactly if
their names are once every other character is an underscore. -/
theorem inherentTypes_of_emit {config : Config} {emitter : Emitter} {text otherText : String}
    {declaration other : Annotated} {ordinal position : Nat} {file otherFile : GeneratedFile}
    (hdeclaration : IsCollectedFrom config text declaration)
    (hother : IsCollectedFrom config otherText other)
    (h : emitter.emit ordinal declaration = .ok file)
    (hotherFile : emitter.emit position other = .ok otherFile) :
    ∃ extension otherExtension layout otherLayout,
      extensionOf ordinal declaration = .ok extension ∧
      extensionOf position other = .ok otherExtension ∧
      emitter.Prints extension file layout ∧
      emitter.Prints otherExtension otherFile otherLayout ∧
      (layout.type = declaration.typeName ↔ ∀ c ∈ declaration.typeName.toList, isPlainChar c = true) ∧
      (layout.type = otherLayout.type ↔ blurred declaration.typeName = blurred other.typeName) := by
  have hname := isItemName_of_isCollectedFrom hdeclaration
  have hotherName := isItemName_of_isCollectedFrom hother
  obtain ⟨extension, hextension, hprints⟩ := Emitter.prints_of_emit h
  obtain ⟨otherExtension, hotherExtension, hotherPrints⟩ := Emitter.prints_of_emit hotherFile
  have htype : extension.layout.type = sanitize declaration.typeName := typeName_of_extensionOf hextension
  have hotherType : otherExtension.layout.type = sanitize other.typeName :=
    typeName_of_extensionOf hotherExtension
  refine ⟨extension, otherExtension, extension.layout, otherExtension.layout, hextension,
    hotherExtension, hprints, hotherPrints, ?_, ?_⟩
  · rw [htype, sanitize_eq_self_iff hname]
  · rw [htype, hotherType, sanitize_of_isItemName hname, sanitize_of_isItemName hotherName]

theorem inherentTypes_of_emit_size :
    ∃ file otherFile extension otherExtension layout otherLayout,
      Emitter.plain.emit 0 (sized "Größe") = .ok file ∧
      Emitter.plain.emit 1 (sized "Grüße") = .ok otherFile ∧
      Emitter.plain.Prints extension file layout ∧
      Emitter.plain.Prints otherExtension otherFile otherLayout ∧
      layout.type ≠ "Größe" ∧ layout.type = otherLayout.type := by
  have hfirst : sized "Größe" ∈ collectedIn (typesText ["Größe", "Grüße"]) := by
    simp [collectedIn_sizes]
  have hsecond : sized "Grüße" ∈ collectedIn (typesText ["Größe", "Grüße"]) := by
    simp [collectedIn_sizes]
  obtain ⟨file, hfile⟩ := exists_eq_ok_of_isOk
    (x := Emitter.plain.emit 0 (sized "Größe")) (by decide +kernel)
  obtain ⟨otherFile, hotherFile⟩ := exists_eq_ok_of_isOk
    (x := Emitter.plain.emit 1 (sized "Grüße")) (by decide +kernel)
  obtain ⟨extension, otherExtension, layout, otherLayout, -, -, hprints, hotherPrints, hkept, hsame⟩ :=
    inherentTypes_of_emit (isCollectedFrom_of_mem hfirst) (isCollectedFrom_of_mem hsecond) hfile hotherFile
  have hforeign : 'ö' ∈ (sized "Größe").typeName.toList := by decide +kernel
  exact ⟨file, otherFile, extension, otherExtension, layout, otherLayout, hfile, hotherFile, hprints,
    hotherPrints, fun he => absurd (hkept.mp he 'ö' hforeign) (by decide +kernel),
    hsame.mpr (by decide +kernel)⟩

theorem inherentTypes_clash :
    collectedIn (typesText ["Größe", "Grüße"]) = [sized "Größe", sized "Grüße"] ∧
      ∃ file otherFile extension otherExtension layout otherLayout,
        Emitter.plain.emit 0 (sized "Größe") = .ok file ∧
        Emitter.plain.emit 1 (sized "Grüße") = .ok otherFile ∧
        Emitter.plain.Prints extension file layout ∧
        Emitter.plain.Prints otherExtension otherFile otherLayout ∧
        layout.type = "Gr__e" ∧ otherLayout.type = "Gr__e" := by
  obtain ⟨file, hfile⟩ := exists_eq_ok_of_isOk
    (x := Emitter.plain.emit 0 (sized "Größe")) (by decide +kernel)
  obtain ⟨otherFile, hotherFile⟩ := exists_eq_ok_of_isOk
    (x := Emitter.plain.emit 1 (sized "Grüße")) (by decide +kernel)
  obtain ⟨extension, hextension, hprints⟩ := Emitter.prints_of_emit hfile
  obtain ⟨otherExtension, hotherExtension, hotherPrints⟩ := Emitter.prints_of_emit hotherFile
  refine ⟨collectedIn_sizes, file, otherFile, extension, otherExtension, extension.layout,
    otherExtension.layout, hfile, hotherFile, hprints, hotherPrints, ?_, ?_⟩
  · exact (typeName_of_extensionOf hextension).trans (by decide +kernel)
  · exact (typeName_of_extensionOf hotherExtension).trans (by decide +kernel)

end Emission

end TypedLogging
