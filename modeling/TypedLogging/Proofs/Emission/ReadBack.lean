import TypedLogging.Proofs.Emission.Identifier
import TypedLogging.Proofs.Emission.Printed
import TypedLogging.Proofs.Source.Visibility

namespace TypedLogging.Emission

open Source (Code IsVisibility ReadsAs Skips TokenTree expect_eq_none legible_of_isIdent legible_words
  skips_break skips_comment tells_name words)
open Source.Code (tells_expect)
open Source.Lexer (IsIdent)
open Source.Reading (expect group many name orEnd)

def Extension.asInterface (extension : Extension) : Interface where
  name := extension.traitName
  signatures := extension.interface.map (·.asFunction receiver none)
  implemented := extension.traitName
  methods := extension.interface.map fun helper => helper.asFunction receiver (some helper.body)

/-- What is read back of an extension. -/
def Extension.layout (extension : Extension) : Layout where
  type := extension.typeName
  constants := extension.helpers.map (·.asConstant)
  functions := extension.generic.map fun helper => helper.asFunction [] (some helper.body)
  interface := if extension.interface.isEmpty then none else some extension.asInterface

structure Extension.IsPrintable (extension : Extension) : Prop where
  type : IsIdent extension.typeName
  trait : IsIdent extension.traitName
  visible : IsVisibility extension.visible
  helpers : ∀ helper ∈ extension.helpers, helper.IsPrintable

section Ends

variable {α β : Type} {crate visible : Code} {target : String} {trees : List TokenTree}

theorem run_bind_eq_none {reading : Source.Reading α} {next : α → Source.Reading β} (h : reading.run trees = none) :
    (reading >>= next).run trees = none := by
  rw [StateT.run_bind, h]
  rfl

theorem documentation_nil : Read.documentation.run [] = none := by
  have hmark : Code.trees (words ["#"]) = [.punct '#' false] := by decide
  exact run_bind_eq_none (expect_eq_none (by simp [hmark]))

theorem method_nil : (Read.method crate target).run [] = none := by
  have hmark : Code.trees (words ["fn"]) = [.ident "fn"] := by decide
  exact run_bind_eq_none (run_bind_eq_none (expect_eq_none (by simp [hmark])))

theorem trees_function {helper : Helper} (hcrate : crate.Legible) (hvisible : visible.Legible)
    (h : helper.IsPrintable) : ∃ more, (functionCode crate visible target helper).trees =
      (docAttribute helper.doc).trees ++ (visible.trees ++ .ident "fn" :: more) := by
  have hcode : functionCode crate visible target helper = docAttribute helper.doc ++ (visible ++
      (.word "fn" :: (words [helper.method] ++ ([parens (paramsCode helper)] ++
        [braces (bodyCode crate target helper.body)])))) := by
    simp [functionCode, helperBody, braces, parens, words]
  have hdoc := (tells_documentation helper.doc : Code.Tells _ [] _ _).legible
  have hmore : Code.Legible (words [helper.method] ++ ([parens (paramsCode helper)] ++
      [braces (bodyCode crate target helper.body)])) :=
    (legible_of_isIdent h.method).append (((legible_paramsCode h).group .paren).append
      ((tells_body hcrate h : Code.Tells _ [] (Read.body crate target) _).legible.group .brace))
  have hfn : IsIdent "fn" := by decide
  have hbehind := (legible_of_isIdent hfn).append hmore
  refine ⟨Code.trees (words [helper.method] ++ ([parens (paramsCode helper)] ++
    [braces (bodyCode crate target helper.body)])), ?_⟩
  rw [hcode, ← List.singleton_append, Code.trees_append hdoc (hvisible.append hbehind),
    Code.trees_append hvisible hbehind, List.singleton_append, trees_cons_name hfn hmore]

theorem constant_functions {helpers : List Helper} (hcrate : crate.Legible) (hvisible : IsVisibility visible)
    (h : ∀ helper ∈ helpers, helper.IsPrintable) :
    Read.constant.run (Code.trees (helpers.flatMap (functionCode crate visible target)) ++ []) = none := by
  cases helpers with
  | nil =>
      rw [List.flatMap_nil, Code.trees_nil]
      exact run_bind_eq_none documentation_nil
  | cons helper rest =>
      rw [List.forall_mem_cons] at h
      have hlegible : ∀ {other : Helper}, other.IsPrintable →
          (functionCode crate visible target other).Legible := fun hother =>
        (tells_function hcrate hvisible.legible hother : Code.Tells _ [] _ _).legible
      have hrest : Code.Legible (rest.flatMap (functionCode crate visible target)) :=
        Code.legible_flatMap fun other hother => hlegible (h.2 other hother)
      obtain ⟨more, hmore⟩ := trees_function hcrate hvisible.legible h.1
      rw [List.flatMap_cons, Code.trees_append (hlegible h.1) hrest, hmore,
        List.append_nil, List.append_assoc, List.append_assoc, List.cons_append, Read.constant,
        StateT.run_bind, (tells_documentation helper.doc).run_eq, Option.bind_eq_bind, Option.bind_some]
      exact run_bind_eq_none (expect_eq_none hvisible.not_constant)

end Ends

section Extensions

variable {crate : Code} {behind : List TokenTree} {extension : Extension}

theorem Extension.IsPrintable.generic (h : extension.IsPrintable) :
    ∀ helper ∈ extension.generic, helper.IsPrintable :=
  fun helper hhelper => h.helpers helper (List.mem_of_mem_filter hhelper)

theorem Extension.IsPrintable.interface (h : extension.IsPrintable) :
    ∀ helper ∈ extension.interface, helper.IsPrintable :=
  fun helper hhelper => h.helpers helper (List.mem_of_mem_filter hhelper)

theorem tells_members (hcrate : crate.Legible) (h : extension.IsPrintable) :
    Code.Tells (extension.helpers.flatMap constantCode
        ++ extension.generic.flatMap (functionCode crate extension.visible extension.typePath)) []
      (Read.members crate extension.visible extension.typePath)
      (extension.layout.constants, extension.layout.functions) := by
  rw [Read.members]
  refine (Code.tells_many (fun helper hhelper behind => tells_constant (h.helpers helper hhelper))
    (run_bind_eq_none documentation_nil) (constant_functions hcrate h.visible h.generic)).bind ?_
  exact (Code.tells_many (fun helper hhelper behind => tells_function hcrate h.visible.legible
    (h.generic helper hhelper)) (run_bind_eq_none documentation_nil)
    (run_bind_eq_none documentation_nil)).map _

theorem tells_trait (h : extension.IsPrintable) :
    extension.traitCode.Tells behind (Read.traitItem extension.visible)
      (extension.traitName, extension.asInterface.signatures) := by
  have hcode : extension.traitCode = docAttribute extension.traitDoc ++ (extension.visible ++
      (words ["trait"] ++ (words [extension.traitName] ++
        [braces (extension.interface.flatMap signatureCode)]))) := by
    simp [Extension.traitCode, braces, words]
  have hsignatures : Code.Tells (extension.interface.flatMap signatureCode) [] (many Read.signature)
      extension.asInterface.signatures :=
    Code.tells_many (fun helper hhelper _ => tells_signature (h.interface helper hhelper))
      (run_bind_eq_none documentation_nil) (run_bind_eq_none documentation_nil)
  rw [hcode, Read.traitItem]
  exact (tells_documentation _).bind ((tells_expect h.visible.legible).bind
    ((tells_words (by decide)).bind ((tells_name h.trait).bind ((hsignatures.group _).map _))))

theorem tells_traitImpl (hcrate : crate.Legible) (h : extension.IsPrintable) :
    (extension.traitImplCode crate).Tells behind (Read.traitImpl crate extension.typePath)
      (extension.traitName, extension.asInterface.methods) := by
  have hcode : extension.traitImplCode crate = words ["impl", "<", "L", ":"] ++
      ((crate ++ words ["::", "Log"]) ++ (words ["+", "?", "Sized", ">"] ++ (words [extension.traitName] ++
        (words ["for", "L"] ++
          [braces (extension.interface.flatMap (methodCode crate extension.typePath))])))) := by
    simp [Extension.traitImplCode, below, braces, words]
  have hmethods : Code.Tells (extension.interface.flatMap (methodCode crate extension.typePath)) []
      (many (Read.method crate extension.typePath)) extension.asInterface.methods :=
    Code.tells_many (fun helper hhelper _ => tells_method hcrate (h.interface helper hhelper))
      method_nil method_nil
  rw [hcode, Read.traitImpl]
  exact (tells_words (by decide)).bind ((tells_inCrate hcrate (by decide)).bind
    ((tells_words (by decide)).bind ((tells_name h.trait).bind
      ((tells_words (by decide)).bind ((hmethods.group _).map _)))))

theorem tells_interface (hcrate : crate.Legible) (h : extension.IsPrintable) :
    Code.Tells (extension.traitCode ++ extension.traitImplCode crate) behind
      (Read.interface crate extension.visible extension.typePath) extension.asInterface := by
  rw [Read.interface]
  exact (tells_trait h).bind ((tells_traitImpl hcrate h).map _)

/-- The code of a file, whatever stands between its items. -/
def Extension.code (crate : Code) (extension : Extension) : Code :=
  extension.inherentCode crate ++
    if extension.interface.isEmpty then [] else extension.traitCode ++ extension.traitImplCode crate

theorem tells_inherent (hcrate : crate.Legible) (h : extension.IsPrintable) :
    (extension.inherentCode crate).Tells behind
      (Read.inherent crate extension.visible extension.typePath)
      (extension.typeName, extension.layout.constants, extension.layout.functions) := by
  have hcode : extension.inherentCode crate = words ["impl"] ++ (words [extension.typeName] ++
      [braces (extension.helpers.flatMap constantCode
        ++ extension.generic.flatMap (functionCode crate extension.visible extension.typePath))]) := rfl
  rw [hcode, Read.inherent]
  exact (tells_words (by decide)).bind ((tells_name h.type).bind
    (((tells_members hcrate h).group _).map _))

theorem tells_layout (hcrate : crate.Legible) (h : extension.IsPrintable) :
    (extension.code crate).Tells [] (Read.layout crate extension.visible extension.typePath)
      extension.layout := by
  have hinterface : Code.Tells
      (if extension.interface.isEmpty then [] else extension.traitCode ++ extension.traitImplCode crate) []
      (orEnd (Read.interface crate extension.visible extension.typePath)) extension.layout.interface := by
    rw [Extension.layout]
    cases extension.interface.isEmpty with
    | true => exact Code.tells_end
    | false => exact (tells_interface hcrate h).orEnd (run_bind_eq_none (run_bind_eq_none documentation_nil))
  rw [Extension.code, Read.layout]
  exact (tells_inherent hcrate h).bind (hinterface.map _)

end Extensions

section Texts

variable {crate visible code : Code} {target text : String} {layout : Layout} {extension : Extension}

theorem Layout.ofText?_eq_some (hread : ReadsAs text.toList code.trees)
    (h : code.Tells [] (Read.layout crate visible target) layout) :
    Layout.ofText? crate visible target text = some layout := by
  have hrun := h.run_eq
  rw [List.append_nil] at hrun
  rw [Layout.ofText?, Source.readText?_of_readsAs hread, Option.bind_eq_bind, Option.bind_some, hrun]
  rfl

theorem readsAs_contents (hcrate : crate.Legible) (h : extension.IsPrintable) :
    ReadsAs (extension.contents crate false).toList (extension.code crate).trees := by
  have hbreaks : Skips ['\n', '\n'] := skips_break.append skips_break
  have hbreak : '\n' ∈ Source.Lexer.stops := by decide
  have hinherent := (tells_inherent hcrate h : Code.Tells _ [] _ _).legible
  have htrait := (tells_trait h : Code.Tells _ [] _ _).legible
  have htraitImpl := (tells_traitImpl hcrate h : Code.Tells _ [] _ _).legible
  rw [Extension.contents, Extension.code]
  cases extension.interface.isEmpty with
  | true =>
      have hread := hinherent.gives.readsAs.gap skips_break hbreak Source.readsAs_nil
      simpa using hread
  | false =>
      have hread := hinherent.gives.readsAs.gap hbreaks hbreak (htrait.gives.readsAs.gap hbreaks hbreak
        (htraitImpl.gives.readsAs.gap skips_break hbreak Source.readsAs_nil))
      simp only [Bool.false_eq_true, if_false]
      rw [Code.trees_append hinherent (htrait.append htraitImpl),
        Code.trees_append htrait htraitImpl]
      simpa using hread

theorem Extension.toList_header (extension : Extension) : extension.header.toList =
    ("// ".toList ++ ("@generated by logmsg from the logger messages on `".toList ++
      (extension.typePath.toList ++ "`.".toList)) ++ ['\n']) ++
    ("// ".toList ++ "Do not edit by hand.".toList ++ ['\n'] ++ ['\n']) := by
  have hfirst : "// @generated by logmsg from the logger messages on `".toList =
      "// ".toList ++ "@generated by logmsg from the logger messages on `".toList := by decide
  have hclose : "`.\n".toList = "`.".toList ++ ['\n'] := by decide
  have hsecond : "// Do not edit by hand.\n\n".toList =
      "// ".toList ++ "Do not edit by hand.".toList ++ ['\n'] ++ ['\n'] := by decide
  unfold Extension.header
  simp only [toString, String.toList_append, hfirst, hclose, hsecond, List.append_assoc]

theorem skips_header (h : '\n' ∉ extension.typePath.toList) : Skips extension.header.toList := by
  have hpath : '\n' ∉ "@generated by logmsg from the logger messages on `".toList ++
      (extension.typePath.toList ++ "`.".toList) := by
    simp only [List.mem_append, not_or]
    exact ⟨by decide, h, by decide⟩
  have hplain : '\n' ∉ "Do not edit by hand.".toList := by decide
  rw [extension.toList_header]
  exact (skips_comment hpath).append ((skips_comment hplain).append skips_break)

theorem toList_contents (crate : Code) (extension : Extension) :
    (extension.contents crate true).toList =
      extension.header.toList ++ (extension.contents crate false).toList := by
  rw [← String.toList_append]
  simp only [Extension.contents, if_true, Bool.false_eq_true, if_false, String.empty_append,
    String.append_assoc]

theorem readsAs_headed (hcrate : crate.Legible) (h : extension.IsPrintable)
    (hpath : '\n' ∉ extension.typePath.toList) :
    ReadsAs (extension.contents crate true).toList (extension.code crate).trees := by
  have hbegins : ¬['/', '*'] <+: extension.header.toList ++ (extension.contents crate false).toList := by
    rw [extension.toList_header]
    simp
  rw [toList_contents]
  exact (readsAs_contents hcrate h).behind (skips_header hpath) hbegins

/-- Code on a line of its own in the path of the type is read in front of the items. -/
theorem readsAs_broken {before after : List Char} (hcrate : crate.Legible) (h : extension.IsPrintable)
    (hcode : code.Legible) (hbefore : '\n' ∉ before) (hafter : '\n' ∉ after)
    (hpath : extension.typePath.toList =
      before ++ '\n' :: ((Code.text code).toList ++ '\n' :: ("// ".toList ++ after))) :
    ReadsAs (extension.contents crate true).toList (code.trees ++ (extension.code crate).trees) := by
  have hopening : '\n' ∉ "@generated by logmsg from the logger messages on `".toList ++ before := by
    rw [List.mem_append, not_or]
    exact ⟨by decide, hbefore⟩
  have hclosing : '\n' ∉ after ++ "`.".toList := by
    rw [List.mem_append, not_or]
    exact ⟨hafter, by decide⟩
  have hplain : '\n' ∉ "Do not edit by hand.".toList := by decide
  have hgap := skips_break.append ((skips_comment hclosing).append ((skips_comment hplain).append skips_break))
  have hread := (hcode.gives.readsAs.gap hgap (by decide) (readsAs_contents hcrate h)).behind
    (skips_comment hopening) (by simp)
  rw [toList_contents, extension.toList_header, hpath]
  simpa using hread

end Texts

section Emitting

open Outcome

variable {binding : Binding} {eventId : EventId} {taken : List String} {helper : Helper} {name : String}

theorem IsPlain.isIdent (h : IsPlain name) : IsIdent name :=
  Source.Lexer.isIdent_of_isIdentifierText h.isIdentifierText

theorem isIdent_levelName {severity : Severity} (h : levelName? severity = some name) : IsIdent name := by
  have hnames : ∀ name ∈ ["Trace", "Debug", "Info", "Warn", "Error"], IsIdent name := by decide
  refine hnames name ?_
  cases severity <;> cases h <;> decide

theorem typeOf_eq_ok {slot : Slot} {type : Code} :
    typeOf binding slot = .ok type ↔ Source.typeOfText? slot.type.qualified = some type := by
  rw [typeOf]
  cases Source.typeOfText? slot.type.qualified <;> simp

theorem isPrintable_of_helperOf (h : helperOf binding eventId taken = .ok helper) : helper.IsPrintable := by
  have hlevel := level_of_helperOf h
  obtain ⟨value, types, level, -, htypes, hconstant, -, rfl⟩ := helperOf_eq_ok.mp h
  have hlegible : ∀ type ∈ types, type.Legible :=
    ((List.forall₂_and_left _ _).mp ((forall₂_of_mapM_eq_ok htypes).flip.imp fun _ _ htype =>
      ⟨Source.legible_of_typeOfText? (typeOf_eq_ok.mp htype), htype⟩)).1
  refine {
    constant := Source.Lexer.isIdent_of_isIdentifierText hconstant
    method := (isPlain_methodOf binding taken).isIdent
    error := (isPlain_error.unique _).isIdent
    params := ?_
    level := fun name hname => isIdent_levelName (hlevel.symm.trans hname) }
  intro param hparam
  obtain ⟨⟨name, type⟩, hzip, rfl⟩ := List.mem_map.mp hparam
  obtain ⟨hname, htype⟩ := List.of_mem_zip hzip
  exact ⟨(isPlain_of_mem_paramNames hname).isIdent, hlegible type htype⟩

theorem isPrintable_of_helpersFrom {ordinal index : Nat} {bindings : List Binding} {helpers : List Helper}
    (h : helpersFrom ordinal index taken bindings = .ok helpers) :
    ∀ helper ∈ helpers, helper.IsPrintable := by
  induction bindings generalizing index taken helpers with
  | nil =>
      cases h
      exact List.forall_mem_nil _
  | cons binding rest ih =>
      obtain ⟨helper, more, hhelper, hmore, rfl⟩ := helpersFrom_cons_eq_ok.mp h
      exact List.forall_mem_cons.mpr ⟨isPrintable_of_helperOf hhelper, ih hmore⟩

theorem visibleOf_isVisibility (modifiers : String) : IsVisibility (visibleOf modifiers) := by
  rw [visibleOf]
  cases hread : Source.visibilityOfText? modifiers with
  | none => exact .inherited
  | some visible => exact Source.isVisibility_of_text hread

theorem helpers_of_extensionOf {ordinal : Nat} {declaration : Annotated} {extension : Extension}
    (h : extensionOf ordinal declaration = .ok extension) :
    helpersFrom ordinal 0 [] declaration.bindings = .ok extension.helpers := by
  obtain ⟨helpers, hhelpers, h⟩ := bind_eq_ok.mp h
  cases h
  exact hhelpers

theorem isPrintable_of_extensionOf {ordinal : Nat} {declaration : Annotated} {extension : Extension}
    (h : extensionOf ordinal declaration = .ok extension) : extension.IsPrintable := by
  obtain ⟨helpers, hhelpers, h⟩ := bind_eq_ok.mp h
  cases h
  exact {
    type := (isPlain_sanitize declaration.typeName).isIdent
    trait := (isPlain_sanitize declaration.typeName).append_loggerMessages.isIdent
    visible := visibleOf_isVisibility _
    helpers := isPrintable_of_helpersFrom hhelpers }

end Emitting

end TypedLogging.Emission

namespace TypedLogging.Emitter

open Emission Outcome
open Source (words)

/-- The file is the text of the extension, and the layout is what is read back of it. A line break in the
path of the type ends the comment above the items, so that the file is read only without one. -/
structure Prints (emitter : Emitter) (extension : Extension) (file : GeneratedFile) (layout : Layout) :
    Prop where
  typePath : file.typePath = extension.typePath
  contents : file.contents = extension.contents emitter.logCrate emitter.includeHeader
  items : Layout.ofText? emitter.logCrate extension.visible extension.typePath
    (extension.contents emitter.logCrate false) = some layout
  whole : (emitter.includeHeader = true → '\n' ∉ file.typePath.toList) →
    Layout.ofText? emitter.logCrate extension.visible extension.typePath file.contents = some layout

variable {emitter : Emitter} {ordinal : Nat} {declaration : Annotated} {file : GeneratedFile}

theorem legible_logCrate (emitter : Emitter) : emitter.logCrate.Legible := by
  obtain ⟨text, htext⟩ := emitter.isPath
  exact Source.legible_of_pathOfText? htext

/-- A file that is emitted is read back as what the messages of the declaration were made into. -/
theorem prints_of_emit (h : emitter.emit ordinal declaration = .ok file) :
    ∃ extension, extensionOf ordinal declaration = .ok extension ∧
      emitter.Prints extension file extension.layout := by
  obtain ⟨extension, hextension, h⟩ := bind_eq_ok.mp h
  cases h
  have hcrate := emitter.legible_logCrate
  have hprintable := isPrintable_of_extensionOf hextension
  have hlayout := tells_layout hcrate hprintable
  have hitems := Layout.ofText?_eq_some (readsAs_contents hcrate hprintable) hlayout
  refine ⟨extension, hextension, rfl, rfl, hitems, fun hpath => ?_⟩
  cases hheader : emitter.includeHeader with
  | false => exact hitems
  | true => exact Layout.ofText?_eq_some (readsAs_headed hcrate hprintable (hpath hheader)) hlayout

theorem isPath_log : Source.pathOfText? "log" = some (words ["log"]) := rfl

def plain : Emitter := ⟨true, words ["log"], "log", isPath_log⟩

theorem includeHeader_of_ofConfig {config : Config} (h : ofConfig config = .ok emitter) :
    emitter.includeHeader = config.includeHeader := by
  unfold ofConfig at h
  split at h
  · cases h
    rfl
  · cases h

theorem ofConfig_default : ofConfig .default = .ok plain := rfl

end TypedLogging.Emitter
