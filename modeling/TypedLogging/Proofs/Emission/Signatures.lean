import Mathlib.Data.List.Forall2
import TypedLogging.Proofs.Emission.ConstantNames

namespace TypedLogging.Emission

open Outcome
open Source (Code TokenTree legible_of_isIdent legible_words words)
open Source.Lexer (IsIdent)

def optionalError : List TokenTree :=
  (Source.readText? "Option<&(dyn ::std::error::Error + 'static)>").getD []

/-- A list of parameters: those of placeholders, by reference, and the one of the error. -/
inductive Lists : List TokenTree → List Param → String → Prop
  | error (name : String) : Lists (.ident name :: .punct ':' false :: optionalError) [] name
  | placeholder (param : Param) {trees : List TokenTree} {params : List Param} {error : String}
      (more : Lists trees params error) :
      Lists (.ident param.name :: .punct ':' false :: .punct '&' false ::
        (param.type.trees ++ .punct ',' false :: trees)) (param :: params) error

/-- A function of a helper, with what stands in front of its parameters. -/
structure Function.IsOf (receiver : List TokenTree) (body : Option Body) (function : Function)
    (helper : Helper) : Prop where
  name : function.name = helper.method
  params : ∃ trees, function.params = receiver ++ trees ∧ Lists trees helper.params helper.errorParam
  body : function.body = body

def receiverTrees : List TokenTree := [.punct '&' false, .ident "self", .punct ',' false]

section Lists

theorem lists_error {error : String} (h : IsIdent error) :
    Lists (Code.trees (words [error, ":"] ++ errorType)) [] error := by
  have hcode : words [error, ":"] ++ errorType = .word error :: (words [":"] ++ errorType) := rfl
  have hcolon : Code.Legible (words [":"]) := legible_words (by decide)
  have htype : Code.trees (words [":"] ++ errorType) = .punct ':' false :: optionalError := by
    decide +kernel
  rw [hcode, trees_cons_name h (hcolon.append legible_errorType), htype]
  exact .error error

theorem Lists.cons {param : Param} {more : Code} {params : List Param} {error : String}
    (hname : IsIdent param.name) (htype : param.type.Legible) (hmore : more.Legible)
    (h : Lists more.trees params error) : Lists (Code.trees (paramCode param ++ more)) (param :: params) error := by
  have hcode : paramCode param ++ more =
      .word param.name :: (words [":", "&"] ++ (param.type ++ (words [","] ++ more))) := by
    simp [paramCode, words]
  have hreference : Code.Legible (words [":", "&"]) := legible_words (by decide)
  have hcomma : Code.Legible (words [","]) := legible_words (by decide)
  have hsigns : Code.trees (words [":", "&"]) = [.punct ':' false, .punct '&' false] ∧
      Code.trees (words [","]) = [.punct ',' false] := by decide
  have hrest := htype.append (hcomma.append hmore)
  rw [hcode, trees_cons_name hname (hreference.append hrest), Code.trees_append hreference hrest,
    Code.trees_append htype (hcomma.append hmore), Code.trees_append hcomma hmore, hsigns.1, hsigns.2]
  exact .placeholder param h

theorem lists_paramsCode {helper : Helper} (h : helper.IsPrintable) :
    Lists (paramsCode helper).trees helper.params helper.errorParam := by
  have hall : ∀ params : List Param, (∀ param ∈ params, IsIdent param.name ∧ param.type.Legible) →
      Code.Legible (params.flatMap paramCode ++ (words [helper.errorParam, ":"] ++ errorType)) ∧
        Lists (Code.trees (params.flatMap paramCode ++ (words [helper.errorParam, ":"] ++ errorType)))
          params helper.errorParam := by
    intro params hparams
    induction params with
    | nil => exact ⟨legible_errorParam h.error, lists_error h.error⟩
    | cons param rest ih =>
        rw [List.forall_mem_cons] at hparams
        obtain ⟨hlegible, hlists⟩ := ih hparams.2
        rw [List.flatMap_cons, List.append_assoc]
        exact ⟨(legible_paramCode hparams.1.1 hparams.1.2).append hlegible,
          .cons hparams.1.1 hparams.1.2 hlegible hlists⟩
  rw [paramsCode, List.append_assoc]
  exact (hall helper.params h.params).2

theorem isOf_asFunction {receiver : Code} (hreceiver : receiver.Legible) (body : Helper → Option Body)
    {helpers : List Helper} (h : ∀ helper ∈ helpers, helper.IsPrintable) :
    List.Forall₂ (fun function helper => function.IsOf receiver.trees (body helper) helper)
      (helpers.map fun helper => helper.asFunction receiver (body helper)) helpers := by
  rw [List.forall₂_map_left_iff, List.forall₂_same]
  exact fun helper hhelper => ⟨rfl, ⟨_, Code.trees_append hreceiver (legible_paramsCode (h helper hhelper)),
    lists_paramsCode (h helper hhelper)⟩, rfl⟩

end Lists

theorem forall₂_zip {α β γ : Type} {r : α → β → Prop} {s : α → γ → Prop} {xs : List α}
    {ys : List β} {zs : List γ} (h : List.Forall₂ r xs ys) (h' : List.Forall₂ s xs zs) :
    List.Forall₂ (fun x pair => r x pair.1 ∧ s x pair.2) xs (ys.zip zs) := by
  induction h generalizing zs with
  | nil => exact .nil
  | cons hr _ ih =>
      cases h' with
      | cons hs h' => exact .cons ⟨hr, hs⟩ (ih h')

/-- The name that is made of a text, as it is or with a number. -/
def NamedAfter (text name : String) : Prop :=
  name = sanitize (TypedLogging.snake text) ∨
    ∃ number, 2 ≤ number ∧ name = numbered (sanitize (TypedLogging.snake text)) number

theorem unique_namedAfter (text : String) (taken : List String) :
    NamedAfter text (unique (sanitize (TypedLogging.snake text)) taken) := by
  by_cases htaken : sanitize (TypedLogging.snake text) ∈ taken
  · obtain ⟨number, hnumber, hname, -, -⟩ := unique_of_mem htaken
    exact .inr ⟨number, hnumber, hname⟩
  · exact .inl (unique_of_not_mem htaken)

theorem uniqueAll_namedAfter (texts taken : List String) :
    List.Forall₂ NamedAfter texts
      (uniqueAll taken (texts.map fun text => sanitize (TypedLogging.snake text))) := by
  induction texts generalizing taken with
  | nil => exact .nil
  | cons text rest ih => exact .cons (unique_namedAfter text taken) (ih _)

/-- A helper has what its message asks for, under names that do not clash. -/
structure Helper.Serves (helper : Helper) (binding : Binding) : Prop where
  scope : helper.scope = binding.scope
  method : NamedAfter binding.name helper.method
  constant : helper.constant = constantOf helper.method
  params : List.Forall₂ (fun slot param => NamedAfter slot.aliasName param.name ∧
    Source.typeOfText? slot.type.qualified = some param.type) binding.template.slots helper.params
  distinct : (helper.paramNames ++ [helper.errorParam]).Nodup
  identifiers : ∀ name ∈ helper.method :: helper.constant :: helper.errorParam :: helper.paramNames,
    Source.Literal.isIdentifierText name.toList = true ∧ (IsIdentifier name ↔ name ≠ "gen")

section Serves

variable {binding : Binding} {eventId : EventId} {taken : List String} {helper : Helper}

theorem paramNames_namedAfter (slots : List Slot) :
    List.Forall₂ (fun slot name => NamedAfter slot.aliasName name) slots (paramNames slots) := by
  have h := uniqueAll_namedAfter (slots.map (·.aliasName)) []
  simp only [List.map_map, Function.comp_def, List.forall₂_map_left_iff] at h
  exact h

theorem params_of_helperOf (h : helperOf binding eventId taken = .ok helper) :
    List.Forall₂ (fun slot param => NamedAfter slot.aliasName param.name ∧
      Source.typeOfText? slot.type.qualified = some param.type)
      binding.template.slots helper.params := by
  obtain ⟨value, types, level, -, htypes, -, -, rfl⟩ := helperOf_eq_ok.mp h
  have hread : List.Forall₂ (fun slot type =>
      Source.typeOfText? slot.type.qualified = some type) binding.template.slots types :=
    (forall₂_of_mapM_eq_ok htypes).imp fun _ _ => typeOf_eq_ok.mp
  rw [List.forall₂_map_right_iff]
  exact forall₂_zip (paramNames_namedAfter _) hread

theorem isReserved_constant (method : String) : Source.isReserved (constantOf method) = false := by
  have hlist := toList_constantOf method
  refine isReserved_of_underscore (by simp [hlist]) fun he => ?_
  have hlength := congrArg List.length (hlist.symm.trans (congrArg String.toList he))
  simp at hlength

theorem IsPlain.identifies {name : String} (h : IsPlain name) :
    Source.Literal.isIdentifierText name.toList = true ∧ (IsIdentifier name ↔ name ≠ "gen") :=
  ⟨h.isIdentifierText, isIdentifier_iff_of_free h.isIdentifierText h.free⟩

theorem identifiers_of_helperOf (h : helperOf binding eventId taken = .ok helper) :
    ∀ name ∈ helper.method :: helper.constant :: helper.errorParam :: helper.paramNames,
      Source.Literal.isIdentifierText name.toList = true ∧ (IsIdentifier name ↔ name ≠ "gen") := by
  have hmethod : IsPlain helper.method := by
    rw [(method_of_helperOf h).1]
    exact isPlain_methodOf binding taken
  have herror : IsPlain helper.errorParam := by
    rw [errorParam_of_helperOf h]
    exact isPlain_error.unique _
  have hparams : ∀ name ∈ helper.paramNames, IsPlain name := by
    rw [paramNames_of_helperOf h]
    exact fun name hname => isPlain_of_mem_paramNames hname
  obtain ⟨value, types, level, -, -, hconstant, -, rfl⟩ := helperOf_eq_ok.mp h
  simp only [List.forall_mem_cons]
  exact ⟨hmethod.identifies, ⟨hconstant, isIdentifier_iff_of_free hconstant (isReserved_constant _)⟩,
    herror.identifies, fun name hname => (hparams name hname).identifies⟩

theorem serves_of_helperOf (h : helperOf binding eventId taken = .ok helper) :
    helper.Serves binding where
  scope := scope_of_helperOf h
  method := by
    rw [(method_of_helperOf h).1]
    exact unique_namedAfter binding.name taken
  constant := (method_of_helperOf h).2
  params := params_of_helperOf h
  distinct := nodup_of_helperOf h
  identifiers := identifiers_of_helperOf h

theorem serves_of_helpersFrom {ordinal index : Nat} {bindings : List Binding}
    {helpers : List Helper} (h : helpersFrom ordinal index taken bindings = .ok helpers) :
    List.Forall₂ (fun binding helper => helper.Serves binding) bindings helpers := by
  induction bindings generalizing index taken helpers with
  | nil =>
      cases h
      exact .nil
  | cons binding rest ih =>
      obtain ⟨helper, more, hhelper, hmore, rfl⟩ := helpersFrom_cons_eq_ok.mp h
      exact .cons (serves_of_helperOf hhelper) (ih hmore)

end Serves

/-- A trait and its implementation for every logger hold the helpers as methods. -/
structure Interface.Covers (interface : Interface) (type : String) (helpers : List Helper) : Prop where
  name : interface.name = type ++ "LoggerMessages"
  implemented : interface.implemented = interface.name
  signatures : List.Forall₂ (Function.IsOf receiverTrees none) interface.signatures helpers
  methods : List.Forall₂ (fun function helper => function.IsOf receiverTrees (some helper.body) helper)
    interface.methods helpers
  heads : interface.methods.map (fun function => (function.name, function.params)) =
    interface.signatures.map fun function => (function.name, function.params)

/-- A file has, for each message, a constant and a function in the block of the type, or the signature
and the body of a method of the trait. -/
structure Layout.Covers (layout : Layout) (helpers : List Helper) (declaration : Annotated) : Prop where
  serves : List.Forall₂ (fun binding helper => helper.Serves binding) declaration.bindings helpers
  methods : (helpers.map (·.method)).Nodup
  type : layout.type = sanitize declaration.typeName
  constants : layout.constants = helpers.map fun helper => ⟨helper.constant, helper.eventId⟩
  functions : List.Forall₂ (fun function helper => function.IsOf [] (some helper.body) helper)
    layout.functions (helpers.filter (·.scope = .generic))
  isSome_interface : layout.interface.isSome = true ↔
    ∃ binding ∈ declaration.bindings, binding.scope = .interface
  interface : ∀ interface ∈ layout.interface,
    interface.Covers layout.type (helpers.filter (·.scope = .interface))

theorem exists_interface_iff {bindings : List Binding} {helpers : List Helper}
    (h : List.Forall₂ (fun binding helper => helper.Serves binding) bindings helpers) :
    (∃ binding ∈ bindings, binding.scope = .interface) ↔
      ∃ helper ∈ helpers, helper.scope = .interface := by
  induction h with
  | nil => simp
  | cons hserves _ ih => simp only [List.exists_mem_cons_iff, ih, hserves.scope]

theorem isSome_interface_iff {extension : Extension} {bindings : List Binding}
    (h : List.Forall₂ (fun binding helper => helper.Serves binding) bindings extension.helpers) :
    extension.layout.interface.isSome = true ↔ ∃ binding ∈ bindings, binding.scope = .interface := by
  have hempty : extension.interface.isEmpty = true ↔
      ¬∃ helper ∈ extension.helpers, helper.scope = .interface := by
    rw [Extension.interface, List.isEmpty_iff, List.filter_eq_nil_iff]
    simp
  rw [exists_interface_iff h, Extension.layout]
  split
  next hnone => exact ⟨fun h => (Bool.false_ne_true h).elim, fun h => absurd h (hempty.mp hnone)⟩
  next hsome => exact ⟨fun _ => not_not.mp fun h => hsome (hempty.mpr h), fun _ => rfl⟩

theorem covers_asInterface {extension : Extension} (h : extension.IsPrintable) :
    extension.asInterface.Covers extension.typeName extension.interface := by
  have hreceiver : receiver.trees = receiverTrees := by decide +kernel
  have hsignatures := isOf_asFunction legible_receiver (fun _ => none) h.interface
  have hmethods := isOf_asFunction legible_receiver (fun helper => some helper.body) h.interface
  rw [hreceiver] at hsignatures hmethods
  exact {
    name := rfl
    implemented := rfl
    signatures := hsignatures
    methods := hmethods
    heads := by
      rw [Extension.asInterface, List.map_map, List.map_map]
      rfl }

theorem covers_of_extensionOf {ordinal : Nat} {declaration : Annotated} {extension : Extension}
    (h : extensionOf ordinal declaration = .ok extension) :
    extension.layout.Covers extension.helpers declaration := by
  have hprintable := isPrintable_of_extensionOf h
  have hfunctions := isOf_asFunction ⟨_, Code.gives_nil⟩ (fun helper => some helper.body) hprintable.generic
  rw [Code.trees_nil] at hfunctions
  obtain ⟨helpers, hhelpers, h⟩ := bind_eq_ok.mp h
  cases h
  have hserves := serves_of_helpersFrom hhelpers
  refine {
    serves := hserves
    methods := ?_
    type := rfl
    constants := rfl
    functions := hfunctions
    isSome_interface := isSome_interface_iff hserves
    interface := ?_ }
  · rw [methods_of_helpersFrom hhelpers]
    exact (uniqueAll_nodup [] _).1
  · intro interface hinterface
    rw [Extension.layout] at hinterface
    split at hinterface
    · cases hinterface
    · cases hinterface
      exact covers_asInterface hprintable

/-- A file that is emitted is read back as exactly one helper for each message. -/
theorem covers_of_emit {emitter : Emitter} {ordinal : Nat} {declaration : Annotated}
    {file : GeneratedFile} (h : emitter.emit ordinal declaration = .ok file) :
    ∃ extension layout, extensionOf ordinal declaration = .ok extension ∧
      emitter.Prints extension file layout ∧ layout.Covers extension.helpers declaration := by
  obtain ⟨extension, hextension, hprints⟩ := Emitter.prints_of_emit h
  exact ⟨extension, extension.layout, hextension, hprints, covers_of_extensionOf hextension⟩

def loggedBinding : Binding where
  name := "tick"
  logLevel := ⟨["LogLevel", "Debug"], MemberRef.two_le_length_debug⟩
  template := {
    raw := "\x7bX:u32\x7d\x7bx:u32\x7d\x7bError:u32\x7d"
    normalized := "\x7bX\x7d\x7bx\x7d\x7bError\x7d"
    slots := [⟨"X", ⟨"u32", "u32"⟩, 0, 3⟩, ⟨"x", ⟨"u32", "u32"⟩, 3, 6⟩,
      ⟨"Error", ⟨"u32", "u32"⟩, 6, 13⟩] }
  explicitId := none
  scope := .interface

def mixed : Annotated :=
  ⟨"crate::app", [], "pub", "Controller", [plainBinding "Tick", loggedBinding, plainBinding "Match"]⟩

theorem covers_of_emit_mixed :
    ∃ file extension layout, Emitter.plain.emit 0 mixed = .ok file ∧
      extensionOf 0 mixed = .ok extension ∧ Emitter.plain.Prints extension file layout ∧
      layout.Covers extension.helpers mixed ∧
      extension.helpers.map (·.method) = ["tick", "tick_2", "match_"] ∧
      extension.interface.map (fun helper => helper.paramNames ++ [helper.errorParam]) =
        [["x", "x_2", "error", "error_2"]] := by
  obtain ⟨file, hfile⟩ := exists_eq_ok_of_isOk (x := Emitter.plain.emit 0 mixed) (by decide +kernel)
  obtain ⟨extension, layout, hextension, hprints, hcovers⟩ := covers_of_emit hfile
  have hnames : (extensionOf 0 mixed).toOption.map (fun extension =>
      (extension.helpers.map (·.method),
        extension.interface.map fun helper => helper.paramNames ++ [helper.errorParam])) =
      some (["tick", "tick_2", "match_"], [["x", "x_2", "error", "error_2"]]) := by decide +kernel
  rw [hextension] at hnames
  obtain ⟨hmethods, hparams⟩ := Prod.mk.inj (Option.some.inj hnames)
  exact ⟨file, extension, layout, hfile, hextension, hprints, hcovers, hmethods, hparams⟩

def genBinding : Binding := { plainBinding "Gen" with
  template := {
    raw := "\x7bGen:u32\x7d"
    normalized := "\x7bGen\x7d"
    slots := [⟨"Gen", ⟨"u32", "u32"⟩, 0, 5⟩] } }

def reserving : Annotated := ⟨"crate::app", [], "pub", "Controller", [genBinding]⟩

theorem emit_keeps_gen :
    ∃ file extension layout, Emitter.plain.emit 0 reserving = .ok file ∧
      extensionOf 0 reserving = .ok extension ∧ Emitter.plain.Prints extension file layout ∧
      layout.functions.map (fun function => (function.name, function.params)) =
        [("gen", (Source.readText?
          "gen: &u32, error: Option<&(dyn ::std::error::Error + 'static)>").getD [])] ∧
      ¬IsIdentifier "gen" := by
  obtain ⟨file, hfile⟩ := exists_eq_ok_of_isOk (x := Emitter.plain.emit 0 reserving) (by decide +kernel)
  obtain ⟨extension, hextension, hprints⟩ := Emitter.prints_of_emit hfile
  have hfunctions : (extensionOf 0 reserving).toOption.map (fun extension =>
      extension.layout.functions.map fun function => (function.name, function.params)) =
      some [("gen", (Source.readText?
        "gen: &u32, error: Option<&(dyn ::std::error::Error + 'static)>").getD [])] := by decide +kernel
  rw [hextension] at hfunctions
  exact ⟨file, extension, extension.layout, hfile, hextension, hprints, Option.some.inj hfunctions,
    fun h => h.2.2 (by decide)⟩

end TypedLogging.Emission
