import TypedLogging.Proofs.Emission.Layout

namespace TypedLogging.Emission

open Source (Code IsSpelled Piece Reading TokenTree expect_eq_none legible_of_isIdent legible_words
  prefix_of_expect tells_name tells_string trees_name words)
open Source.Code (tells_expect)
open Source.Lexer (IsIdent)
open Source.Reading (expect group many name remaining string)

section Pieces

variable {crate more : Code} {behind : List TokenTree} {texts names : List String} {name : String}

theorem tells_words (h : ∀ text ∈ texts, IsSpelled text) :
    Code.Tells (words texts) behind (expect (words texts)) () := tells_expect (legible_words h)

theorem trees_cons_name (h : IsIdent name) (hmore : more.Legible) :
    Code.trees (.word name :: more) = .ident name :: more.trees := by
  have hword := Code.trees_append (legible_of_isIdent h) hmore
  rwa [trees_name h] at hword

theorem tells_names (h : ∀ name ∈ names, IsIdent name) :
    Code.Tells (commaSeparated names) [] Read.names names := by
  have htrees : (commaSeparated names).Legible ∧
      Read.namesOf? (commaSeparated names).trees = some names := by
    induction names with
    | nil => exact ⟨⟨_, Code.gives_nil⟩, congrArg Read.namesOf? Code.trees_nil⟩
    | cons name rest ih =>
        rw [List.forall_mem_cons] at h
        cases rest with
        | nil => exact ⟨legible_of_isIdent h.1, congrArg Read.namesOf? (trees_name h.1)⟩
        | cons other rest =>
            obtain ⟨hlegible, hnames⟩ := ih h.2
            have hcode : commaSeparated (name :: other :: rest) =
                .word name :: (words [","] ++ commaSeparated (other :: rest)) := rfl
            have hcomma : Code.Legible (words [","]) := legible_words (by decide)
            have htrees : Code.trees (words [","]) = [.punct ',' false] := by decide
            rw [hcode, trees_cons_name h.1 (hcomma.append hlegible), Code.trees_append hcomma hlegible, htrees]
            refine ⟨(legible_of_isIdent h.1).append (hcomma.append hlegible), ?_⟩
            rw [List.singleton_append, Read.namesOf?, hnames]
            rfl
  refine ⟨htrees.1, ?_⟩
  rw [List.append_nil, StateT.run, Read.names, htrees.2]
  rfl

theorem tells_documentation (text : String) :
    Code.Tells (docAttribute text) behind Read.documentation text := by
  have hcode : docAttribute text =
      words ["#"] ++ [Piece.group .bracket (words ["doc", "="] ++ [literal text])] := rfl
  rw [hcode, Read.documentation]
  exact (tells_words (by decide)).bind
    (((tells_words (by decide)).bind (tells_string text)).group .bracket)

theorem guard_same (text : String) : (guard (text = text) : Reading Unit) = pure () := if_pos rfl

theorem tells_said (text : String) : Code.Tells [literal text] behind (Read.said text) () := by
  have h : Code.Tells [literal text] behind string text := tells_string text
  refine ⟨h.legible, ?_⟩
  rw [Read.said, StateT.run_bind, h.run_eq]
  exact congrArg (StateT.run · behind) (guard_same text)

theorem tells_inCrate (hcrate : crate.Legible) (h : ∀ text ∈ texts, IsSpelled text) :
    Code.Tells (crate ++ words texts) behind (Read.inCrate crate texts) () :=
  (tells_expect hcrate).bind (tells_words h)

theorem tells_nothing : Code.Tells [parens []] behind Read.nothing () := (Code.tells_pure ()).group _

theorem tells_call {α : Type} {arguments : Code} {reading : Reading α} {a : α} {method : String}
    (hmethod : IsIdent method) (h : arguments.Tells [] reading a) :
    (call method arguments).Tells behind (Read.call method reading) a :=
  (tells_words (List.forall_mem_cons.mpr ⟨by decide, List.forall_mem_singleton.mpr (.inr hmethod)⟩)).bind
    (h.group _)

end Pieces

section Bodies

variable {α : Type} {crate : Code} {behind : List TokenTree} {target level metadata matched : String}
  {arm : Arm}

theorem tells_formatted (h : ∀ name ∈ arm.arguments, IsIdent name) :
    (formatCode arm).Tells [] Read.formatted (arm.format, arm.arguments) := by
  have hcode : formatCode arm =
      [literal arm.format] ++ (words [","] ++ commaSeparated arm.arguments) := rfl
  rw [hcode, Read.formatted]
  exact (tells_string _).bind ((tells_words (by decide)).bind ((tells_names h).map _))

theorem tells_level (hcrate : crate.Legible) (hlevel : IsIdent level) :
    (levelCode crate level).Tells behind (Read.level crate) level := by
  have hcode : levelCode crate level = (crate ++ words ["::", "Level", "::"]) ++ words [level] := by
    simp [levelCode, below, words]
  rw [hcode, Read.level]
  exact (tells_inCrate hcrate (by decide)).bind (tells_name hlevel)

theorem tells_directCall (hcrate : crate.Legible) (hlevel : IsIdent level)
    (h : ∀ name ∈ arm.arguments, IsIdent name) :
    (directCall crate target level arm).Tells behind (Read.directCall crate target)
      (level, arm.format, arm.arguments) := by
  have hcode : directCall crate target level arm = (crate ++ words ["::", "log", "!"]) ++
      [parens (words ["target", ":"] ++ ([literal target] ++ (words [","] ++
        (levelCode crate level ++ (words [","] ++ formatCode arm)))))] := by
    simp [directCall, below, parens, words]
  rw [hcode, Read.directCall]
  exact (tells_inCrate hcrate (by decide)).bind (Code.Tells.group
    ((tells_words (by decide)).bind ((tells_said target).bind ((tells_words (by decide)).bind
      ((tells_level hcrate hlevel).bind ((tells_words (by decide)).bind
        ((tells_formatted h).map _)))))) _)

theorem tells_record (hcrate : crate.Legible) (hmetadata : IsIdent metadata)
    (h : ∀ name ∈ arm.arguments, IsIdent name) :
    Code.Tells (words ["&"] ++ below crate ["Record", "builder"] ++ [parens []]
        ++ call "metadata" (words [metadata])
        ++ call "args" (words ["format_args", "!"] ++ [parens (formatCode arm)])
        ++ call "build" [] ++ words [","]) [] (Read.record crate metadata) (arm.format, arm.arguments) := by
  have hcode : words ["&"] ++ below crate ["Record", "builder"] ++ [parens []]
        ++ call "metadata" (words [metadata])
        ++ call "args" (words ["format_args", "!"] ++ [parens (formatCode arm)])
        ++ call "build" [] ++ words [","] =
      words ["&"] ++ ((crate ++ words ["::", "Record", "::", "builder"]) ++ ([parens []] ++
        (call "metadata" (words [metadata]) ++
          (call "args" (words ["format_args", "!"] ++ [parens (formatCode arm)]) ++
            (call "build" [] ++ words [","]))))) := by
    simp [below, parens, words]
  have hargs : Code.Tells (words ["format_args", "!"] ++ [parens (formatCode arm)]) []
      (expect (words ["format_args", "!"]) >>= fun _ => group .paren Read.formatted)
      (arm.format, arm.arguments) := (tells_words (by decide)).bind ((tells_formatted h).group _)
  have hnames : ∀ text ∈ [metadata], IsSpelled text := List.forall_mem_singleton.mpr (.inr hmetadata)
  rw [hcode, Read.record]
  exact (tells_words (by decide)).bind ((tells_inCrate hcrate (by decide)).bind
    (tells_nothing.bind ((tells_call (by decide) (tells_words hnames)).bind
      ((tells_call (by decide) hargs).bind
        ((tells_call (by decide) (Code.tells_pure ())).bind ((tells_words (by decide)).map _))))))

theorem tells_loggerCall (hcrate : crate.Legible) (hmetadata : IsIdent metadata)
    (h : ∀ name ∈ arm.arguments, IsIdent name) :
    (loggerCall crate metadata arm).Tells behind (Read.loggerCall crate metadata)
      ((), arm.format, arm.arguments) := by
  rw [loggerCall, Read.loggerCall]
  exact (tells_words (by decide)).bind (((tells_record hcrate hmetadata h).group _).map _)

theorem tells_arms {call : Reading (α × String × List String)} {code : Arm → Code} {a : α}
    {error first second : String} {names others : List String} (herror : IsIdent error)
    (hcall : ∀ arm behind, (∀ name ∈ arm.arguments, IsIdent name) →
      (code arm).Tells behind call (a, arm.format, arm.arguments))
    (hnames : ∀ name ∈ names, IsIdent name) (hothers : ∀ name ∈ others, IsIdent name) :
    Code.Tells (armCode ⟨some error, first, names⟩ (code ⟨some error, first, names⟩)
        ++ armCode ⟨none, second, others⟩ (code ⟨none, second, others⟩)) behind (Read.arms call)
      ((a, ⟨some error, first, names⟩), (a, ⟨none, second, others⟩)) := by
  have hcode : armCode ⟨some error, first, names⟩ (code ⟨some error, first, names⟩)
        ++ armCode ⟨none, second, others⟩ (code ⟨none, second, others⟩) =
      words ["Some"] ++ ([parens (words [error])] ++ (words ["=>"] ++
        (code ⟨some error, first, names⟩ ++ (words [",", "None", "=>"] ++
          (code ⟨none, second, others⟩ ++ words [","]))))) := by
    simp [armCode, parens, words]
  rw [hcode, Read.arms]
  exact (tells_words (by decide)).bind (((tells_name herror).group _).bind
    ((tells_words (by decide)).bind ((hcall _ _ hnames).bind
      ((tells_words (by decide)).bind ((hcall _ _ hothers).bind
        ((tells_words (by decide)).map _))))))

theorem tells_matching {call : Reading (α × String × List String)} {arms : Code}
    {found : (α × Arm) × (α × Arm)} (hmatched : IsIdent matched)
    (harms : arms.Tells [] (Read.arms call) found) :
    (matchCode matched arms).Tells behind (Read.matching call) (matched, found) := by
  have hcode : matchCode matched arms = words ["match"] ++ (words [matched] ++ [braces arms]) := rfl
  rw [hcode, Read.matching]
  exact (tells_words (by decide)).bind ((tells_name hmatched).bind ((harms.group _).map _))

variable {used names others : List String} {error first second : String}

theorem tells_silent (h : ∀ name ∈ used, IsIdent name) :
    (bodyCode crate target (.silent used)).Tells behind (Read.binding crate target) (.silent used) := by
  have hcode : bodyCode crate target (.silent used) = words ["let"] ++ (words ["_"] ++
      (words ["="] ++ ([parens (commaSeparated used)] ++ words [";"]))) := rfl
  rw [hcode, Read.binding]
  exact (tells_words (by decide)).bind ((tells_name (by decide)).bind
    ((tells_words (by decide)).bind (((tells_names h).group _).bind ((tells_words (by decide)).map _))))

theorem tells_direct (hcrate : crate.Legible) (hlevel : IsIdent level) (hmatched : IsIdent matched)
    (herror : IsIdent error) (hnames : ∀ name ∈ names, IsIdent name)
    (hothers : ∀ name ∈ others, IsIdent name) :
    (bodyCode crate target (.direct level matched ⟨some error, first, names⟩ ⟨none, second, others⟩)).Tells
      behind (Read.direct crate target)
      (.direct level matched ⟨some error, first, names⟩ ⟨none, second, others⟩) := by
  have h : (bodyCode crate target (.direct level matched ⟨some error, first, names⟩
      ⟨none, second, others⟩)).Tells behind (Read.matching (Read.directCall crate target))
      (matched, (level, ⟨some error, first, names⟩), (level, ⟨none, second, others⟩)) :=
    tells_matching hmatched (tells_arms herror (fun _ _ harm => tells_directCall hcrate hlevel harm)
      hnames hothers)
  refine ⟨h.legible, ?_⟩
  rw [Read.direct, StateT.run_bind, h.run_eq, Option.bind_eq_bind, Option.bind_some]
  dsimp only
  rw [guard_same]
  rfl

def enablingCode (crate : Code) (target levelVariable metadata : String) : Code :=
  words ["="] ++ ((crate ++ words ["::", "Metadata", "::", "builder"]) ++ ([parens []] ++
    (call "level" (words [levelVariable]) ++ (call "target" [literal target] ++ (call "build" [] ++
      (words [";", "if", levelVariable, "<="] ++ ((crate ++ words ["::", "max_level"]) ++
        ([parens []] ++ (words ["&&", "self"] ++ call "enabled" (words ["&", metadata]))))))))))

theorem tells_enabling {levelVariable : String} (hcrate : crate.Legible)
    (hvariable : IsIdent levelVariable) (hmetadata : IsIdent metadata) :
    (enablingCode crate target levelVariable metadata).Tells behind
      (Read.enabling crate target levelVariable metadata) () := by
  have hlevel : ∀ text ∈ [levelVariable], IsSpelled text := List.forall_mem_singleton.mpr (.inr hvariable)
  have hcompared : ∀ text ∈ [";", "if", levelVariable, "<="], IsSpelled text := by
    simp only [List.forall_mem_cons]
    exact ⟨by decide, by decide, .inr hvariable, by decide, List.forall_mem_nil _⟩
  have henabled : ∀ text ∈ ["&", metadata], IsSpelled text :=
    List.forall_mem_cons.mpr ⟨by decide, List.forall_mem_singleton.mpr (.inr hmetadata)⟩
  rw [enablingCode, Read.enabling]
  exact (tells_words (by decide)).bind ((tells_inCrate hcrate (by decide)).bind
    (tells_nothing.bind ((tells_call (by decide) (tells_words hlevel)).bind
      ((tells_call (by decide) (tells_said target)).bind
        ((tells_call (by decide) (Code.tells_pure ())).bind ((tells_words hcompared).bind
          ((tells_inCrate hcrate (by decide)).bind (tells_nothing.bind
            ((tells_words (by decide)).bind
              (tells_call (by decide) (tells_words henabled)))))))))))

theorem tells_throughLogger {levelVariable : String} (hcrate : crate.Legible) (hlevel : IsIdent level)
    (hvariable : IsIdent levelVariable) (hne : levelVariable ≠ "_") (hmetadata : IsIdent metadata)
    (hmatched : IsIdent matched)
    (herror : IsIdent error) (hnames : ∀ name ∈ names, IsIdent name)
    (hothers : ∀ name ∈ others, IsIdent name) :
    (bodyCode crate target (.throughLogger level levelVariable metadata matched
        ⟨some error, first, names⟩ ⟨none, second, others⟩)).Tells behind (Read.binding crate target)
      (.throughLogger level levelVariable metadata matched ⟨some error, first, names⟩
        ⟨none, second, others⟩) := by
  have hcode : bodyCode crate target (.throughLogger level levelVariable metadata matched
        ⟨some error, first, names⟩ ⟨none, second, others⟩) =
      words ["let"] ++ (words [levelVariable] ++ (words ["="] ++ (levelCode crate level ++
        (words [";", "let"] ++ (words [metadata] ++
          (enablingCode crate target levelVariable metadata ++ [braces (matchCode matched
            (armCode ⟨some error, first, names⟩ (loggerCall crate metadata ⟨some error, first, names⟩)
              ++ armCode ⟨none, second, others⟩ (loggerCall crate metadata ⟨none, second, others⟩)))])))))) := by
    simp [bodyCode, enablingCode, below, braces, words]
  have harms : Code.Tells (matchCode matched
      (armCode ⟨some error, first, names⟩ (loggerCall crate metadata ⟨some error, first, names⟩)
        ++ armCode ⟨none, second, others⟩ (loggerCall crate metadata ⟨none, second, others⟩))) []
      (Read.matching (Read.loggerCall crate metadata))
      (matched, ((), ⟨some error, first, names⟩), ((), ⟨none, second, others⟩)) :=
    tells_matching hmatched (tells_arms herror (fun _ _ harm => tells_loggerCall hcrate hmetadata harm)
      hnames hothers)
  rw [hcode, Read.binding]
  refine (tells_words (by decide)).bind ((tells_name hvariable).bind ?_)
  rw [if_neg hne, Read.throughLogger]
  exact (tells_words (by decide)).bind ((tells_level hcrate hlevel).bind
      ((tells_words (by decide)).bind ((tells_name hmetadata).bind
        ((tells_enabling hcrate hvariable hmetadata).bind ((harms.group _).map _)))))

end Bodies

/-- A helper of names and types that can be read back. -/
structure Helper.IsPrintable (helper : Helper) : Prop where
  constant : IsIdent helper.constant
  method : IsIdent helper.method
  error : IsIdent helper.errorParam
  params : ∀ param ∈ helper.params, IsIdent param.name ∧ param.type.Legible
  level : ∀ level ∈ helper.level, IsIdent level

section Helpers

variable {crate : Code} {target : String} {behind : List TokenTree} {helper : Helper}

theorem Helper.IsPrintable.names (h : helper.IsPrintable) :
    (∀ name ∈ helper.paramNames, IsIdent name) ∧
      ∀ name ∈ helper.paramNames ++ [helper.errorParam], IsIdent name := by
  have hparams : ∀ name ∈ helper.paramNames, IsIdent name := by
    intro name hname
    obtain ⟨param, hparam, rfl⟩ := List.mem_map.mp hname
    exact (h.params param hparam).1
  exact ⟨hparams, List.forall_mem_append.mpr ⟨hparams, List.forall_mem_singleton.mpr h.error⟩⟩

theorem tells_body_of_binding {code : Code} {body : Body}
    (h : code.Tells behind (Read.binding crate target) body) :
    code.Tells behind (Read.body crate target) body := by
  have hlet : Code.trees (words ["let"]) = [.ident "let"] := by decide
  have hmatch : Code.trees (words ["match"]) = [.ident "match"] := by decide
  obtain ⟨rest, hrest⟩ := prefix_of_expect h.run_eq
  refine h.orElse ?_
  rw [← hrest, hlet, List.singleton_append, Read.direct, Read.matching, StateT.run_bind, StateT.run_bind,
    expect_eq_none (by simp [hmatch])]
  rfl

theorem tells_body (hcrate : crate.Legible) (h : helper.IsPrintable) :
    (bodyCode crate target helper.body).Tells behind (Read.body crate target) helper.body := by
  obtain ⟨hparams, hall⟩ := h.names
  unfold Helper.body
  cases hlevel : helper.level with
  | none => exact tells_body_of_binding (tells_silent hall)
  | some level =>
      have hname := h.level level hlevel
      cases helper.scope with
      | generic => exact (tells_direct hcrate hname h.error h.error hall hparams).orElse_left
      | interface =>
          exact tells_body_of_binding (tells_throughLogger hcrate hname (by decide) (by decide)
            (by decide) h.error h.error hall hparams)

end Helpers

def receiver : Code := words ["&", "self", ","]

def Helper.asConstant (helper : Helper) : Constant := ⟨helper.constant, helper.eventId⟩

def Helper.asFunction (receiver : Code) (body : Option Body) (helper : Helper) : Function :=
  ⟨helper.method, Code.trees (receiver ++ paramsCode helper), body⟩

section Members

variable {crate visible : Code} {target : String} {behind : List TokenTree} {helper : Helper}

theorem legible_errorType : errorType.Legible := by
  have hstatic : IsIdent "static" := by decide
  have hopen : Code.Legible (words ["Option", "<", "&"]) := legible_words (by decide)
  have hpath : Code.Legible (words ["dyn", "::", "std", "::", "error", "::", "Error", "+"]) :=
    legible_words (by decide)
  have hclose : Code.Legible (words [">"]) := legible_words (by decide)
  exact (hopen.append ((hpath.append (Source.legible_lifetime hstatic)).group .paren)).append hclose

theorem legible_paramCode {param : Param} (hname : IsIdent param.name) (htype : param.type.Legible) :
    (paramCode param).Legible := by
  have hreference : Code.Legible (words [":", "&"]) := legible_words (by decide)
  have hcomma : Code.Legible (words [","]) := legible_words (by decide)
  exact ((legible_of_isIdent hname).append hreference).append htype |>.append hcomma

theorem legible_errorParam (h : IsIdent helper.errorParam) :
    Code.Legible (words [helper.errorParam, ":"] ++ errorType) :=
  Code.Legible.append (legible_words (List.forall_mem_cons.mpr ⟨.inr h, by decide⟩)) legible_errorType

theorem legible_paramsCode (h : helper.IsPrintable) : (paramsCode helper).Legible := by
  have hparams : Code.Legible (helper.params.flatMap paramCode) := Code.legible_flatMap fun param hparam =>
    legible_paramCode (h.params param hparam).1 (h.params param hparam).2
  rw [paramsCode, List.append_assoc]
  exact hparams.append (legible_errorParam h.error)

theorem legible_receiver : receiver.Legible := legible_words (by decide)

theorem tells_head {before : Code} (hbefore : before.Legible) (h : helper.IsPrintable) :
    Code.Tells (words ["fn", helper.method] ++ [parens (before ++ paramsCode helper)]) behind Read.head
      (helper.method, Code.trees (before ++ paramsCode helper)) := by
  have hcode : words ["fn", helper.method] ++ [parens (before ++ paramsCode helper)] =
      words ["fn"] ++ (words [helper.method] ++ [parens (before ++ paramsCode helper)]) := rfl
  rw [hcode, Read.head]
  exact (tells_words (by decide)).bind ((tells_name h.method).bind
    (((Code.tells_remaining (hbefore.append (legible_paramsCode h))).group _).map _))

theorem tells_integerCode (value : Int) :
    (integerCode value).Tells behind Source.Reading.integer value := by
  rw [integerCode]
  split
  next hneg =>
    have h : Code.Tells (words ["-", toString value.natAbs]) behind Source.Reading.integer
      (-(value.natAbs : Int)) := Source.tells_neg _
    rwa [show -(value.natAbs : Int) = value by omega] at h
  next hneg =>
    have h : Code.Tells (words [toString value.natAbs]) behind Source.Reading.integer
      (value.natAbs : Int) := Source.tells_nonneg _
    rwa [show (value.natAbs : Int) = value by omega] at h

theorem tells_declared {name : String} (h : IsIdent name) (value : Int) :
    Code.Tells (words ["pub", "const", name, ":", "i32", "="] ++ integerCode value ++ words [";"]) behind
      Read.declared ⟨name, value⟩ := by
  have hcode : words ["pub", "const", name, ":", "i32", "="] ++ integerCode value ++ words [";"] =
      words ["pub", "const"] ++ (words [name] ++ (words [":", "i32", "="] ++
        (integerCode value ++ words [";"]))) := by
    simp [words]
  rw [hcode, Read.declared]
  exact (tells_words (by decide)).bind ((tells_name h).bind ((tells_words (by decide)).bind
    ((tells_integerCode _).bind ((tells_words (by decide)).map _))))

theorem tells_constant (h : helper.IsPrintable) :
    (constantCode helper).Tells behind Read.constant helper.asConstant := by
  have hcode : constantCode helper = docAttribute s!"Event id of {helper.doc}" ++
      (words ["pub", "const", helper.constant, ":", "i32", "="] ++ integerCode helper.eventId
        ++ words [";"]) := by
    simp [constantCode]
  rw [hcode, Read.constant]
  exact (tells_documentation _).bind (tells_declared h.constant _)

theorem tells_function (hcrate : crate.Legible) (hvisible : visible.Legible) (h : helper.IsPrintable) :
    (functionCode crate visible target helper).Tells behind (Read.function crate visible target)
      (helper.asFunction [] (some helper.body)) := by
  have hcode : functionCode crate visible target helper = docAttribute helper.doc ++ (visible ++
      ((words ["fn", helper.method] ++ [parens ([] ++ paramsCode helper)]) ++
        [braces (bodyCode crate target helper.body)])) := by
    simp [functionCode, helperBody, braces]
  rw [hcode, Read.function]
  exact (tells_documentation _).bind ((tells_expect hvisible).bind
    ((tells_head ⟨_, Code.gives_nil⟩ h).bind (((tells_body hcrate h).group _).map _)))

theorem tells_methodHead (h : helper.IsPrintable) : (methodHead helper).Tells behind Read.head
    (helper.method, Code.trees (receiver ++ paramsCode helper)) := tells_head legible_receiver h

theorem tells_signature (h : helper.IsPrintable) : (signatureCode helper).Tells behind Read.signature
    (helper.asFunction receiver none) := by
  have hcode : signatureCode helper = docAttribute helper.doc ++ (methodHead helper ++ words [";"]) := by
    simp [signatureCode]
  rw [hcode, Read.signature]
  exact (tells_documentation _).bind ((tells_methodHead h).bind ((tells_words (by decide)).map _))

theorem tells_method (hcrate : crate.Legible) (h : helper.IsPrintable) :
    (methodCode crate target helper).Tells behind (Read.method crate target)
      (helper.asFunction receiver (some helper.body)) := by
  rw [methodCode, Read.method]
  exact (tells_methodHead h).bind (((tells_body hcrate h).group _).map _)

end Members

end TypedLogging.Emission
