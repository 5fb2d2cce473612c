import TypedLogging.Generator
import TypedLogging.Proofs.Run
import TypedLogging.Proofs.Source.Lexed
import TypedLogging.Proofs.Source.Paths

namespace TypedLogging

open Source

/-- What the texts of a configuration name once they are read. -/
structure MessageAttribute where
  name : String
  crate : Source.Path

namespace MessageAttribute

def alone (named : MessageAttribute) : Source.Path := ⟨false, [⟨named.name, .none⟩]⟩

def qualified (named : MessageAttribute) : Source.Path :=
  { named.crate with segments := named.crate.segments ++ [⟨named.name, .none⟩] }

end MessageAttribute

def Config.messageAttribute? (config : Config) : Option MessageAttribute := do
  let (name, _) ← parseText (fun _ => Reader.ident) config.attributeName
  let (crate, _) ← parseText (fun g => g.path false) config.macroCrate
  return ⟨name, crate⟩

/-- The path of an attribute in some text. -/
def Source.IsAttributePath (path : Source.Path) : Prop :=
  ∃ text code, parseText (fun _ => Grammar.attributePath) text = some (path, code)

namespace Discovery

/-- The attribute is recorded under the name that is collected, with its arguments. -/
def IsRead (config : Config) (found : Source.Attribute) : Prop :=
  attributeUse config found = ⟨config.qualifiedAttribute, found.arguments⟩

/-- The attribute is recorded under a name that is not collected. -/
def IsPassedOver (config : Config) (found : Source.Attribute) : Prop :=
  (attributeUse config found).name ≠ config.qualifiedAttribute

/-- What is promised of an attribute: it is read if it is the one that is named, and passed over if it
has other names. -/
structure Honours (config : Config) (named : MessageAttribute) (found : Source.Attribute) : Prop where
  reads : found.path = named.alone ∨ found.path = named.qualified → IsRead config found
  passesOver : found.path.names ≠ [named.name] →
    found.path.names ≠ named.crate.names ++ [named.name] → IsPassedOver config found

section Texts

variable {config : Config} {named : MessageAttribute} {names : List String}

theorem exists_messageAttribute (h : Generator.checkConfig config = .ok ()) :
    ∃ named, config.messageAttribute? = some named := by
  unfold Generator.checkConfig at h
  cases hname : parseText (fun _ => Reader.ident) config.attributeName with
  | none =>
      rw [isIdentifierText, hname] at h
      cases h
  | some name =>
      cases hcrate : parseText (fun g => g.path false) config.macroCrate with
      | none =>
          rw [isIdentifierText, hname, isPathText, pathOfText?, hcrate] at h
          cases h
      | some crate =>
          refine ⟨⟨name.1, crate.1⟩, ?_⟩
          rw [Config.messageAttribute?, hname, hcrate]
          rfl

theorem messageAttribute?_eq_some (h : config.messageAttribute? = some named) :
    (lex config.attributeName = some [.ident named.name] ∧ isReserved named.name = false) ∧
      ∃ trees g code, lex config.macroCrate = some trees ∧
        Reader.run (Grammar.path g false) trees = some (named.crate, code) := by
  simp only [Config.messageAttribute?, parseText, parseTrees, Option.bind_eq_bind,
    Option.bind_eq_some_iff] at h
  obtain ⟨⟨name, _⟩, ⟨trees, hlex, hname⟩, ⟨crate, code⟩, ⟨trees', hlex', hcrate⟩, hpure⟩ := h
  cases hpure
  obtain ⟨rfl, hreserved⟩ := trees_of_ident hname
  exact ⟨⟨hlex, hreserved⟩, trees', _, code, hlex', hcrate⟩

theorem names_qualified (named : MessageAttribute) :
    named.qualified.names = named.crate.names ++ [named.name] := by
  simp [MessageAttribute.qualified, Source.Path.names]

theorem names_qualified_ne (h : config.messageAttribute? = some named) :
    named.qualified.names ≠ [named.name] := by
  obtain ⟨-, trees, g, code, -, hread⟩ := messageAttribute?_eq_some h
  rw [names_qualified]
  simpa [Source.Path.names] using (segmentsRead_path hread).2

theorem isIdent_name (h : config.messageAttribute? = some named) : Lexer.IsIdent named.name :=
  (lexed_of_lex (messageAttribute?_eq_some h).1.1).isIdent

theorem isAttributePath_alone (h : config.messageAttribute? = some named) :
    IsAttributePath named.alone := by
  obtain ⟨hlex, hreserved⟩ := (messageAttribute?_eq_some h).1
  refine ⟨config.attributeName, [.word named.name], ?_⟩
  rw [parseText, hlex]
  exact attributePath_ident hreserved

theorem isIdent_of_isAttributePath {path : Source.Path} (h : IsAttributePath path) :
    path.isPlain = true ∧ ∀ name ∈ path.names, Lexer.IsIdent name := by
  obtain ⟨text, code, h⟩ := h
  obtain ⟨trees, hlex, hread⟩ := Option.bind_eq_some_iff.mp h
  rw [parseTrees, Reader.run] at hread
  split at hread
  next hpath =>
    cases hread
    obtain ⟨hplain, hnames⟩ := mem_of_attributePath hpath
    exact ⟨hplain, fun name hname => (lexed_of_lex hlex).isIdent_of_mem (hnames name hname)⟩
  next => cases hread

theorem names_crate (h : config.messageAttribute? = some named)
    (hnames : ∀ name ∈ names, Lexer.IsIdent name) (hcrate : joinPath names = config.macroCrate) :
    named.crate.names = names := by
  obtain ⟨-, trees, g, code, hlex, hread⟩ := messageAttribute?_eq_some h
  rw [← hcrate, lex_joinPath hnames] at hlex
  cases hlex
  have hangle : ∀ joint, .punct '<' joint ∉ pathTrees names := by
    intro joint hmem
    rcases mem_pathTrees hmem with ⟨_, h⟩ | ⟨_, h⟩ <;> cases h
  rw [names_of_path hread (isPlain_of_path hread hangle), identsOf_pathTrees]

theorem isMessage_concat (before : List String) (last : String) :
    isMessage config (before ++ [last]) = true ↔
      last = config.attributeName ∧ (before = [] ∨ joinPath before = config.macroCrate) := by
  rw [isMessage, List.getLast?_concat, List.dropLast_concat]
  simp [List.isEmpty_iff]

theorem eq_of_append_cons {d : Char} {first second behind behind' : List Char} (hd : d ∉ behind)
    (hd' : d ∉ behind') (h : first ++ d :: behind = second ++ d :: behind') :
    first = second ∧ behind = behind' := by
  rcases List.append_eq_append_iff.mp h with ⟨between, rfl, hlater⟩ | ⟨between, rfl, hlater⟩
  · cases between with
    | nil => exact ⟨(List.append_nil _).symm, (List.cons.inj hlater).2⟩
    | cons e between => exact absurd ((List.cons.inj hlater).2 ▸ List.mem_append_cons_self) hd
  · cases between with
    | nil => exact ⟨List.append_nil _, (List.cons.inj hlater).2.symm⟩
    | cons e between => exact absurd ((List.cons.inj hlater).2 ▸ List.mem_append_cons_self) hd'

theorem isMessage_iff (h : config.messageAttribute? = some named)
    (hnames : ∀ name ∈ names, Lexer.IsIdent name) :
    isMessage config names = true ↔ config.attributeName = named.name ∧
      (names = [named.name] ∨ config.macroCrate = joinPath named.crate.names ∧
        names = named.crate.names ++ [named.name]) := by
  constructor
  · intro hmessage
    rcases List.eq_nil_or_concat names with rfl | ⟨before, last, rfl⟩
    · cases hmessage
    · rw [List.concat_eq_append] at hmessage hnames ⊢
      rw [List.forall_mem_append, List.forall_mem_singleton] at hnames
      obtain ⟨rfl, hcrate⟩ := (isMessage_concat before last).mp hmessage
      have hlex := lex_joinPath (List.forall_mem_singleton.mpr hnames.2)
      rw [joinPath_singleton, (messageAttribute?_eq_some h).1.1] at hlex
      have hname : config.attributeName = named.name := by simpa [pathTrees, eq_comm] using hlex
      refine ⟨hname, ?_⟩
      rw [hname]
      rcases hcrate with rfl | hcrate
      · exact .inl rfl
      · rw [names_crate h hnames.1 hcrate]
        exact .inr ⟨hcrate.symm, rfl⟩
  · rintro ⟨hname, rfl | ⟨hcrate, rfl⟩⟩
    · exact (isMessage_concat [] _).mpr ⟨hname.symm, .inl rfl⟩
    · exact (isMessage_concat _ _).mpr ⟨hname.symm, .inr hcrate.symm⟩

/-- Nothing but a message is recorded under the name of messages. -/
theorem isMessage_of_joinPath (h : config.messageAttribute? = some named)
    (hnames : ∀ name ∈ names, Lexer.IsIdent name)
    (hjoined : joinPath names = config.qualifiedAttribute) : isMessage config names = true := by
  have htext : (joinPath names).toList =
      config.macroCrate.toList ++ segmentText config.attributeName := by
    rw [hjoined, Config.qualifiedAttribute]
    simp [segmentText, toString]
  have hname : config.attributeName = named.name := by
    refine eq_of_lex_ident (messageAttribute?_eq_some h).1.1 fun c hc => ?_
    refine isPathChar_of_mem_joinPath hnames c ?_
    rw [htext]
    exact List.mem_append_right _ (List.mem_cons_of_mem _ (List.mem_cons_of_mem _ hc))
  have hcolon : ∀ name, Lexer.IsIdent name → ':' ∉ name.toList :=
    fun name hname hmem => (hname.spells.chars ':' hmem).2 rfl
  rcases List.eq_nil_or_concat names with rfl | ⟨before, last, rfl⟩
  · have hlength := congrArg List.length htext
    rw [List.length_append, segmentText, List.length_cons] at hlength
    cases hlength
  · rw [List.concat_eq_append] at hnames htext ⊢
    rw [List.forall_mem_append, List.forall_mem_singleton] at hnames
    by_cases hbefore : before = []
    · subst hbefore
      rw [List.nil_append, joinPath_singleton] at htext
      refine absurd ?_ (hcolon last hnames.2)
      rw [htext]
      exact List.mem_append_cons_self
    · rw [toList_joinPath_concat hbefore, segmentText, segmentText, List.append_cons,
        List.append_cons config.macroCrate.toList] at htext
      obtain ⟨hcrate, hlast⟩ := eq_of_append_cons (hcolon last hnames.2)
        (hname ▸ hcolon named.name (isIdent_name h)) htext
      exact (isMessage_concat before last).mpr ⟨String.toList_injective hlast,
        .inr (String.toList_injective (List.append_cancel_right hcrate))⟩

theorem isRead_iff_isMessage {found : Source.Attribute} (h : config.messageAttribute? = some named)
    (hnames : ∀ name ∈ found.path.names, Lexer.IsIdent name) :
    IsRead config found ↔ isMessage config found.path.names = true := by
  rw [IsRead, attributeUse]
  split
  next hmessage => exact iff_of_true rfl hmessage
  next hmessage =>
    refine iff_of_false (fun he => ?_) hmessage
    exact hmessage (isMessage_of_joinPath h hnames (congrArg AttributeUse.name he))

theorem isRead_iff {found : Source.Attribute} (h : config.messageAttribute? = some named)
    (hfound : IsAttributePath found.path) :
    IsRead config found ↔ config.attributeName = named.name ∧
      (found.path.names = [named.name] ∨ config.macroCrate = joinPath named.crate.names ∧
        found.path.names = named.crate.names ++ [named.name]) := by
  have hnames := (isIdent_of_isAttributePath hfound).2
  rw [isRead_iff_isMessage h hnames, isMessage_iff h hnames]

theorem isPassedOver_iff {found : Source.Attribute} (h : config.messageAttribute? = some named)
    (hfound : IsAttributePath found.path) : IsPassedOver config found ↔ ¬IsRead config found := by
  have hnames := (isIdent_of_isAttributePath hfound).2
  rw [isRead_iff_isMessage h hnames, IsPassedOver, attributeUse]
  split
  next hmessage => exact iff_of_false (fun hname => hname rfl) (fun hno => hno hmessage)
  next hmessage => exact iff_of_true (fun he => hmessage (isMessage_of_joinPath h hnames he)) hmessage

end Texts

/-- An attribute is read just if its names, joined, are the texts of the configuration. So all attributes
are treated as promised just if the configuration has its names written in no other way. -/
theorem honours_iff {config : Config} (h : Generator.checkConfig config = .ok ()) :
    ∃ named, config.messageAttribute? = some named ∧
      (∀ found : Source.Attribute, IsAttributePath found.path →
        (IsRead config found ↔ config.attributeName = named.name ∧
          (found.path.names = [named.name] ∨ config.macroCrate = joinPath named.crate.names ∧
            found.path.names = named.crate.names ++ [named.name])) ∧
        (IsPassedOver config found ↔ ¬IsRead config found)) ∧
      ((∀ found : Source.Attribute, IsAttributePath found.path → Honours config named found) ↔
        config.attributeName = named.name ∧
          (IsAttributePath named.qualified → config.macroCrate = joinPath named.crate.names)) := by
  obtain ⟨named, hnamed⟩ := exists_messageAttribute h
  refine ⟨named, hnamed,
    fun found hfound => ⟨isRead_iff hnamed hfound, isPassedOver_iff hnamed hfound⟩, ?_⟩
  constructor
  · intro hhonours
    have halone := isAttributePath_alone hnamed
    have hread : IsRead config ⟨named.alone, .bare⟩ := (hhonours _ halone).reads (.inl rfl)
    refine ⟨((isRead_iff hnamed halone).mp hread).1, fun hqualified => ?_⟩
    have hread' : IsRead config ⟨named.qualified, .bare⟩ := (hhonours _ hqualified).reads (.inr rfl)
    obtain ⟨-, hnames | ⟨hcrate, -⟩⟩ := (isRead_iff hnamed hqualified).mp hread'
    · exact absurd hnames (names_qualified_ne hnamed)
    · exact hcrate
  · rintro ⟨hname, hcrate⟩ found hfound
    constructor
    · rintro (hpath | hpath)
      · exact (isRead_iff hnamed hfound).mpr ⟨hname, .inl (by rw [hpath]; rfl)⟩
      · exact (isRead_iff hnamed hfound).mpr ⟨hname,
          .inr ⟨hcrate (hpath ▸ hfound), by rw [hpath, names_qualified]⟩⟩
    · intro halone hqualified
      rw [isPassedOver_iff hnamed hfound, isRead_iff hnamed hfound]
      rintro ⟨-, hnames | ⟨-, hnames⟩⟩
      · exact halone hnames
      · exact hqualified hnames

def nestedConfig : Config := ⟨"event", "app::macros", "log", none, true⟩

theorem honours_iff_nested : Generator.checkConfig nestedConfig = .ok () ∧
    ∃ named, nestedConfig.messageAttribute? = some named ∧
      ∀ found : Source.Attribute, IsAttributePath found.path → Honours nestedConfig named found := by
  have hcheck : Generator.checkConfig nestedConfig = .ok () := by decide +kernel
  have hparts : (nestedConfig.messageAttribute?.map fun named => (named.name, named.crate.names)) =
      some ("event", ["app", "macros"]) := by decide +kernel
  obtain ⟨named, hnamed, -, hhonours⟩ := honours_iff hcheck
  rw [hnamed, Option.map_some, Option.some.injEq, Prod.mk.injEq] at hparts
  refine ⟨hcheck, named, hnamed, hhonours.mpr ⟨hparts.1.symm, fun _ => ?_⟩⟩
  rw [hparts.2]
  decide

def rootedGenerator : Generator where
  config := { Config.default with macroCrate := "::logmsg_macro" }
  sources := [.ofText "lib.rs" ("#[::logmsg_macro::logger_message(\"A\", LogLevel::Debug, "
    ++ "\"\x7bX:u8\x7d\")] struct S;") "crate"]
  outDir := none

def plainParts (path : Source.Path) : Bool × Bool × List String :=
  (path.isPlain, path.leading, path.names)

theorem eq_of_plainParts {path : Source.Path} {leading : Bool} {names : List String}
    (h : plainParts path = (true, leading, names)) : path = ⟨leading, names.map (⟨·, .none⟩)⟩ := by
  obtain ⟨leading', segments⟩ := path
  simp only [plainParts, Prod.mk.injEq] at h
  obtain ⟨hplain, rfl, rfl⟩ := h
  have hsegments : ∀ segment ∈ segments, Segment.mk segment.name .none = segment := by
    rintro ⟨name, arguments⟩ hsegment
    have hnone := List.all_eq_true.mp hplain _ hsegment
    cases arguments with
    | none => rfl
    | _ => cases hnone
  rw [Source.Path.names, List.map_map, Source.Path.mk.injEq]
  exact ⟨rfl, ((List.map_congr_left hsegments).trans (List.map_id segments)).symm⟩

/-- The attribute is the one that is named, but its names are not joined to the text of the crate. It is
passed over, and its type is neither collected nor reported. -/
theorem honours_rooted :
    Generator.checkConfig rootedGenerator.config = .ok () ∧
      (∃ named found, rootedGenerator.config.messageAttribute? = some named ∧
        attributesOfText? "#[::logmsg_macro::logger_message]" = some [found] ∧
        found.path = named.qualified ∧ ¬Honours rootedGenerator.config named found) ∧
      (rootedGenerator.collect.on (.ofFiles .empty)).1 = .ok .empty := by
  have hcheck : Generator.checkConfig rootedGenerator.config = .ok () ∧
      (rootedGenerator.collect.on (.ofFiles .empty)).1 = .ok .empty := by decide +kernel
  have hnamed : (rootedGenerator.config.messageAttribute?.map (plainParts ·.qualified)) =
      some (true, true, ["logmsg_macro", "logger_message"]) := by decide +kernel
  have hfound : ((attributesOfText? "#[::logmsg_macro::logger_message]").map fun found =>
      found.map fun found => (plainParts found.path,
        decide ((attributeUse rootedGenerator.config found).name =
          rootedGenerator.config.qualifiedAttribute))) =
      some [((true, true, ["logmsg_macro", "logger_message"]), false)] := by decide +kernel
  obtain ⟨named, hnamed, hqualified⟩ := Option.map_eq_some_iff.mp hnamed
  obtain ⟨attributes, hattributes, hparts⟩ := Option.map_eq_some_iff.mp hfound
  obtain ⟨found, rfl⟩ := List.length_eq_one_iff.mp (by simpa using congrArg List.length hparts)
  rw [List.map_singleton, List.singleton_inj, Prod.mk.injEq, decide_eq_false_iff_not] at hparts
  have hpath : found.path = named.qualified := by
    rw [eq_of_plainParts hqualified, eq_of_plainParts hparts.1]
  refine ⟨hcheck.1, ⟨named, found, hnamed, hattributes, hpath, fun hhonours => ?_⟩, hcheck.2⟩
  exact hparts.2 (congrArg AttributeUse.name (hhonours.reads (.inr hpath)))

end Discovery

end TypedLogging
