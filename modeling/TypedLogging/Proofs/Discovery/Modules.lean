import TypedLogging.Proofs.Discovery.Imports
import TypedLogging.Proofs.Source.Lexing

namespace TypedLogging

namespace Source

/-- An item with the modules that it is written in, outermost first. -/
structure Member where
  modules : List String
  item : Item

def Member.inside (name : String) (member : Member) : Member := ⟨name :: member.modules, member.item⟩

mutual

/-- An item before those that are written in it. -/
def membersOf : Item → List Member
  | .submodule name content =>
    ⟨[], .submodule name content⟩ :: (membersOfContent content).map (.inside name)
  | .holding item _ => membersOf item
  | item => [⟨[], item⟩]

def membersOfContent : Option (List Item) → List Member
  | none => []
  | some items => membersOfItems items

def membersOfItems : List Item → List Member
  | [] => []
  | item :: rest => membersOf item ++ membersOfItems rest

end

def File.members (file : File) : List Member := membersOfItems file.items

def directTypes (body : List Statement) : List TypeItem :=
  body.filterMap fun
    | .item item =>
      match item.alone with
      | .typeItem item => some item
      | _ => none
    | .other _ => none

end Source

namespace Discovery

open Source Lexer

/-- The module that these modules of a file lead to. There is none for a file without a path and outside
of its modules. -/
def modulePath (here : Option String) (modules : List String) : Option String :=
  match here.toList ++ modules with
  | [] => none
  | segments => some (joinPath segments)

/-- The scope that a symbol table keeps for a module. -/
def scopeName (path : Option String) : String := path.getD ""

def scopeOf (here : Option String) (member : Member) : String :=
  scopeName (modulePath here member.modules)

def declarationIn (config : Config) (enclosing : List Scope) (item : TypeItem) : Declaration :=
  ⟨item.name, Code.text item.visibility, enclosing, item.attributes.map (attributeUse config)⟩

def declaredBy (config : Config) (path : Option String) : Item → List Declaration
  | .typeItem item => [declarationIn config (path.map Scope.inNamespace).toList item]
  | .function body =>
    (directTypes body).map (declarationIn config (.other "fn" :: (path.map Scope.inNamespace).toList))
  | .holding item _ => declaredBy config path item
  | _ => []

def namedBy (path : Option String) : Item → List Symbol
  | .typeItem item => [.type item.name (qualify path item.name)]
  | .typeAlias name | .trait name => [.type name (qualify path name)]
  | .submodule name _ => [.ofNamespace name (qualify path name)]
  | .useItem tree => (leavesOf tree).filterMap (leafSymbol? path)
  | .holding item _ => namedBy path item
  | .function _ | .other => []

section Paths

variable {names names' : List String}

theorem modulePath_nil (here : Option String) : modulePath here [] = here := by
  cases here with
  | none => rfl
  | some path => exact congrArg some (joinPath_singleton path)

theorem modulePath_qualify (here : Option String) (name : String) (modules : List String) :
    modulePath (some (qualify here name)) modules = modulePath here (name :: modules) := by
  cases here with
  | none => rfl
  | some path =>
      refine congrArg some (String.toList_injective ?_)
      rw [Option.toList_some, List.singleton_append, Option.toList_some, List.singleton_append,
        toList_joinPath_cons, toList_joinPath_cons, List.flatMap_cons]
      simp [qualify, segmentText, toString]

theorem scopeName_modulePath (here : Option String) (modules : List String) :
    scopeName (modulePath here modules) = joinPath (here.toList ++ modules) := by
  rw [modulePath]
  split
  · next hnone => rw [hnone]; rfl
  · rfl

theorem eq_of_joinPath (h : ∀ name ∈ names, IsIdent name) (h' : ∀ name ∈ names', IsIdent name)
    (hjoin : joinPath names = joinPath names') : names = names' := by
  have hlex := lex_joinPath h
  rw [hjoin, lex_joinPath h', Option.some.injEq] at hlex
  rw [← identsOf_pathTrees names, ← hlex, identsOf_pathTrees]

theorem eq_of_scopeName {here : Option String} (h : ∀ name ∈ names, IsIdent name)
    (h' : ∀ name ∈ names', IsIdent name)
    (hscope : scopeName (modulePath here names) = scopeName (modulePath here names')) :
    names = names' := by
  rw [scopeName_modulePath, scopeName_modulePath] at hscope
  cases here with
  | none => exact eq_of_joinPath h h' hscope
  | some path =>
      have hbehind : names.flatMap segmentText = names'.flatMap segmentText := by
        have htext := congrArg String.toList hscope
        rw [Option.toList_some, List.singleton_append, List.singleton_append, toList_joinPath_cons,
          toList_joinPath_cons] at htext
        exact List.append_cancel_left htext
      have hfront : IsIdent "m" := by decide
      have hjoin : joinPath ("m" :: names) = joinPath ("m" :: names') := by
        rw [← String.toList_inj, toList_joinPath_cons, toList_joinPath_cons, hbehind]
      exact List.tail_eq_of_cons_eq (eq_of_joinPath (List.forall_mem_cons.mpr ⟨hfront, h⟩)
        (List.forall_mem_cons.mpr ⟨hfront, h'⟩) hjoin)

end Paths

section Walk

variable (config : Config)

theorem append_eq (first second : Findings) :
    first ++ second = ⟨first.declarations ++ second.declarations, first.symbols ++ second.symbols,
      first.records ++ second.records⟩ := rfl

theorem concat_append (first second : List Findings) :
    Findings.concat (first ++ second) = .concat first ++ .concat second := by
  induction first with
  | nil => rfl
  | cons found rest ih =>
      have hcons (more : List Findings) : Findings.concat (found :: more) = found ++ .concat more := rfl
      rw [List.cons_append, hcons, hcons, ih]
      simp only [append_eq, List.append_assoc]

theorem concat_singleton (found : Findings) : Findings.concat [found] = found := by
  have hcons : Findings.concat [found] = found ++ .none := rfl
  simp only [hcons, append_eq, Findings.none, List.append_nil]

def ownFindings (path : Option String) : Item → Findings
  | .submodule name _ => submoduleSymbol path name
  | .holding item _ => ownFindings path item
  | item => itemFindings config path item

def memberFindings (here : Option String) (member : Member) : Findings :=
  ownFindings config (modulePath here member.modules) member.item

theorem memberFindings_inside (here : Option String) (name : String) (member : Member) :
    memberFindings config here (member.inside name) =
      memberFindings config (some (qualify here name)) member := by
  rw [memberFindings, memberFindings, modulePath_qualify]
  rfl

mutual

theorem itemFindings_eq (here : Option String) (item : Item) :
    itemFindings config here item = .concat ((membersOf item).map (memberFindings config here)) := by
  match item with
  | .submodule name content =>
      have hcontent : ((membersOfContent content).map (.inside name)).map
          (memberFindings config here) =
          (membersOfContent content).map (memberFindings config (some (qualify here name))) := by
        rw [List.map_map]
        exact List.map_congr_left fun member _ => memberFindings_inside config here name member
      rw [itemFindings, contentFindings_eq, membersOf, List.map_cons, hcontent, memberFindings,
        modulePath_nil]
      rfl
  | .holding item inner => rw [itemFindings, membersOf, itemFindings_eq]
  | .typeItem _ | .typeAlias _ | .trait _ | .useItem _ | .function _ | .other =>
      rw [membersOf, List.map_singleton, memberFindings, modulePath_nil, concat_singleton,
        ownFindings]
      all_goals intro _ _ h; cases h

theorem contentFindings_eq (here : Option String) (content : Option (List Item)) :
    contentFindings config here content =
      .concat ((membersOfContent content).map (memberFindings config here)) := by
  match content with
  | none => rfl
  | some items => rw [contentFindings, membersOfContent, itemsFindings_eq]

theorem itemsFindings_eq (here : Option String) (items : List Item) :
    itemsFindings config here items =
      .concat ((membersOfItems items).map (memberFindings config here)) := by
  match items with
  | [] => rfl
  | item :: rest =>
      rw [itemsFindings, itemFindings_eq, itemsFindings_eq, membersOfItems, List.map_append,
        concat_append]

end

theorem declarations_statement (path : Option String) (statement : Statement) :
    (statementFindings config path statement).declarations =
      (directTypes [statement]).map
        (declarationIn config (.other "fn" :: (path.map Scope.inNamespace).toList)) := by
  cases statement with
  | other inner => rfl
  | item item =>
      simp only [statementFindings, directTypes, List.filterMap_cons, List.filterMap_nil]
      cases item.alone <;> rfl

theorem declarations_ownFindings (path : Option String) (item : Item) :
    (ownFindings config path item).declarations = declaredBy config path item := by
  match item with
  | .typeItem _ | .typeAlias _ | .trait _ | .submodule _ _ | .other => rfl
  | .useItem tree => exact declarations_useFindings path tree
  | .holding item inner => rw [ownFindings, declaredBy, declarations_ownFindings]
  | .function body =>
      rw [ownFindings, itemFindings, declarations_concat, List.flatMap_map, declaredBy]
      · induction body with
        | nil => rfl
        | cons statement rest ih =>
            have hsplit : directTypes (statement :: rest) =
                directTypes [statement] ++ directTypes rest :=
              List.filterMap_append (l := [statement])
            rw [List.flatMap_cons, declarations_statement, ih, hsplit, List.map_append]
      all_goals intro _ _ h; cases h

theorem symbols_ownFindings (path : Option String) (item : Item) :
    (ownFindings config path item).symbols = (namedBy path item).map (scopeName path, ·) := by
  match item with
  | .typeItem _ | .typeAlias _ | .trait _ | .submodule _ _ | .other => rfl
  | .useItem tree => exact symbols_useFindings path tree
  | .holding item inner => rw [ownFindings, namedBy, symbols_ownFindings]
  | .function body =>
      rw [ownFindings, itemFindings, symbols_concat, List.flatMap_map]
      · exact List.flatMap_eq_nil_iff.mpr fun statement _ => symbols_statement config path statement
      all_goals intro _ _ h; cases h

end Walk

theorem inScope_symbolTable (found : Findings) (scope : String) :
    (symbolTable found).inScope (some scope) =
      (found.symbols.filter (·.1 = scope)).map (·.2) := by
  rw [symbolTable, SymbolTable.inScope, List.filter_append, List.filter_map, List.filter_map,
    List.map_append, List.map_map, List.map_map]
  have hprimitives : primitives.filter ((fun entry => decide (entry.1 = some scope)) ∘
      fun name => ((none : Option String), Symbol.type name name)) = [] :=
    List.filter_eq_nil_iff.mpr fun name _ => by simp
  rw [hprimitives, List.map_nil, List.nil_append]
  simp [Function.comp_def]

theorem symbols_members (config : Config) (here : Option String) (file : File) :
    (fileFindings config here file).symbols = file.members.flatMap fun member =>
      (namedBy (modulePath here member.modules) member.item).map (scopeOf here member, ·) := by
  rw [fileFindings, itemsFindings_eq, symbols_concat, List.flatMap_map, File.members]
  exact List.flatMap_congr fun member _ => symbols_ownFindings config _ member.item

theorem inScope_members (config : Config) (here : Option String) (file : File) (scope : String) :
    (symbolTable (fileFindings config here file)).inScope (some scope) =
      (file.members.filter (scopeOf here · = scope)).flatMap fun member =>
        namedBy (modulePath here member.modules) member.item := by
  rw [inScope_symbolTable, symbols_members]
  induction file.members with
  | nil => rfl
  | cons member rest ih =>
      rw [List.flatMap_cons, List.filter_append, List.map_append, ih, List.filter_cons]
      by_cases hscope : scopeOf here member = scope <;>
        simp [hscope, List.filter_map, Function.comp_def]

/-- Declarations are recorded in the order of the walk, with the module that they are written in. A scope
has the names of the items that are written in the modules it stands for, in order; if the names of
modules are identifiers, that is one module. -/
theorem fileFindings_placed (config : Config) (here : Option String) (file : File) :
    (fileFindings config here file).declarations =
        file.members.flatMap (fun member =>
          declaredBy config (modulePath here member.modules) member.item) ∧
      (∀ scope, (symbolTable (fileFindings config here file)).inScope (some scope) =
        (file.members.filter (scopeOf here · = scope)).flatMap fun member =>
          namedBy (modulePath here member.modules) member.item) ∧
      ((∀ member ∈ file.members, ∀ name ∈ member.modules, IsIdent name) →
        ∀ modules : List String, (∀ name ∈ modules, IsIdent name) →
          (symbolTable (fileFindings config here file)).inScope
              (some (scopeName (modulePath here modules))) =
            (file.members.filter (·.modules = modules)).flatMap fun member =>
              namedBy (modulePath here modules) member.item) := by
  refine ⟨?_, inScope_members config here file, fun hfile modules hmodules => ?_⟩
  · rw [fileFindings, itemsFindings_eq, declarations_concat, List.flatMap_map, File.members]
    exact List.flatMap_congr fun member _ => declarations_ownFindings config _ member.item
  · have hfilter : file.members.filter
        (scopeOf here · = scopeName (modulePath here modules)) =
        file.members.filter (·.modules = modules) := by
      refine List.filter_congr fun member hmember => decide_eq_decide.mpr ⟨fun hscope => ?_, ?_⟩
      · exact eq_of_scopeName (hfile member hmember) hmodules hscope
      · exact fun hsame => by rw [scopeOf, hsame]
    rw [inScope_members, hfilter]
    refine List.flatMap_congr fun member hmember => ?_
    rw [of_decide_eq_true (List.mem_filter.mp hmember).2]

def stateFile : File where
  items := [.submodule "state" (some [.typeItem ⟨"Idle", [], [], false⟩]), .trait "Motor",
    .function [.item (.typeItem ⟨"Start", [], [], false⟩)]]

theorem fileFindings_placed_state :
    (∀ member ∈ stateFile.members, ∀ name ∈ member.modules, IsIdent name) ∧
      (∀ name ∈ ["state"], IsIdent name) ∧
      (symbolTable (fileFindings .default (some "crate") stateFile)).inScope (some "crate::state") =
        [.type "Idle" "crate::state::Idle"] := by
  have hfile : ∀ member ∈ stateFile.members, ∀ name ∈ member.modules, IsIdent name := by
    decide
  have hmodules : ∀ name ∈ ["state"], IsIdent name := by decide
  have hscope : scopeName (modulePath (some "crate") ["state"]) = "crate::state" := by decide
  have hstate := (fileFindings_placed .default (some "crate") stateFile).2.2 hfile ["state"] hmodules
  rw [hscope] at hstate
  exact ⟨hfile, hmodules, hstate.trans (by decide)⟩

end Discovery

end TypedLogging
