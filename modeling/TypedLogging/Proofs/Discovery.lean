import TypedLogging.Discovery
import TypedLogging.Proofs.Collection
import TypedLogging.Source.Parse

namespace TypedLogging

namespace Source

/-- What can be around a type in a source tree. A block is any but the body of a function of a module,
an implementation or a trait with its members. -/
inductive Container
  | submodule (name : String)
  | function
  | block
  deriving DecidableEq

/-- A type with what is around it, outermost first. -/
structure Occurrence where
  containers : List Container
  item : TypeItem

namespace Occurrence

def inside (container : Container) (found : Occurrence) : Occurrence :=
  ⟨container :: found.containers, found.item⟩

/-- Nothing but the type itself stands in a function, and nothing in a block. -/
def IsReached (found : Occurrence) : Prop :=
  .function ∉ found.containers.dropLast ∧ .block ∉ found.containers

instance (found : Occurrence) : Decidable found.IsReached := inferInstanceAs (Decidable (_ ∧ _))

end Occurrence

mutual

/-- The types of an item at every depth, in the order in which they stand there. -/
def typesOf : Item → List Occurrence
  | .typeItem item => [⟨[], item⟩]
  | .submodule name content => (typesOfContent content).map (.inside (.submodule name))
  | .function body => (typesOfBody body).map (.inside .function)
  | .holding item inner => typesOf item ++ (typesOfItems inner).map (.inside .block)
  | .typeAlias _ | .trait _ | .useItem _ | .other => []
termination_by structural x => x

def typesOfContent : Option (List Item) → List Occurrence
  | none => []
  | some items => typesOfItems items
termination_by structural x => x

def typesOfItems : List Item → List Occurrence
  | [] => []
  | item :: rest => typesOf item ++ typesOfItems rest
termination_by structural x => x

def typesOfStatement : Statement → List Occurrence
  | .item item => typesOf item
  | .other inner => (typesOfItems inner).map (.inside .block)
termination_by structural x => x

def typesOfBody : List Statement → List Occurrence
  | [] => []
  | statement :: rest => typesOfStatement statement ++ typesOfBody rest
termination_by structural x => x

end

def File.types (file : File) : List Occurrence := typesOfItems file.items

end Source

namespace Discovery

open Source

/-- The module that the containers lead to. -/
def moduleOf (here : Option String) : List Container → Option String
  | [] => here
  | .submodule name :: inner => moduleOf (some (qualify here name)) inner
  | .function :: inner | .block :: inner => moduleOf here inner

/-- A type as it is recorded: a function around it comes before its module. -/
def declarationOf (config : Config) (here : Option String) (found : Occurrence) : Declaration where
  name := found.item.name
  modifiers := Code.text found.item.visibility
  enclosing := (if .function ∈ found.containers then [.other "fn"] else [])
    ++ ((moduleOf here found.containers).map Scope.inNamespace).toList
  attributes := found.item.attributes.map (attributeUse config)

section Recorded

variable (config : Config)

theorem declarations_append (first second : Findings) :
    (first ++ second).declarations = first.declarations ++ second.declarations := rfl

theorem declarations_concat (found : List Findings) :
    (Findings.concat found).declarations = found.flatMap (·.declarations) := by
  induction found with
  | nil => rfl
  | cons first rest ih =>
      rw [List.flatMap_cons, ← ih]
      rfl

theorem declarations_useFindings (here : Option String) (tree : UseTree) :
    (useFindings here tree).declarations = [] := by
  rw [useFindings, declarations_concat, List.flatMap_map, List.flatMap_eq_nil_iff]
  intro imported _
  cases imported with
  | glob path => rfl
  | named path rename =>
      rw [importFindings]
      dsimp only
      split
      · rfl
      · split <;> rfl

theorem symbols_statement (here : Option String) (statement : Statement) :
    (statementFindings config here statement).symbols = [] := by
  cases statement with
  | other inner => rfl
  | item item =>
      rw [statementFindings]
      cases item.alone <;> rfl

theorem isReached_inside_submodule (name : String) (found : Occurrence) :
    (found.inside (.submodule name)).IsReached ↔ found.IsReached := by
  cases h : found.containers with
  | nil => simp [Occurrence.IsReached, Occurrence.inside, h]
  | cons first rest => simp [Occurrence.IsReached, Occurrence.inside, h]

theorem isReached_inside_function (found : Occurrence) :
    (found.inside .function).IsReached ↔ found.containers = [] := by
  cases h : found.containers with
  | nil => simp [Occurrence.IsReached, Occurrence.inside, h]
  | cons first rest => simp [Occurrence.IsReached, Occurrence.inside, h]

theorem not_isReached_inside_block (found : Occurrence) : ¬(found.inside .block).IsReached :=
  fun h => h.2 List.mem_cons_self

theorem declarationOf_inside_submodule (here : Option String) (name : String) (found : Occurrence) :
    declarationOf config here (found.inside (.submodule name)) =
      declarationOf config (some (qualify here name)) found := by
  simp [declarationOf, Occurrence.inside, moduleOf]

def recorded (here : Option String) (found : List Occurrence) : List Declaration :=
  (found.filter (·.IsReached)).map (declarationOf config here)

theorem recorded_append (here : Option String) (first second : List Occurrence) :
    recorded config here (first ++ second) =
      recorded config here first ++ recorded config here second := by
  rw [recorded, List.filter_append, List.map_append]
  rfl

theorem recorded_inside_submodule (here : Option String) (name : String) (found : List Occurrence) :
    recorded config here (found.map (.inside (.submodule name))) =
      recorded config (some (qualify here name)) found := by
  simp only [recorded, List.filter_map, List.map_map, Function.comp_def, isReached_inside_submodule,
    declarationOf_inside_submodule]

theorem recorded_inside_block (here : Option String) (found : List Occurrence) :
    recorded config here (found.map (.inside .block)) = [] := by
  rw [recorded, List.map_eq_nil_iff, List.filter_eq_nil_iff]
  intro deep hdeep
  obtain ⟨inner, -, rfl⟩ := List.mem_map.mp hdeep
  rw [decide_eq_true_iff]
  exact not_isReached_inside_block inner

theorem recorded_inside_function_inside (here : Option String) (container : Container)
    (found : List Occurrence) :
    recorded config here ((found.map (.inside container)).map (.inside .function)) = [] := by
  rw [recorded, List.map_map, List.map_eq_nil_iff, List.filter_eq_nil_iff]
  intro deep hdeep
  obtain ⟨inner, -, rfl⟩ := List.mem_map.mp hdeep
  rw [decide_eq_true_iff, Function.comp_apply, isReached_inside_function]
  exact List.cons_ne_nil container inner.containers

theorem recorded_item (here : Option String) (item : Item) :
    recorded config here ((typesOf item).map (.inside .function)) =
      (statementFindings config here (.item item)).declarations := by
  match item with
  | .typeItem item => rfl
  | .submodule name content => exact recorded_inside_function_inside config here _ _
  | .function body => exact recorded_inside_function_inside config here _ _
  | .holding item inner =>
      rw [typesOf, List.map_append, recorded_append, recorded_inside_function_inside, List.append_nil,
        recorded_item]
      rfl
  | .typeAlias _ | .trait _ | .useItem _ | .other => rfl

theorem recorded_statement (here : Option String) (statement : Statement) :
    recorded config here ((typesOfStatement statement).map (.inside .function)) =
      (statementFindings config here statement).declarations := by
  cases statement with
  | other inner => exact recorded_inside_function_inside config here _ _
  | item item => exact recorded_item config here item

theorem recorded_body (here : Option String) (body : List Statement) :
    recorded config here ((typesOfBody body).map (.inside .function)) =
      (Findings.concat (body.map (statementFindings config here))).declarations := by
  rw [declarations_concat, List.flatMap_map]
  induction body with
  | nil => rfl
  | cons statement rest ih =>
      rw [typesOfBody, List.map_append, recorded_append, recorded_statement, ih, List.flatMap_cons]

mutual

theorem declarations_item (here : Option String) (item : Item) :
    (itemFindings config here item).declarations = recorded config here (typesOf item) := by
  match item with
  | .typeItem item => rfl
  | .typeAlias _ | .trait _ | .other => rfl
  | .useItem tree => exact declarations_useFindings here tree
  | .submodule name content =>
      rw [itemFindings, declarations_append, declarations_content, typesOf,
        recorded_inside_submodule]
      rfl
  | .function body => rw [itemFindings, typesOf, recorded_body]
  | .holding item inner =>
      rw [itemFindings, typesOf, recorded_append, recorded_inside_block, List.append_nil,
        declarations_item]

theorem declarations_content (here : Option String) (content : Option (List Item)) :
    (contentFindings config here content).declarations =
      recorded config here (typesOfContent content) := by
  match content with
  | none => rfl
  | some items => rw [contentFindings, typesOfContent, declarations_items]

theorem declarations_items (here : Option String) (items : List Item) :
    (itemsFindings config here items).declarations = recorded config here (typesOfItems items) := by
  match items with
  | [] => rfl
  | item :: rest =>
      rw [itemsFindings, typesOfItems, declarations_append, recorded_append, declarations_item,
        declarations_items]

end

theorem matching_declarationOf (here : Option String) {found : Occurrence}
    (h : ∃ used ∈ found.item.attributes, isMessage config used.path.names = true) :
    (declarationOf config here found).matching config.qualifiedAttribute ≠ [] := by
  obtain ⟨used, hused, hmessage⟩ := h
  have huse : attributeUse config used = ⟨config.qualifiedAttribute, used.arguments⟩ :=
    if_pos hmessage
  have hmem : attributeUse config used ∈
      (declarationOf config here found).matching config.qualifiedAttribute := by
    refine List.mem_filter.mpr ⟨List.mem_map_of_mem hused, ?_⟩
    rw [huse]
    exact decide_eq_true rfl
  exact List.ne_nil_of_mem hmem

end Recorded

/-- The types that are reached are recorded in order, each once, with its attributes; the others leave
no trace. What is recorded with a logger message is collected or reported. -/
theorem fileFindings_records (config : Config) (here : Option String) (file : File) :
    (fileFindings config here file).declarations =
        (file.types.filter (·.IsReached)).map (declarationOf config here) ∧
      ((fileFindings config here file).declarations.length = file.types.length ↔
        ∀ found ∈ file.types, found.IsReached) ∧
      ∀ found ∈ file.types, found.IsReached →
        (∃ used ∈ found.item.attributes, isMessage config used.path.names = true) →
          declarationOf config here found ∈ (fileFindings config here file).declarations ∧
            ∀ lookup, collect config.qualifiedAttribute lookup (declarationOf config here found) ≠
              .empty := by
  have hrecorded : (fileFindings config here file).declarations =
      (file.types.filter (·.IsReached)).map (declarationOf config here) :=
    declarations_items config here file.items
  refine ⟨hrecorded, ?_, fun found hfound hreached hmessage => ⟨?_, fun lookup => ?_⟩⟩
  · rw [hrecorded, List.length_map, List.length_filter_eq_length_iff]
    simp only [decide_eq_true_eq]
  · rw [hrecorded]
    exact List.mem_map_of_mem (List.mem_filter.mpr ⟨hfound, decide_eq_true hreached⟩)
  · rw [ne_eq, collect_eq_empty_iff]
    exact matching_declarationOf config here hmessage

def candidatesOfText? (text : String) : Option (List String) :=
  (File.ofText? text).map fun file =>
    (fileFindings .default (some "crate") file).declarations.map (·.name)

def startType : String := "#[logger_message] struct Start;"

/-- A type is recorded directly in a function, but not in a block or a function of it, or in a method. -/
theorem fileFindings_overlooks :
    candidatesOfText? ("fn run() \x7b" ++ startType ++ "\x7d") = some ["Start"] ∧
      candidatesOfText? ("fn run() \x7b \x7b" ++ startType ++ "\x7d \x7d") = some [] ∧
      candidatesOfText? ("fn run() \x7b fn now() \x7b" ++ startType ++ "\x7d \x7d") = some [] ∧
      candidatesOfText? ("impl Motor \x7b fn run() \x7b" ++ startType ++ "\x7d \x7d") = some [] := by
  decide +kernel

end Discovery

end TypedLogging
