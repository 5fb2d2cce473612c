import TypedLogging.Config
import TypedLogging.Declaration
import TypedLogging.Log
import TypedLogging.Source.Arguments
import TypedLogging.Symbol
import TypedLogging.Text.CharClass
import TypedLogging.Text.PathText

namespace TypedLogging

open Source

structure Findings where
  declarations : List Declaration
  symbols : List (String × Symbol)
  records : List LogRecord

namespace Findings

def none : Findings := ⟨[], [], []⟩

def append (first second : Findings) : Findings :=
  ⟨first.declarations ++ second.declarations, first.symbols ++ second.symbols,
    first.records ++ second.records⟩

instance : Append Findings := ⟨append⟩

def ofSymbol (here : Option String) (symbol : Symbol) : Findings :=
  ⟨[], [(here.getD "", symbol)], []⟩

def ofRecord (record : LogRecord) : Findings := ⟨[], [], [record]⟩

def concat (found : List Findings) : Findings := found.foldr append none

end Findings

namespace Discovery

def primitives : List String :=
  ["bool", "char", "str", "i8", "i16", "i32", "i64", "i128", "isize", "u8", "u16", "u32", "u64",
   "u128", "usize", "f32", "f64", "String"]

/-- Whether a path is the configured attribute, by its name alone or behind its crate. -/
def isMessage (config : Config) (names : List String) : Bool :=
  match names.getLast? with
  | none => false
  | some last =>
    last = config.attributeName
      && (names.dropLast.isEmpty || joinPath names.dropLast = config.macroCrate)

def attributeUse (config : Config) (found : Source.Attribute) : AttributeUse :=
  if isMessage config found.path.names then ⟨config.qualifiedAttribute, found.arguments⟩
  else ⟨joinPath found.path.names, []⟩

def isUnreadable (config : Config) (found : Source.Attribute) : Bool :=
  isMessage config found.path.names &&
    match found.body with
    | .list trees => (readArguments? trees).isNone
    | _ => false

def unreadableRecord : LogRecord :=
  ⟨.debug, LogTarget.arguments, "Could not parse logger message arguments"⟩

def candidate (config : Config) (enclosing : List Scope) (item : TypeItem) : Findings :=
  ⟨[⟨item.name, Code.text item.visibility, enclosing, item.attributes.map (attributeUse config)⟩],
    [], (item.attributes.filter (isUnreadable config)).map fun _ => unreadableRecord⟩

def declared (here : Option String) (name : String) : Findings :=
  .ofSymbol here (.type name (qualify here name))

inductive Import
  | named (path : List String) (rename : Option String)
  | glob (path : List String)

structure ImportWalk where
  above : List String
  found : List Import

namespace ImportWalk

def start : ImportWalk := ⟨[], []⟩

def enter (walk : ImportWalk) (name : String) : ImportWalk := ⟨walk.above ++ [name], walk.found⟩

def leave (walk : ImportWalk) : ImportWalk := ⟨walk.above.dropLast, walk.found⟩

def add (walk : ImportWalk) (imported : Import) : ImportWalk :=
  ⟨walk.above, walk.found ++ [imported]⟩

mutual

/-- Visits a tree from left to right. All of it shares one path, which is extended on the way down and
cut back on the way up. -/
def visit (walk : ImportWalk) : UseTree → ImportWalk
  | .step name tree => ((walk.enter name).visit tree).leave
  | .leaf name => walk.add (.named (walk.above ++ [name]) none)
  | .renamed name visible => walk.add (.named (walk.above ++ [name]) (some visible))
  | .glob => walk.add (.glob walk.above)
  | .group trees => walk.visitAll trees

def visitAll (walk : ImportWalk) : List UseTree → ImportWalk
  | [] => walk
  | tree :: rest => (walk.visit tree).visitAll rest

end

end ImportWalk

def moduleSegments (here : Option String) : List String := (here.map pathSegments).getD []

def climb (modules : List String) : List String → List String
  | "super" :: rest => climb modules.dropLast rest
  | rest => modules ++ rest

/-- The full path of an imported path. Only one `self` or a run of `super` in front is relative to the
module. -/
def absolute (here : Option String) (path : List String) : String :=
  joinPath (match path with
    | "self" :: rest => moduleSegments here ++ rest
    | "super" :: _ => climb (moduleSegments here) path
    | _ => path)

def startsUppercase (name : String) : Bool := (name.toList.head?.map Text.isUppercase).getD false

/-- A final `self` stands for the module before it. -/
def dropFinalSelf (path : List String) : List String :=
  if path.getLast? = some "self" then path.dropLast else path

/-- What an import makes visible. Names that begin with an uppercase letter are taken for types. -/
def importFindings (here : Option String) : Import → Findings
  | .glob path =>
    .ofRecord ⟨.debug, LogTarget.discovery, s!"Ignoring glob import of `{joinPath path}`"⟩
  | .named path rename =>
    let target := dropFinalSelf path
    match target.getLast? with
    | none => .none
    | some last =>
      let visible := rename.getD last
      if visible = "_" then .none
      else
        let full := absolute here target
        .ofSymbol here (if startsUppercase last then .type visible full
          else .ofNamespace visible full)

def moduleScope (here : Option String) : List Scope := (here.map Scope.inNamespace).toList

def useFindings (here : Option String) (tree : UseTree) : Findings :=
  .concat ((ImportWalk.start.visit tree).found.map (importFindings here))

def typeFindings (config : Config) (here : Option String) (item : TypeItem) : Findings :=
  declared here item.name ++ candidate config (moduleScope here) item

/-- Types inside a function are candidates, so that they can be reported, but the module does not see
them. -/
def statementFindings (config : Config) (here : Option String) : Statement → Findings
  | .item item =>
    match item.alone with
    | .typeItem item => candidate config (.other "fn" :: moduleScope here) item
    | _ => .none
  | .other _ => .none

def submoduleSymbol (here : Option String) (name : String) : Findings :=
  .ofSymbol here (.ofNamespace name (qualify here name))

mutual

def itemFindings (config : Config) (here : Option String) : Item → Findings
  | .typeItem item => typeFindings config here item
  | .typeAlias name => declared here name
  | .trait name => declared here name
  | .useItem tree => useFindings here tree
  | .submodule name content =>
    submoduleSymbol here name ++ contentFindings config (some (qualify here name)) content
  | .function body => .concat (body.map (statementFindings config here))
  | .holding item _ => itemFindings config here item
  | .other => .none

def contentFindings (config : Config) (here : Option String) : Option (List Item) → Findings
  | none => .none
  | some items => itemsFindings config here items

def itemsFindings (config : Config) (here : Option String) : List Item → Findings
  | [] => .none
  | item :: rest => itemFindings config here item ++ itemsFindings config here rest

end

/-- What a file contributes as the module `here`; without one its own items are in no namespace. -/
def fileFindings (config : Config) (here : Option String) (file : File) : Findings :=
  itemsFindings config here file.items

def symbolTable (found : Findings) : SymbolTable :=
  ⟨primitives.map (fun name => (none, Symbol.type name name))
    ++ found.symbols.map fun (scope, symbol) => (some scope, symbol)⟩

end Discovery

end TypedLogging
