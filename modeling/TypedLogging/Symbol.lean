namespace TypedLogging

structure TypeRef where
  name : String
  qualified : String
  deriving DecidableEq

inductive SymbolKind
  | type
  | namespace
  deriving DecidableEq

structure Symbol where
  kind : SymbolKind
  target : TypeRef
  deriving DecidableEq

namespace Symbol

def type (name qualified : String) : Symbol := ⟨.type, ⟨name, qualified⟩⟩

def ofNamespace (name qualified : String) : Symbol := ⟨.namespace, ⟨name, qualified⟩⟩

def name (symbol : Symbol) : String := symbol.target.name

def qualified (symbol : Symbol) : String := symbol.target.qualified

end Symbol

structure Location where
  namespaceName : String
  nesting : List String
  deriving DecidableEq

abbrev Lookup := Location → String → List Symbol

def distinctTypes : List Symbol → List TypeRef
  | [] => []
  | symbol :: rest =>
    if symbol.kind = .type then
      symbol.target :: (distinctTypes rest).filter (·.qualified ≠ symbol.qualified)
    else distinctTypes rest

def Lookup.resolve (lookup : Lookup) (location : Location) (token : String) : Except Nat TypeRef :=
  match distinctTypes (lookup location token) with
  | [target] => .ok target
  | candidates => .error candidates.length

structure SymbolTable where
  entries : List (Option String × Symbol)

namespace SymbolTable

def empty : SymbolTable := ⟨[]⟩

def add (table : SymbolTable) (scope : Option String) (symbol : Symbol) : SymbolTable :=
  ⟨table.entries ++ [(scope, symbol)]⟩

def inScope (table : SymbolTable) (scope : Option String) : List Symbol :=
  (table.entries.filter (·.1 = scope)).map (·.2)

/-- Symbols visible everywhere come first. -/
def visible (table : SymbolTable) (namespaceName : String) : List Symbol :=
  table.inScope none ++ table.inScope (some namespaceName)

def lookup (table : SymbolTable) : Lookup := fun location name =>
  (table.visible location.namespaceName).filter (·.name = name)

end SymbolTable

end TypedLogging
