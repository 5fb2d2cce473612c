import TypedLogging.Source.Expr.Basic

namespace TypedLogging.Source

inductive AttributeBody
  | bare
  | list (trees : List TokenTree)
  | value (expr : Expr)

structure Attribute where
  path : Path
  body : AttributeBody

inductive UseTree
  | step (name : String) (tree : UseTree)
  | leaf (name : String)
  | renamed (name visible : String)
  | glob
  | group (trees : List UseTree)

structure TypeItem where
  name : String
  visibility : Code
  attributes : List Attribute
  isGeneric : Bool

mutual

inductive Item
  | typeItem (item : TypeItem)
  | typeAlias (name : String)
  | trait (name : String)
  | useItem (tree : UseTree)
  | submodule (name : String) (content : Option (List Item))
  | function (body : List Statement)
  /-- An item and those in the blocks, the members and the constants inside of it. -/
  | holding (item : Item) (inner : List Item)
  | other

inductive Statement
  | item (item : Item)
  | other (inner : List Item)

end

def Item.with (item : Item) (inner : List Item) : Item :=
  if inner.isEmpty then item else .holding item inner

def Item.alone : Item → Item
  | .holding item _ => item.alone
  | item => item

def Statement.items : Statement → List Item
  | .item found => [found]
  | .other inner => inner

structure File where
  items : List Item

end TypedLogging.Source
