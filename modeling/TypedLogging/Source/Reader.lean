import TypedLogging.Source.Literal
import TypedLogging.Source.Tree

namespace TypedLogging.Source

/-- The trees still to be read, the code written so far, last piece first, and the items read so far in
blocks that are not kept themselves. -/
structure Cursor where
  rest : List TokenTree
  written : Code
  inner : List Item

abbrev Reader := StateT Cursor Option

def reservedWords : List String :=
  ["_", "abstract", "as", "async", "await", "become", "box", "break", "const", "continue", "crate",
   "do", "dyn", "else", "enum", "extern", "false", "final", "fn", "for", "if", "impl", "in", "let",
   "loop", "macro", "match", "mod", "move", "mut", "override", "priv", "pub", "ref", "return",
   "Self", "self", "static", "struct", "super", "trait", "true", "try", "type", "typeof", "unsafe",
   "unsized", "use", "virtual", "where", "while", "yield"]

def isReserved (name : String) : Bool := reservedWords.contains name

namespace Ahead

abbrev Test := List TokenTree → Bool

def puncts : List Char → Test
  | [], _ => true
  | [c], .punct d _ :: _ => c == d
  | c :: cs, .punct d joint :: rest => c == d && joint && puncts cs rest
  | _, _ => false

/-- Whether the characters of an operator stand here side by side. What follows them is not looked
at, so `=` is also ahead where `==` is. -/
def op (text : String) : Test := puncts text.toList

def word (name : String) : Test
  | .ident found :: _ => found == name
  | _ => false

def anyWord : Test
  | .ident _ :: _ => true
  | _ => false

def ident : Test
  | .ident found :: _ => !isReserved found
  | _ => false

def lifetime : Test
  | .punct '\'' true :: .ident _ :: _ => true
  | _ => false

def group (delimiter : Delimiter) : Test
  | .group found _ :: _ => found = delimiter
  | _ => false

def anyGroup : Test
  | .group _ _ :: _ => true
  | _ => false

def nothing : Test := List.isEmpty

def literal? : List TokenTree → Option Literal
  | .literal text :: _ => some (.ofText text)
  | .ident "true" :: _ | .ident "false" :: _ => some .boolean
  | .punct '-' _ :: .literal text :: _ => Literal.ofNegated? text
  | _ => none

def literal : Test := fun trees => (literal? trees).isSome

def string : Test := fun trees =>
  match literal? trees with
  | some (.string _) => true
  | _ => false

def integer : Test := fun trees =>
  match literal? trees with
  | some (.integer _ _) => true
  | _ => false

/-- The trees behind the next one; a lifetime counts as one tree. -/
def skip : List TokenTree → List TokenTree
  | .punct '\'' _ :: .ident _ :: rest => rest
  | _ :: rest => rest
  | [] => []

def second (test : Test) : Test := fun trees => test (skip trees)

def third (test : Test) : Test := fun trees => test (skip (skip trees))

def dot : Test := fun trees => op "." trees && !op ".." trees

def assign : Test := fun trees => op "=" trees && !op "=>" trees

def colon : Test := fun trees => op ":" trees && !op "::" trees

end Ahead

namespace Reader

open Ahead (Test)

def write (code : Code) : Reader Unit :=
  modify fun c => { c with written := code.reverse ++ c.written }

def ahead (test : Test) : Reader Bool := return test (← get).rest

def quietly {α : Type} (reader : Reader α) : Reader (α × Code) := do
  let before := (← get).written
  modify fun c => { c with written := [] }
  let result ← reader
  let code := (← get).written.reverse
  modify fun c => { c with written := before }
  return (result, code)

def silently {α : Type} (reader : Reader α) : Reader α := do
  let (result, _) ← quietly reader
  return result

def keep (items : List Item) : Reader Unit :=
  modify fun c => { c with inner := c.inner ++ items }

def collecting {α : Type} (reader : Reader α) : Reader (α × List Item) := do
  let before := (← get).inner
  modify fun c => { c with inner := [] }
  let result ← reader
  let inner := (← get).inner
  modify fun c => { c with inner := before }
  return (result, inner)

def forgetting {α : Type} (reader : Reader α) : Reader α := do
  let (result, _) ← collecting reader
  return result

def codeSince (before : List TokenTree) : Reader Code := do
  let behind := (← get).rest
  return Code.ofTrees (before.take (before.length - behind.length))

def verbatim {α : Type} (reader : Reader α) : Reader α := do
  let before := (← get).rest
  let result ← silently reader
  write (← codeSince before)
  return result

def settled {α : Type} (reader : Reader (α × Bool)) : Reader α := do
  let before := (← get).rest
  let ((result, asItStands), code) ← quietly reader
  if asItStands then write (← codeSince before) else write code
  return result

def attempt {α : Type} (reader : Reader α) : Reader (Option α) := fun c =>
  match reader c with
  | some (result, behind) => some (some result, behind)
  | none => some (none, c)

def dropPuncts : List Char → List TokenTree → Option (List TokenTree)
  | [], trees => some trees
  | [c], .punct d _ :: rest => if c = d then some rest else none
  | c :: cs, .punct d true :: rest => if c = d then dropPuncts cs rest else none
  | _, _ => none

def skipOp (text : String) : Reader Unit := do
  let c ← get
  match dropPuncts text.toList c.rest with
  | some rest => set { c with rest := rest }
  | none => failure

def op (text : String) : Reader Unit := do
  skipOp text
  write [.word text]

def word (name : String) : Reader Unit := do
  let c ← get
  match c.rest with
  | .ident found :: rest =>
    guard (found = name)
    set { c with rest := rest }
    write [.word name]
  | _ => failure

def skipWord (name : String) : Reader Unit := silently (word name)

def anyWord : Reader String := do
  let c ← get
  match c.rest with
  | .ident name :: rest =>
    set { c with rest := rest }
    write [.word name]
    return name
  | _ => failure

def ident : Reader String := do
  guard (← ahead Ahead.ident)
  anyWord

def lifetime : Reader Unit := do
  let c ← get
  match c.rest with
  | .punct '\'' true :: .ident name :: rest =>
    set { c with rest := rest }
    write [.word ("'" ++ name)]
  | _ => failure

def literal : Reader Literal := do
  let c ← get
  match Ahead.literal? c.rest, c.rest with
  | some found, .literal text :: rest =>
    set { c with rest := rest }
    write [.word text]
    return found
  | some found, .ident name :: rest =>
    set { c with rest := rest }
    write [.word name]
    return found
  | some found, _ :: .literal text :: rest =>
    set { c with rest := rest }
    write [.word "-", .word text]
    return found
  | _, _ => failure

def group {α : Type} (delimiter : Delimiter) (reader : Reader α) : Reader α := do
  let c ← get
  match c.rest with
  | .group found trees :: rest =>
    guard (found = delimiter)
    set { c with rest := trees }
    let (result, body) ← quietly reader
    guard ((← get).rest.isEmpty)
    modify fun inner => { inner with rest := rest }
    write [.group delimiter body]
    return result
  | _ => failure

def rawGroup : Reader (Delimiter × List TokenTree) := do
  let c ← get
  match c.rest with
  | .group delimiter trees :: rest =>
    set { c with rest := rest }
    write [.group delimiter (Code.ofTrees trees)]
    return (delimiter, trees)
  | _ => failure

def optionalWord (name : String) : Reader Bool := do
  let found ← ahead (Ahead.word name)
  if found then word name
  return found

def optionalOp (text : String) : Reader Bool := do
  let found ← ahead (Ahead.op text)
  if found then op text
  return found

def optionalLifetime : Reader Unit := do
  if ← ahead Ahead.lifetime then lifetime

def optionalLabel : Reader (Option String) := do
  match (← get).rest with
  | .punct '\'' true :: .ident name :: rest =>
    modify fun c => { c with rest := rest }
    return some ("'" ++ name)
  | _ => return none

def iterate {α : Type} (step : α → Reader (Option α)) : Nat → α → Reader α
  | 0, _ => failure
  | fuel + 1, a => do
    match ← step a with
    | some next => iterate step fuel next
    | none => return a

/-- Takes steps until one gives nothing. Every step but the last reads a tree, so that the trees
ahead bound their number. -/
def exhaust {α : Type} (step : α → Reader (Option α)) (start : α) : Reader α := do
  iterate step ((← get).rest.length + 1) start

def many {α : Type} (stop : Test) (reader : Reader α) : Reader (List α) := do
  let read ← exhaust (fun found => do
    if ← ahead stop then return none
    return some ((← reader) :: found)) []
  return read.reverse

def terminated {α : Type} (stop : Test) (separator : String) (reader : Reader α) :
    Reader (List α) := do
  let (read, _) ← exhaust (fun ((found, open') : List α × Bool) => do
    if !open' || (← ahead stop) then return none
    let next ← reader
    if ← ahead stop then return some (next :: found, false)
    op separator
    return some (next :: found, true)) ([], true)
  return read.reverse

/-- Reads elements as long as separators follow them; an element may be missing at the end. -/
def separated {α : Type} (stop : Test) (separator : String) (reader : Reader α) :
    Reader (List α) := do
  let (read, _) ← exhaust (fun ((found, open') : List α × Bool) => do
    if !open' || (← ahead stop) then return none
    let next ← reader
    return some (next :: found, ← optionalOp separator)) ([], true)
  return read.reverse

def listIn {α : Type} (delimiter : Delimiter) (reader : Reader α) : Reader (List α) :=
  group delimiter (terminated Ahead.nothing "," reader)

def run {α : Type} (reader : Reader α) (trees : List TokenTree) : Option (α × Code) :=
  match reader ⟨trees, [], []⟩ with
  | some (result, ⟨[], written, _⟩) => some (result, written.reverse)
  | _ => none

end Reader

end TypedLogging.Source
