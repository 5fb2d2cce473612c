import TypedLogging.Host
import TypedLogging.Text.Bytes
import TypedLogging.Text.Words

namespace TypedLogging

inductive Node
  | directory
  | file (contents : Option String)
  deriving DecidableEq

abbrev PathNames := List String

namespace Files

/-- The working directory, those above it and the root of all paths are there without an entry. -/
def isGiven (path : PathNames) : Bool := path = ["/"] || path.all (· = "..")

abbrev Entries := List (PathNames × Node)

def Entries.find? (entries : Entries) (path : PathNames) : Option Node :=
  if isGiven path then some .directory else (List.find? (·.1 = path) entries).map (·.2)

def Entries.IsTree (entries : Entries) : Prop :=
  ∀ entry ∈ entries, entries.find? entry.1.dropLast = some .directory

end Files

structure Files where
  entries : Files.Entries
  isTree : entries.IsTree
  deriving DecidableEq

namespace Files

namespace Entries

variable {entries : Entries} {path place : PathNames} {node : Node}

theorem find?_of_isGiven (entries : Entries) (h : isGiven place = true) :
    entries.find? place = some .directory := by
  rw [find?, if_pos h]

theorem find?_filter (entries : Entries) {p : PathNames → Bool} (h : p place = true) :
    find? (entries.filter fun entry => p entry.1) place = entries.find? place := by
  have hsame : ∀ entry : PathNames × Node,
      (p entry.1 = true ∧ decide (entry.1 = place) = true) ↔ entry.1 = place := by
    intro entry
    rw [decide_eq_true_iff, and_iff_right_iff_imp]
    rintro rfl
    exact h
  simp only [find?, List.find?_filter, hsame]

def put (entries : Entries) (path : PathNames) (node : Node) : Entries :=
  entries.filter (fun entry => entry.1 ≠ path) ++ [(path, node)]

theorem find?_put_self (entries : Entries) (node : Node) (h : isGiven path = false) :
    find? (entries.put path node) path = some node := by
  have hnone : List.find? (fun entry => decide (entry.1 = path))
      (entries.filter fun entry => entry.1 ≠ path) = none := by
    rw [List.find?_eq_none]
    intro entry hentry
    simpa using (List.mem_filter.mp hentry).2
  rw [find?, if_neg (by simp [h]), put, List.find?_append, hnone]
  simp

theorem find?_put_of_ne (entries : Entries) (node : Node) (h : place ≠ path) :
    find? (entries.put path node) place = entries.find? place := by
  have hlast : List.find? (fun entry => decide (entry.1 = place)) [(path, node)] = none := by
    simpa using h.symm
  rw [← find?_filter entries (p := (· ≠ path)) (decide_eq_true h), find?, find?, put,
    List.find?_append, hlast, Option.or_none]

theorem IsTree.put (h : entries.IsTree) (node : Node)
    (haround : entries.find? path.dropLast = some .directory)
    (hfree : entries.find? path ≠ some .directory) : (entries.put path node).IsTree := by
  have hkeeps : ∀ place, entries.find? place = some .directory →
      (entries.put path node).find? place = some .directory := by
    intro place hplace
    rwa [find?_put_of_ne]
    rintro rfl
    exact hfree hplace
  intro entry hentry
  rcases List.mem_append.mp hentry with hentry | hentry
  · exact hkeeps _ (h entry (List.mem_filter.mp hentry).1)
  · rw [List.mem_singleton.mp hentry]
    exact hkeeps _ haround

def without (entries : Entries) (path : PathNames) : Entries :=
  entries.filter fun entry => !path.isPrefixOf entry.1

theorem IsTree.without (h : entries.IsTree) (path : PathNames) : (entries.without path).IsTree := by
  intro entry hentry
  obtain ⟨hmem, hkept⟩ := List.mem_filter.mp hentry
  have haround : (!path.isPrefixOf entry.1.dropLast) = true := by
    simp only [Bool.not_eq_eq_eq_not, Bool.not_true, ← Bool.not_eq_true, List.isPrefixOf_iff_prefix]
      at hkept ⊢
    exact fun h => hkept (h.trans (List.dropLast_prefix _))
  exact (find?_filter entries (p := fun other => !path.isPrefixOf other) haround).trans
    (h entry hmem)

end Entries

def pathText (path : PathNames) : String := "/".intercalate path

def empty : Files := ⟨[], nofun⟩

def find? (files : Files) (path : PathNames) : Option Node := files.entries.find? path

def isDirectory (files : Files) (path : PathNames) : Bool := files.find? path = some .directory

/-- There is a directory around the path, and none at it. -/
def HasRoom (files : Files) (path : PathNames) : Prop :=
  files.find? path.dropLast = some .directory ∧ files.find? path ≠ some .directory

instance (files : Files) (path : PathNames) : Decidable (files.HasRoom path) :=
  inferInstanceAs (Decidable (_ ∧ _))

def put (files : Files) (path : PathNames) (node : Node) : Files :=
  if h : files.HasRoom path then ⟨files.entries.put path node, files.isTree.put node h.1 h.2⟩ else files

structure WrittenPath where
  names : PathNames
  mustBeDirectory : Bool
  endsInDot : Bool

/-- Single dots and repeated slashes do not count. -/
def writtenPath (text : String) : WrittenPath :=
  let pieces := (Text.piecesAt (· == '/') text.toList).map String.ofList
  let names := pieces.filter fun name => name ≠ "" && name ≠ "."
  let last := pieces.getLastD ""
  ⟨if text.startsWith "/" then "/" :: names else names, last = "" || last = ".",
    (pieces.filter (· ≠ "")).getLast? = some "."⟩

def maxNameLength : Nat := 255

def maxPathLength : Nat := 4095

def checkPath (text : String) : Except IoFault Unit := do
  if text.toList.contains '\x00' then throw .nullInName
  if maxPathLength < Text.byteLength text.toList then throw .nameTooLong

def parentOf (path : PathNames) : PathNames :=
  if path = ["/"] then path
  else if path.all (· = "..") then path ++ [".."]
  else path.dropLast

/-- Follows the names from a directory on. All but the last have to be directories. -/
def follow (files : Files) (here : PathNames) : PathNames → Except IoFault PathNames
  | [] => .ok here
  | ".." :: rest => follow files (parentOf here) rest
  | [name] =>
    if maxNameLength < Text.byteLength name.toList then .error .nameTooLong
    else .ok (here ++ [name])
  | name :: rest =>
    if maxNameLength < Text.byteLength name.toList then .error .nameTooLong
    else match files.find? (here ++ [name]) with
      | some .directory => follow files (here ++ [name]) rest
      | some (.file _) => .error .notADirectory
      | none => .error .notFound

def resolve (files : Files) (text : String) : Except IoFault PathNames := do
  if text = "" then throw .notFound
  checkPath text
  let written := writtenPath text
  let path ← follow files [] written.names
  if written.mustBeDirectory then
    match files.find? path with
    | some (.file _) => throw .notADirectory
    | _ => return path
  else return path

def read (files : Files) (text : String) : Except IoFault String := do
  match files.find? (← files.resolve text) with
  | some (.file (some contents)) => return contents
  | some (.file none) => throw .notText
  | some .directory => throw .isADirectory
  | none => throw .notFound

def target (files : Files) (text : String) : Except IoFault PathNames := do
  let path ← files.resolve text
  if files.isDirectory path || (writtenPath text).mustBeDirectory then throw .isADirectory
  return path

/-- Makes the directories along the names that are missing. What was made stays even if the rest
fails. -/
def makeAlong (files : Files) (here : PathNames) : PathNames → Files × Except IoFault Unit
  | [] => (files, .ok ())
  | ".." :: rest => makeAlong files (parentOf here) rest
  | name :: rest =>
    let path := here ++ [name]
    if maxNameLength < Text.byteLength name.toList then (files, .error .nameTooLong)
    else match files.find? path with
      | some .directory => makeAlong files path rest
      | some (.file _) => (files, .error .alreadyExists)
      | none => makeAlong (files.put path .directory) path rest

def checkDirectory (files : Files) (names : PathNames) : Except IoFault Unit := do
  match files.find? (← follow files [] names) with
  | some .directory => return
  | some (.file _) => throw .notADirectory
  | none => throw .notFound

/-- Makes a directory after those above it. A single dot at the end is no name to make a directory
of, so that what stands before it has to be there. -/
def makeDirs (files : Files) (text : String) : Files × Except IoFault Unit :=
  match checkPath text with
  | .error fault => (files, .error fault)
  | .ok () =>
    let written := writtenPath text
    match follow files [] written.names with
    | .error .notFound =>
      let names := if written.endsInDot then written.names.dropLast else written.names
      let (made, result) := files.makeAlong [] names
      (made, result.bind fun _ => made.checkDirectory written.names)
    | .error fault => (files, .error fault)
    | .ok path =>
      match files.find? path with
      | some .directory => (files, .ok ())
      | some (.file _) =>
        (files, .error (if written.endsInDot then .notADirectory else .alreadyExists))
      | none =>
        if written.endsInDot then (files, .error .notFound)
        else (files.put path .directory, .ok ())

def withFile (files : Files) (text : String) (contents : Option String) : Files :=
  let names := (writtenPath text).names
  let (made, _) := files.makeAlong [] names.dropLast
  match follow made [] names with
  | .ok path => made.put path (.file contents)
  | .error _ => made

def without (files : Files) (path : PathNames) : Files :=
  ⟨files.entries.without path, files.isTree.without path⟩

def changesFrom (before after : Files) : Entries :=
  after.entries.filter fun (path, node) =>
    (List.find? (·.1 = path) before.entries).map (·.2) ≠ some node

def isInside (path : PathNames) : Bool := path.head? ≠ some ".." && path.head? ≠ some "/"

def inside (entries : Entries) : List (String × Node) :=
  (entries.filter fun entry => isInside entry.1).map fun (path, node) =>
    (if node = .directory then pathText path ++ "/" else pathText path, node)

end Files

def joinFile (dir name : String) : String :=
  if dir = "" then name
  else if dir.endsWith "/" then dir ++ name
  else dir ++ "/" ++ name

end TypedLogging
