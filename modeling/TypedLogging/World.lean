import TypedLogging.Files

namespace TypedLogging

structure World where
  files : Files
  outDirVariable : Option String
  /-- The checks before the run is cancelled; none if it never is. -/
  checksLeft : Option Nat
  written : List PathNames
  records : List LogRecord

namespace World

def ofFiles (files : Files) : World := ⟨files, none, none, [], []⟩

def readFile (path : String) : StateM World (Except IoFault String) := do
  return (← get).files.read path

def createDirs (path : String) : StateM World (Except IoFault Unit) := do
  let (files, result) := (← get).files.makeDirs path
  modify fun world => { world with files }
  return result

def writeFile (path contents : String) : StateM World (Except IoFault Unit) := do
  match (← get).files.target path with
  | .error fault => return .error fault
  | .ok target =>
    modify fun world => { world with
      files := world.files.put target (.file (some contents))
      written := world.written ++ [target] }
    return .ok ()

def isCancelled : StateM World Bool := do
  match (← get).checksLeft with
  | none => return false
  | some 0 => return true
  | some (left + 1) =>
    modify fun world => { world with checksLeft := some left }
    return false

def log (record : LogRecord) : StateM World Unit :=
  modify fun world => { world with records := world.records ++ [record] }

instance : Host (StateM World) where
  readFile
  createDirs
  writeFile
  outDirVariable := return (← get).outDirVariable
  isCancelled
  log

end World

end TypedLogging
