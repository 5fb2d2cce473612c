import TypedLogging.Log

namespace TypedLogging

inductive IoFault
  | notFound
  | notADirectory
  | isADirectory
  | alreadyExists
  | nameTooLong
  | nullInName
  | notText
  | other (text : String)
  deriving DecidableEq

def IoFault.message : IoFault → String
  | .notFound => "No such file or directory (os error 2)"
  | .notADirectory => "Not a directory (os error 20)"
  | .isADirectory => "Is a directory (os error 21)"
  | .alreadyExists => "File exists (os error 17)"
  | .nameTooLong => "File name too long (os error 36)"
  | .nullInName => "file name contained an unexpected NUL byte"
  | .notText => "stream did not contain valid UTF-8"
  | .other text => text

class Host (m : Type → Type) where
  readFile : (path : String) → m (Except IoFault String)
  createDirs : (path : String) → m (Except IoFault Unit)
  writeFile : (path contents : String) → m (Except IoFault Unit)
  outDirVariable : m (Option String)
  isCancelled : m Bool
  log : LogRecord → m Unit

end TypedLogging
