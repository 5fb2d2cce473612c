import TypedLogging.Process

namespace TypedLogging

namespace LinePattern

def expandError : List Char → List Char
  | [] => []
  | '[' :: 'E' :: 'R' :: 'R' :: 'O' :: 'R' :: ']' :: rest => "error:".toList ++ expandError rest
  | c :: rest => c :: expandError rest

def expandWarning : List Char → List Char
  | [] => []
  | '[' :: 'W' :: 'A' :: 'R' :: 'N' :: 'I' :: 'N' :: 'G' :: ']' :: rest =>
    "warning:".toList ++ expandWarning rest
  | c :: rest => c :: expandWarning rest

def slashed (text : List Char) : List Char := text.map fun c => if c = '\\' then '/' else c

def parts : List Char → List (List Char)
  | [] => [[]]
  | '[' :: '.' :: '.' :: ']' :: rest => [] :: parts rest
  | c :: rest =>
    match parts rest with
    | [] => [[c]]
    | part :: more => (c :: part) :: more

def behind? (part : List Char) : List Char → Option (List Char)
  | [] => if part = [] then some [] else none
  | c :: rest =>
    if part.isPrefixOf (c :: rest) then some ((c :: rest).drop part.length) else behind? part rest

/-- What is left of a line behind all parts, taken each at its first place. -/
def leftover? : List (List Char) → List Char → Option (List Char)
  | [], line => some line
  | part :: rest, line => do leftover? rest (← behind? part line)

/-- The first part begins the line; the last one ends it, unless it is a wildcard. -/
def matchesParts (line : List Char) : List (List Char) → Bool
  | [] => line.isEmpty
  | first :: rest =>
    first.isPrefixOf line &&
      match leftover? rest (line.drop first.length) with
      | some left => left.isEmpty || (!rest.isEmpty && rest.getLastD [] = [])
      | none => false

end LinePattern

/-- Whether a line fits a pattern, in which `[..]` stands for any text. -/
def lineMatches (expected actual : String) : Bool :=
  let pattern := LinePattern.slashed
    (LinePattern.expandWarning (LinePattern.expandError expected.toList))
  LinePattern.matchesParts (LinePattern.slashed actual.toList) (LinePattern.parts pattern)

/-- A carriage return before a line break does not count; `line` holds the current line, last
character first. -/
def linesFrom (line : List Char) : List Char → List (List Char)
  | [] => if line.isEmpty then [] else [line.reverse]
  | '\n' :: rest =>
    (match line with
      | '\r' :: before => before.reverse
      | _ => line.reverse) :: linesFrom [] rest
  | c :: rest => linesFrom (c :: line) rest

def linesOf (text : String) : List String := (linesFrom [] text.toList).map String.ofList

def startsWithLines : List String → List String → Bool
  | [], _ => true
  | pattern :: patterns, line :: lines => lineMatches pattern line && startsWithLines patterns lines
  | _ :: _, [] => false

def containsLines (patterns : List String) : List String → Bool
  | [] => patterns.isEmpty
  | line :: lines =>
    startsWithLines patterns (line :: lines) || containsLines patterns lines

inductive OutputStream
  | stdout
  | stderr
  deriving DecidableEq

def OutputStream.name : OutputStream → String
  | .stdout => "stdout"
  | .stderr => "stderr"

inductive Expectation
  | status (code : Int)
  | contains (stream : OutputStream) (lines : String)
  | lacks (stream : OutputStream) (lines : String)
  deriving DecidableEq

namespace Expectation

def expectedStatus : List Expectation → Int
  | [] => 0
  | .status code :: rest => if rest.any isStatus then expectedStatus rest else code
  | _ :: rest => expectedStatus rest
where
  isStatus : Expectation → Bool
    | .status _ => true
    | _ => false

def checkStatus (expected : Int) (finished : Finished) : Except String Unit :=
  if (exitCodeOf finished.status : Int) = expected then .ok ()
  else .error (s!"exited with {statusText finished.status}, expected {expected}\n--- stdout\n"
    ++ textOfBytesMarked finished.stdout ++ "\n--- stderr\n" ++ textOfBytesMarked finished.stderr)

def streamText (stream : OutputStream) (finished : Finished) : Except String String :=
  let bytes := match stream with
    | .stdout => finished.stdout
    | .stderr => finished.stderr
  match textOfBytes? bytes with
  | some text => .ok (String.ofList (text.toList.filter (· ≠ '\r')))
  | none => .error s!"{stream.name} was not utf8 encoded"

def hasLines (text lines : String) : Bool := containsLines (linesOf lines) (linesOf text)

def checkContains (finished : Finished) : Expectation → Except String Unit
  | .contains stream lines => do
    let text ← streamText stream finished
    if hasLines text lines then return ()
    else throw s!"expected to find:\n{lines}\n\ndid not find in {stream.name}:\n{text}"
  | _ => .ok ()

def checkLacks (finished : Finished) : Expectation → Except String Unit
  | .lacks stream lines => do
    let text ← streamText stream finished
    if hasLines text lines then
      throw s!"expected not to find:\n{lines}\n\nbut found in {stream.name}:\n{text}"
  | _ => .ok ()

/-- The first expectation that is not met: the status, then what has to be there, then what must not
be. -/
def check (expected : List Expectation) (finished : Finished) : Except String Unit := do
  checkStatus (expectedStatus expected) finished
  expected.forM (checkContains finished)
  expected.forM (checkLacks finished)

end Expectation

end TypedLogging
