import TypedLogging.CommandLine.Help

namespace TypedLogging.CommandLine

structure Flags where
  verbose : Bool
  veryVerbose : Bool
  quiet : Bool
  deriving DecidableEq

inductive Verbosity
  | quiet
  | ordinary
  | verbose
  | veryVerbose
  deriving DecidableEq

namespace Flags

def none : Flags := ⟨false, false, false⟩

def isNone (flags : Flags) : Bool := !flags.verbose && !flags.veryVerbose && !flags.quiet

def union (first second : Flags) : Flags :=
  ⟨first.verbose || second.verbose, first.veryVerbose || second.veryVerbose,
    first.quiet || second.quiet⟩

/-- Whether the flags of one place go together. The flag that excludes the verbose one also makes up
for its absence. -/
def isConsistent (flags : Flags) : Bool :=
  !(flags.quiet && flags.verbose) && (!flags.veryVerbose || flags.verbose || flags.quiet)

def verbosity (flags : Flags) : Verbosity :=
  if flags.quiet then .quiet
  else if flags.veryVerbose then .veryVerbose
  else if flags.verbose then .verbose
  else .ordinary

def isFlag (name : String) : Bool :=
  ["--verbose", "--very-verbose", "--quiet", "--silent"].contains name

/-- No flag may be given twice in one place. -/
def set (flags : Flags) (name : String) : Option Flags :=
  if name = "--verbose" then
    if flags.verbose then Option.none else some { flags with verbose := true }
  else if name = "--very-verbose" then
    if flags.veryVerbose then Option.none else some { flags with veryVerbose := true }
  else if flags.quiet then Option.none else some { flags with quiet := true }

end Flags

inductive CommandKind
  | generate
  | check
  deriving DecidableEq

structure Options where
  flags : Flags
  files : List String
  modulePath : Option String
  config : Option String
  outDir : Option String
  checkOnly : Bool
  deriving DecidableEq

def Options.empty : Options := ⟨.none, [], none, none, none, false⟩

structure Invocation where
  kind : CommandKind
  options : Options
  verbosity : Verbosity
  deriving DecidableEq

inductive Request
  | run (invocation : Invocation)
  | show (text : String)
  | hint (text : String)
  | misuse
  deriving DecidableEq

def splitOption (text : List Char) : String × Option String :=
  let name := text.takeWhile (· ≠ '=')
  (String.ofList name,
    if name.length < text.length then some (String.ofList (text.drop (name.length + 1))) else none)

inductive Token
  | separator
  | long (name : String) (attached : Option String)
  | short (name : Char)
  | plain (text : String)

/-- A single dash is no option. -/
def tokenOf (text : String) : Token :=
  match text.toList with
  | ['-', '-'] => .separator
  | '-' :: '-' :: _ => let (name, attached) := splitOption text.toList; .long name attached
  | '-' :: c :: _ => .short c
  | _ => .plain text

namespace Options

def takesValue (kind : CommandKind) (name : String) : Bool :=
  name = "--module" || name = "--config" || kind = .generate && name = "--out-dir"

/-- A path is never empty. No option may be given twice. -/
def setValue (options : Options) (name value : String) : Option Options :=
  if name = "--module" then
    if options.modulePath.isSome then none else some { options with modulePath := some value }
  else if value = "" then none
  else if name = "--config" then
    if options.config.isSome then none else some { options with config := some value }
  else if options.outDir.isSome then none else some { options with outDir := some value }

def setSwitch (kind : CommandKind) (options : Options) (name : String) : Option Options :=
  if Flags.isFlag name then (options.flags.set name).map fun flags => { options with flags }
  else if kind = .generate && name = "--check" && !options.checkOnly then
    some { options with checkOnly := true }
  else none

def addFile (options : Options) (path : String) : Option Options :=
  if path = "" then none else some { options with files := options.files ++ [path] }

def isValue (text : String) : Bool :=
  match tokenOf text with
  | .plain _ => true
  | _ => false

end Options

def longHelpOf : CommandKind → String
  | .generate => generateHelp
  | .check => checkLongHelp

def shortHelpOf : CommandKind → String
  | .generate => generateHelp
  | .check => checkShortHelp

def finish (kind : CommandKind) (before : Flags) (options : Options) : Request :=
  if !options.files.isEmpty && options.flags.isConsistent && before.isConsistent then
    .run ⟨kind, options, (before.union options.flags).verbosity⟩
  else .misuse

def orMisuse {α : Type} (value : Option α) (next : α → Request) : Request :=
  match value with
  | some value => next value
  | none => .misuse

def readCommand (kind : CommandKind) (before : Flags) (options : Options) :
    List String → Request
  | [] => finish kind before options
  | argument :: rest =>
    match tokenOf argument with
    | .separator => orMisuse (rest.foldlM Options.addFile options) (finish kind before)
    | .plain path => orMisuse (options.addFile path) fun options =>
      readCommand kind before options rest
    | .short 'h' => .show (shortHelpOf kind)
    | .short _ => .misuse
    | .long "--help" none => .show (longHelpOf kind)
    | .long name (some value) =>
      if Options.takesValue kind name then
        orMisuse (options.setValue name value) fun options => readCommand kind before options rest
      else .misuse
    | .long name none =>
      if Options.takesValue kind name then
        match rest with
        | value :: rest =>
          if Options.isValue value then
            orMisuse (options.setValue name value) fun options =>
              readCommand kind before options rest
          else .misuse
        | [] => .misuse
      else orMisuse (Options.setSwitch kind options name) fun options =>
        readCommand kind before options rest

def helpFor : List String → Request
  | [] => .show longHelp
  | ["generate"] => .show generateHelp
  | ["check"] => .show checkLongHelp
  | ["help"] => .show helpHelp
  | _ => .misuse

/-- A command is missing. Without any flag that is a wish for help. -/
def finishRoot (flags : Flags) : Request := if flags.isNone then .hint shortHelp else .misuse

def readRoot (flags : Flags) : List String → Request
  | [] => finishRoot flags
  | argument :: rest =>
    match tokenOf argument with
    | .separator => if rest.isEmpty then finishRoot flags else .misuse
    | .plain "generate" => readCommand .generate flags .empty rest
    | .plain "check" => readCommand .check flags .empty rest
    | .plain "help" => helpFor rest
    | .plain _ => .misuse
    | .short 'h' => .show shortHelp
    | .short 'V' => .show versionText
    | .short _ => .misuse
    | .long "--help" none => .show longHelp
    | .long "--version" none => .show versionText
    | .long _ (some _) => .misuse
    | .long name none =>
      if Flags.isFlag name then orMisuse (flags.set name) fun flags => readRoot flags rest
      else .misuse

def readArguments (arguments : List String) : Request := readRoot .none arguments

end TypedLogging.CommandLine
