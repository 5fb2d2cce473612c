import TypedLogging.Source.Token

namespace TypedLogging.Source

inductive SegmentArguments
  | none
  | angled (opening : Code) (body : Code)
  | parenthesised (code : Code)

structure Segment where
  name : String
  arguments : SegmentArguments

structure Path where
  leading : Bool
  segments : List Segment

structure QualifiedPath where
  qualifier : Option Code
  path : Path

def SegmentArguments.code : SegmentArguments → Code
  | .none => []
  | .angled opening body => opening ++ body ++ [.word ">"]
  | .parenthesised code => code

/-- Empty angle brackets count as no arguments. -/
def SegmentArguments.isEmpty : SegmentArguments → Bool
  | .none => true
  | .angled _ body => body.isEmpty
  | .parenthesised _ => false

def SegmentArguments.isNone : SegmentArguments → Bool
  | .none => true
  | _ => false

def Segment.code (segment : Segment) : Code := .word segment.name :: segment.arguments.code

def segmentsCode : List Segment → Code
  | [] => []
  | [segment] => segment.code
  | segment :: rest => segment.code ++ .word "::" :: segmentsCode rest

namespace Path

def code (path : Path) : Code :=
  (if path.leading then [.word "::"] else []) ++ segmentsCode path.segments

def names (path : Path) : List String := path.segments.map (·.name)

def isPlain (path : Path) : Bool := path.segments.all (·.arguments.isNone)

def lastArguments (path : Path) : SegmentArguments :=
  (path.segments.getLast?.map (·.arguments)).getD .none

def withLastArguments (path : Path) (arguments : SegmentArguments) : Path :=
  match path.segments.getLast? with
  | some last => { path with segments := path.segments.dropLast ++ [{ last with arguments }] }
  | none => path

end Path

def QualifiedPath.code (found : QualifiedPath) : Code :=
  match found.qualifier with
  | none => found.path.code
  | some qualifier => qualifier ++ .word "::" :: found.path.code

end TypedLogging.Source
