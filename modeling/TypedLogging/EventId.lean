namespace TypedLogging

inductive Severity
  | trace
  | debug
  | information
  | warning
  | error
  | critical
  | unknown
  deriving DecidableEq

namespace Severity

def ofName : String → Severity
  | "Trace" => .trace
  | "Debug" => .debug
  | "Information" => .information
  | "Warning" => .warning
  | "Error" => .error
  | "Critical" => .critical
  | _ => .unknown

def name : Severity → String
  | .trace => "Trace"
  | .debug => "Debug"
  | .information => "Information"
  | .warning => "Warning"
  | .error => "Error"
  | .critical => "Critical"
  | .unknown => "Unknown"

def code : Severity → Nat
  | .trace => 0
  | .debug => 1
  | .information => 2
  | .warning => 3
  | .error => 4
  | .critical => 5
  | .unknown => 6

end Severity

def signed32 (bits : Nat) : Int := if bits < 2147483648 then bits else (bits : Int) - 4294967296

/-- Every part is reduced to its width first. -/
def packedBits (severity declaration index : Nat) : Nat :=
  severity % 16 * 268435456 + declaration % 65536 * 4096 + index % 4096

def derivedId (severity declaration index : Nat) : Int :=
  signed32 (packedBits severity declaration index)

inductive EventId
  | explicit (text : String)
  | derived (value : Int)
  deriving DecidableEq

def EventId.text : EventId → String
  | .explicit text => text
  | .derived value => toString value

end TypedLogging
