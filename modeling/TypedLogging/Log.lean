namespace TypedLogging

/-- Levels from the gravest on. -/
inductive LogLevel
  | error
  | warn
  | info
  | debug
  | trace
  deriving DecidableEq

def LogLevel.rank : LogLevel → Nat
  | .error => 1
  | .warn => 2
  | .info => 3
  | .debug => 4
  | .trace => 5

structure LogRecord where
  level : LogLevel
  target : String
  text : String
  deriving DecidableEq

namespace LogTarget

def collection : String := "logmsg_core::collect"
def generator : String := "logmsg_build"
def discovery : String := "logmsg_build::source"
def arguments : String := "logmsg_build::syntax"
def emission : String := "logmsg_build::codegen"
def command : String := "logmsg::command"
def generate : String := "logmsg::command::generate"
def check : String := "logmsg::command::check"
def reporter : String := "logmsg::reporter"

end LogTarget

end TypedLogging
