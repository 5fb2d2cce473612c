import TypedLogging.Template

namespace TypedLogging.Emission

open Text

/-- Two braces of this kind side by side become one. -/
def joinDoubled (brace : Char) : List Char → List Char
  | [] => []
  | [c] => [c]
  | c :: d :: rest =>
    if c = brace ∧ d = brace then brace :: joinDoubled brace rest
    else c :: joinDoubled brace (d :: rest)

def doubleBraces : List Char → List Char
  | [] => []
  | c :: rest => if Template.isBrace c then c :: c :: doubleBraces rest else c :: doubleBraces rest

def literalText (piece : List Char) : List Char := joinDoubled '\x7d' (joinDoubled '\x7b' piece)

def formatLiteral (piece : List Char) : List Char := doubleBraces (literalText piece)

/-- The format of the text from a byte offset on. -/
def formatFrom (offset : Nat) (text : List Char) : List Slot → List Char
  | [] => formatLiteral text
  | slot :: rest =>
    formatLiteral (takeBytes (slot.start - offset) text)
      ++ '\x7b' :: '\x7d' :: formatFrom slot.stop (dropBytes (slot.stop - offset) text) rest

def formatString (template : Template) : String :=
  String.ofList (formatFrom 0 template.normalized.toList template.slots)

def withError (format : String) : String := format ++ ": \x7b\x7d"

end TypedLogging.Emission
