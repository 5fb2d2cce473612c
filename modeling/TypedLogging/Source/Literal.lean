import TypedLogging.Source.Lexer.Literal

namespace TypedLogging.Source

open Text Lexer

structure Numeral where
  isNegative : Bool
  magnitude : Nat

namespace Numeral

def text (numeral : Numeral) : String :=
  (if numeral.isNegative then "-" else "") ++ toString numeral.magnitude

end Numeral

inductive Literal
  | string (value : String)
  | integer (numeral : Numeral) (suffix : String)
  | float
  | boolean
  | other

namespace Literal

def escaped (c : Char) : Char :=
  match c with
  | 'n' => '\n'
  | 'r' => '\r'
  | 't' => '\t'
  | '0' => '\x00'
  | c => c

/-- What an escaped line break skips. Other blanks are text. -/
def isLineGap (c : Char) : Bool := c == ' ' || c == '\t' || c == '\n' || c == '\r'

def unescape : Nat → List Char → List Char
  | 0, _ => []
  | fuel + 1, text =>
    match text with
    | [] => []
    | '"' :: _ => []
    | '\r' :: '\n' :: rest => '\n' :: unescape fuel rest
    | '\\' :: 'x' :: high :: low :: rest =>
      Char.ofNat (hexValue high * 16 + hexValue low) :: unescape fuel rest
    | '\\' :: 'u' :: '\x7b' :: rest =>
      match unicodeDigits? 0 0 rest with
      | some (value, behind) => Char.ofNat value :: unescape fuel behind
      | none => []
    | '\\' :: '\n' :: rest | '\\' :: '\r' :: rest => unescape fuel (rest.dropWhile isLineGap)
    | '\\' :: c :: rest => escaped c :: unescape fuel rest
    | c :: rest => c :: unescape fuel rest

/-- The characters between the quotes of a raw string; the closing quote is the last one. -/
def rawBody (text : List Char) : List Char :=
  let opened := (text.dropWhile (· == '#')).drop 1
  ((opened.reverse.dropWhile (· ≠ '"')).drop 1).reverse

def isIdentifierText : List Char → Bool
  | [] => false
  | c :: rest => startsIdentifier c && rest.all continuesIdentifier

def exponentFollows (valued : Bool) : List Char → Bool
  | [] => valued
  | c :: rest =>
    if c == '_' then exponentFollows valued rest
    else if c == '+' || c == '-' then true
    else if isAsciiDigit c then exponentFollows true rest
    else valued && isIdentifierText (c :: rest)

def integerParts? (base value : Nat) (seen : Bool) : List Char → Option (Nat × List Char)
  | [] => if seen then some (value, []) else none
  | c :: rest =>
    let behind : Option (Nat × List Char) :=
      if seen && isIdentifierText (c :: rest) then some (value, c :: rest) else none
    if c == '_' then integerParts? base value seen rest
    else if isAsciiDigit c || (10 < base && isHexDigit c) then
      if hexValue c < base then integerParts? base (value * base + hexValue c) true rest else none
    else if base == 10 && c == '.' then none
    else if base == 10 && (c == 'e' || c == 'E') && exponentFollows false rest then none
    else behind

def integer? (text : List Char) : Option (Nat × List Char) :=
  match text with
  | '0' :: 'x' :: rest => integerParts? 16 0 false rest
  | '0' :: 'o' :: rest => integerParts? 8 0 false rest
  | '0' :: 'b' :: rest => integerParts? 2 0 false rest
  | c :: _ => if isAsciiDigit c then integerParts? 10 0 false text else none
  | [] => none

def ofNumber (isNegative : Bool) (text : List Char) : Literal :=
  match integer? text with
  | some (magnitude, suffix) => .integer ⟨isNegative, magnitude⟩ (String.ofList suffix)
  | none => .float

def ofText (text : String) : Literal :=
  match text.toList with
  | '"' :: rest => .string (String.ofList (unescape (rest.length + 1) rest))
  | 'r' :: rest => .string (String.ofList (rawBody rest))
  | c :: rest => if isAsciiDigit c then ofNumber false (c :: rest) else .other
  | [] => .other

def ofNegated? (text : String) : Option Literal :=
  match text.toList with
  | c :: rest => if isAsciiDigit c then some (ofNumber true (c :: rest)) else none
  | [] => none

end Literal

end TypedLogging.Source
