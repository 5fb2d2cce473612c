import TypedLogging.Text.CharClass

namespace TypedLogging.Text

def hexDigit (n : Nat) : Char := if n < 10 then Char.ofNat (48 + n) else Char.ofNat (87 + n)

def hexDigits (n : Nat) : List Char :=
  if n < 16 then [hexDigit n] else hexDigits (n / 16) ++ [hexDigit (n % 16)]

def unicodeEscape (c : Char) : List Char :=
  ['\\', 'u', '\x7b'] ++ hexDigits c.toNat ++ ['\x7d']

def isOctalDigit (c : Char) : Bool := 48 ≤ c.toNat && c.toNat ≤ 55

def quotedChar (c : Char) (next : Option Char) : List Char :=
  if c = '\x00' then
    if next.any isOctalDigit then ['\\', 'x', '0', '0'] else ['\\', '0']
  else if c = '\t' then ['\\', 't']
  else if c = '\r' then ['\\', 'r']
  else if c = '\n' then ['\\', 'n']
  else if c = '"' then ['\\', '"']
  else if c = '\\' then ['\\', '\\']
  else if isCombining c || !isPrintable c then unicodeEscape c
  else [c]

def quotedBody : List Char → List Char
  | [] => []
  | c :: rest => quotedChar c rest.head? ++ quotedBody rest

def quoted (text : String) : String := String.ofList ('"' :: quotedBody text.toList ++ ['"'])

end TypedLogging.Text
