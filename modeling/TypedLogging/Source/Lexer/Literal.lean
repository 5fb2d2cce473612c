import TypedLogging.Source.Lexer.Gap

namespace TypedLogging.Source.Lexer

open Text

abbrev Scanner := List Char → Option (List Char)

def identEnd? : Scanner
  | c :: rest => if startsIdentifier c then some (rest.dropWhile continuesIdentifier) else none
  | [] => none

def skipSuffix (text : List Char) : List Char := (identEnd? text).getD text

def isHexDigit (c : Char) : Bool :=
  isAsciiDigit c || (97 ≤ c.toNat && c.toNat ≤ 102) || (65 ≤ c.toNat && c.toNat ≤ 70)

def hexValue (c : Char) : Nat :=
  if isAsciiDigit c then c.toNat - 48
  else if 97 ≤ c.toNat then c.toNat - 87 else c.toNat - 55

/-- Reads the digits of a Unicode escape: one to six of them, underscores between them allowed, the
value a character. -/
def unicodeDigits? (count value : Nat) : List Char → Option (Nat × List Char)
  | [] => none
  | c :: rest =>
    if isHexDigit c then
      if count = 6 then none else unicodeDigits? (count + 1) (value * 16 + hexValue c) rest
    else if c = '_' ∧ 0 < count then unicodeDigits? count value rest
    else if c = '\x7d' ∧ 0 < count ∧ value.isValidChar then some (value, rest)
    else none

inductive QuoteKind
  | text
  | bytes
  | terminated
  deriving DecidableEq

/-- A hexadecimal escape is ASCII in text, any byte in bytes, and not zero in terminated text. -/
def QuoteKind.allowsHex (kind : QuoteKind) (high low : Char) : Bool :=
  isHexDigit high && isHexDigit low &&
    match kind with
    | .text => hexValue high < 8
    | .bytes => true
    | .terminated => hexValue high * 16 + hexValue low ≠ 0

def QuoteKind.allowsUnicode (kind : QuoteKind) (value : Nat) : Bool :=
  match kind with
  | .text => true
  | .bytes => false
  | .terminated => value ≠ 0

def QuoteKind.allowsChar (kind : QuoteKind) (c : Char) : Bool :=
  match kind with
  | .text => true
  | .bytes => isAscii c
  | .terminated => c ≠ '\x00'

def escapeEnd? (kind : QuoteKind) : Scanner
  | 'x' :: high :: low :: rest => if kind.allowsHex high low then some rest else none
  | 'u' :: '\x7b' :: rest => do
    let (value, behind) ← unicodeDigits? 0 0 rest
    guard (kind.allowsUnicode value)
    return behind
  | '0' :: rest => if kind = .terminated then none else some rest
  | 'n' :: rest | 'r' :: rest | 't' :: rest | '\\' :: rest | '\'' :: rest | '"' :: rest => some rest
  | _ => none

def lineGapEnd? : Scanner
  | [] => none
  | '\r' :: '\n' :: rest => lineGapEnd? rest
  | '\r' :: _ => none
  | ' ' :: rest | '\t' :: rest | '\n' :: rest => lineGapEnd? rest
  | text => some text

def quoteEnd? (kind : QuoteKind) : Nat → Scanner
  | 0, _ => none
  | fuel + 1, text =>
    match text with
    | [] => none
    | '"' :: rest => some (skipSuffix rest)
    | '\r' :: '\n' :: rest => quoteEnd? kind fuel rest
    | '\r' :: _ => none
    | '\\' :: '\n' :: rest => lineGapEnd? ('\n' :: rest) >>= quoteEnd? kind fuel
    | '\\' :: '\r' :: rest => lineGapEnd? ('\r' :: rest) >>= quoteEnd? kind fuel
    | '\\' :: rest => escapeEnd? kind rest >>= quoteEnd? kind fuel
    | c :: rest => if kind.allowsChar c then quoteEnd? kind fuel rest else none

def quotedEnd? (kind : QuoteKind) (text : List Char) : Option (List Char) :=
  quoteEnd? kind (text.length + 1) text

/-- The text behind a raw literal whose closing quote is followed by `marks`. -/
def rawBodyEnd? (kind : QuoteKind) (marks : List Char) : Scanner
  | [] => none
  | '"' :: rest =>
    if marks.isPrefixOf rest then some (skipSuffix (rest.drop marks.length))
    else rawBodyEnd? kind marks rest
  | '\r' :: '\n' :: rest => rawBodyEnd? kind marks rest
  | '\r' :: _ => none
  | c :: rest => if kind.allowsChar c then rawBodyEnd? kind marks rest else none

def rawEnd? (kind : QuoteKind) (text : List Char) : Option (List Char) :=
  let marks := text.takeWhile (· == '#')
  match text.drop marks.length with
  | '"' :: rest => if 255 < marks.length then none else rawBodyEnd? kind marks rest
  | _ => none

def stringEnd? : Scanner
  | '"' :: rest => quotedEnd? .text rest
  | 'r' :: rest => rawEnd? .text rest
  | _ => none

def byteStringEnd? : Scanner
  | 'b' :: '"' :: rest => quotedEnd? .bytes rest
  | 'b' :: 'r' :: rest => rawEnd? .bytes rest
  | _ => none

def terminatedStringEnd? : Scanner
  | 'c' :: '"' :: rest => quotedEnd? .terminated rest
  | 'c' :: 'r' :: rest => rawEnd? .terminated rest
  | _ => none

def closeQuote? : Scanner
  | '\'' :: rest => some (skipSuffix rest)
  | _ => none

def byteEnd? : Scanner
  | 'b' :: '\'' :: '\\' :: rest => escapeEnd? .bytes rest >>= closeQuote?
  | 'b' :: '\'' :: c :: rest => if isAscii c then closeQuote? rest else none
  | _ => none

def characterEnd? : Scanner
  | '\'' :: '\\' :: rest => escapeEnd? .text rest >>= closeQuote?
  | '\'' :: _ :: rest => closeQuote? rest
  | _ => none

def wordBreak? : Scanner
  | [] => some []
  | c :: rest => if continuesIdentifier c then none else some (c :: rest)

structure FloatScan where
  dotted : Bool
  exponent : Bool
  rest : List Char

/-- The digits of a decimal number up to its exponent. A dot before another dot or an identifier is
no decimal point. -/
def floatDigits? (dotted : Bool) : List Char → Option FloatScan
  | [] => some ⟨dotted, false, []⟩
  | c :: rest =>
    if isAsciiDigit c || c == '_' then floatDigits? dotted rest
    else if c == '.' then
      if dotted then some ⟨dotted, false, c :: rest⟩
      else match rest with
        | d :: _ =>
          if d == '.' || startsIdentifier d then none else floatDigits? true rest
        | [] => some ⟨true, false, []⟩
    else if c == 'e' || c == 'E' then some ⟨dotted, true, rest⟩
    else some ⟨dotted, false, c :: rest⟩

def exponentEnd? (signed valued : Bool) : Scanner
  | [] => if valued then some [] else none
  | c :: rest =>
    if c == '+' || c == '-' then
      if valued then some (c :: rest)
      else if signed then none
      else exponentEnd? true valued rest
    else if isAsciiDigit c then exponentEnd? signed true rest
    else if c == '_' then exponentEnd? signed valued rest
    else if valued then some (c :: rest)
    else none

def floatBodyEnd? (text : List Char) : Option (List Char) :=
  match text with
  | [] => none
  | c :: rest =>
    if isAsciiDigit c then
      match floatDigits? false rest with
      | none => none
      | some scan =>
        if scan.exponent then
          match exponentEnd? false false scan.rest with
          | some behind => some behind
          | none =>
            if scan.dotted then some (text.drop (text.length - scan.rest.length - 1)) else none
        else if scan.dotted then some scan.rest else none
    else none

def floatEnd? (text : List Char) : Option (List Char) := do
  let rest ← floatBodyEnd? text
  wordBreak? (skipSuffix rest)

/-- Digits of an integer in the given base. A decimal digit beyond the base is an error, a letter
beyond it begins the suffix. -/
def digitsEnd? (base : Nat) (empty : Bool) : Scanner
  | [] => if empty then none else some []
  | c :: rest =>
    if isAsciiDigit c then
      if base ≤ hexValue c then none else digitsEnd? base false rest
    else if isHexDigit c && hexValue c < base then digitsEnd? base false rest
    else if c == '_' then
      if empty && base == 10 then none else digitsEnd? base empty rest
    else if empty then none else some (c :: rest)

def integerBodyEnd? : Scanner
  | '0' :: 'x' :: rest => digitsEnd? 16 true rest
  | '0' :: 'o' :: rest => digitsEnd? 8 true rest
  | '0' :: 'b' :: rest => digitsEnd? 2 true rest
  | text => digitsEnd? 10 true text

def integerEnd? (text : List Char) : Option (List Char) := do
  let rest ← integerBodyEnd? text
  wordBreak? (skipSuffix rest)

def literalEnd? (text : List Char) : Option (List Char) :=
  stringEnd? text <|> byteStringEnd? text <|> terminatedStringEnd? text <|> byteEnd? text
    <|> characterEnd? text <|> floatEnd? text <|> integerEnd? text

end TypedLogging.Source.Lexer
