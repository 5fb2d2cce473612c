import TypedLogging.Text.Table.Alphanumeric
import TypedLogging.Text.Table.Lowercase
import TypedLogging.Text.Table.Uppercase
import TypedLogging.Text.Table.IdentifierStart
import TypedLogging.Text.Table.IdentifierContinue
import TypedLogging.Text.Table.Combining
import TypedLogging.Text.Table.Printable
import TypedLogging.Text.Table.CaseMapping

namespace TypedLogging.Text

-- what holds of the characters of a text is decided along the text, not by going through all characters
instance (priority := 2000) decidableForallMem (chars : List Char) (p : Char → Prop) [DecidablePred p] :
    Decidable (∀ c ∈ chars, p c) := List.decidableBAll p chars

instance (priority := 2000) decidableExistsMem (chars : List Char) (p : Char → Prop) [DecidablePred p] :
    Decidable (∃ c, c ∈ chars ∧ p c) := List.decidableBEx p chars

def inRanges (ranges : List (Nat × Nat)) (n : Nat) : Bool :=
  ranges.any fun r => r.1 ≤ n && n ≤ r.2

def isAscii (c : Char) : Bool := c.toNat < 128

def isAsciiLower (c : Char) : Bool := 97 ≤ c.toNat && c.toNat ≤ 122

def isAsciiUpper (c : Char) : Bool := 65 ≤ c.toNat && c.toNat ≤ 90

def isAsciiDigit (c : Char) : Bool := 48 ≤ c.toNat && c.toNat ≤ 57

def isAsciiLetter (c : Char) : Bool := isAsciiLower c || isAsciiUpper c

def isAsciiAlphanumeric (c : Char) : Bool := isAsciiLetter c || isAsciiDigit c

def isAlphanumeric (c : Char) : Bool :=
  if isAscii c then isAsciiAlphanumeric c else inRanges alphanumericRanges c.toNat

def isLowercase (c : Char) : Bool :=
  if isAscii c then isAsciiLower c else inRanges lowercaseRanges c.toNat

def isUppercase (c : Char) : Bool :=
  if isAscii c then isAsciiUpper c else inRanges uppercaseRanges c.toNat

def startsIdentifier (c : Char) : Bool :=
  if isAscii c then isAsciiLetter c || c == '_' else inRanges identifierStartRanges c.toNat

def continuesIdentifier (c : Char) : Bool :=
  if isAscii c then isAsciiAlphanumeric c || c == '_'
  else inRanges identifierContinueRanges c.toNat

def isCombining (c : Char) : Bool :=
  !isAscii c && inRanges combiningRanges c.toNat

def isPrintable (c : Char) : Bool :=
  if isAscii c then 32 ≤ c.toNat && c.toNat < 127 else inRanges printableRanges c.toNat

def blankRanges : List (Nat × Nat) :=
  [(0x9, 0xD), (0x20, 0x20), (0x85, 0x85), (0xA0, 0xA0), (0x1680, 0x1680), (0x2000, 0x200A),
   (0x2028, 0x2029), (0x202F, 0x202F), (0x205F, 0x205F), (0x3000, 0x3000)]

def isBlank (c : Char) : Bool := inRanges blankRanges c.toNat

def CaseRun.mapped? (run : CaseRun) (n : Nat) : Option Nat :=
  if run.first ≤ n && n ≤ run.last && (n - run.first) % run.step == 0 then
    some (run.image + (n - run.first))
  else none

def caseForm (runs : List CaseRun) (expansions : List (Nat × List Nat)) (c : Char) : List Char :=
  match expansions.lookup c.toNat with
  | some image => image.map Char.ofNat
  | none => [((runs.findSome? (·.mapped? c.toNat)).map Char.ofNat).getD c]

def lowered (c : Char) : List Char :=
  if isAscii c then [if isAsciiUpper c then Char.ofNat (c.toNat + 32) else c]
  else caseForm lowercaseRuns lowercaseExpansions c

def uppered (c : Char) : List Char :=
  if isAscii c then [if isAsciiLower c then Char.ofNat (c.toNat - 32) else c]
  else caseForm uppercaseRuns uppercaseExpansions c

end TypedLogging.Text
