namespace TypedLogging.Text

def isContinuation (byte : UInt8) : Bool := 0x80 ≤ byte && byte ≤ 0xbf

/-- The number of bytes behind the first one, and the range in which the second has to lie. -/
def tailOf (first : UInt8) : Option (Nat × UInt8 × UInt8) :=
  if 0xc2 ≤ first && first ≤ 0xdf then some (1, 0x80, 0xbf)
  else if first = 0xe0 then some (2, 0xa0, 0xbf)
  else if first = 0xed then some (2, 0x80, 0x9f)
  else if 0xe1 ≤ first && first ≤ 0xef then some (2, 0x80, 0xbf)
  else if first = 0xf0 then some (3, 0x90, 0xbf)
  else if 0xf1 ≤ first && first ≤ 0xf3 then some (3, 0x80, 0xbf)
  else if first = 0xf4 then some (3, 0x80, 0x8f)
  else none

def leadingBits (first : UInt8) (tail : Nat) : Nat :=
  match tail with
  | 1 => first.toNat % 32
  | 2 => first.toNat % 16
  | _ => first.toNat % 8

/-- Reads further bytes of a character. The character is none where one is missing. -/
def readTail (bits : Nat) : Nat → List UInt8 → Option Char × List UInt8
  | 0, bytes => (some (Char.ofNat bits), bytes)
  | count + 1, byte :: rest =>
    if isContinuation byte then readTail (bits * 64 + byte.toNat % 64) count rest
    else (none, byte :: rest)
  | _ + 1, [] => (none, [])

def decodeNext (first : UInt8) (rest : List UInt8) : Option Char × List UInt8 :=
  if first < 0x80 then (some (Char.ofNat first.toNat), rest)
  else match tailOf first, rest with
    | some (count + 1, low, high), second :: behind =>
      if low ≤ second && second ≤ high then
        readTail (leadingBits first (count + 1) * 64 + second.toNat % 64) count behind
      else (none, rest)
    | _, _ => (none, rest)

def decodeSteps : Nat → List UInt8 → List (Option Char)
  | 0, _ => []
  | _, [] => []
  | fuel + 1, first :: rest =>
    let (found, behind) := decodeNext first rest
    found :: decodeSteps fuel behind

def decode (bytes : List UInt8) : List (Option Char) := decodeSteps bytes.length bytes

end TypedLogging.Text

namespace TypedLogging

def textOfBytes? (bytes : List UInt8) : Option String :=
  ((Text.decode bytes).mapM id).map String.ofList

def textOfBytesMarked (bytes : List UInt8) : String :=
  String.ofList ((Text.decode bytes).map (·.getD '\ufffd'))

end TypedLogging
