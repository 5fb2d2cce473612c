import TypedLogging.Text.CharClass

namespace TypedLogging.Text

inductive IntegerFault
  | empty
  | invalidDigit
  | tooLarge
  | tooSmall
  deriving DecidableEq

def IntegerFault.message : IntegerFault → String
  | .empty => "cannot parse integer from empty string"
  | .invalidDigit => "invalid digit found in string"
  | .tooLarge => "number too large to fit in target type"
  | .tooSmall => "number too small to fit in target type"

def int32Min : Int := -2147483648

def int32Max : Int := 2147483647

def readMagnitude (negative : Bool) (magnitude : Nat) : List Char → Except IntegerFault Int
  | [] => .ok (if negative then -(magnitude : Int) else magnitude)
  | c :: rest =>
    if isAsciiDigit c then
      let next := magnitude * 10 + (c.toNat - 48)
      if negative then
        if -(next : Int) < int32Min then .error .tooSmall else readMagnitude negative next rest
      else if int32Max < (next : Int) then .error .tooLarge
      else readMagnitude negative next rest
    else .error .invalidDigit

def readInt32Chars : List Char → Except IntegerFault Int
  | [] => .error .empty
  | ['+'] | ['-'] => .error .invalidDigit
  | '+' :: rest => readMagnitude false 0 rest
  | '-' :: rest => readMagnitude true 0 rest
  | text => readMagnitude false 0 text

def readInt32 (text : String) : Except IntegerFault Int := readInt32Chars text.toList

end TypedLogging.Text
