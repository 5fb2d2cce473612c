namespace TypedLogging.Source

inductive Precedence
  | jump
  | assign
  | range
  | or
  | and
  | binding
  | compare
  | bitOr
  | bitXor
  | bitAnd
  | shift
  | sum
  | product
  | cast
  | sign
  | whole
  deriving DecidableEq

namespace Precedence

def rank (precedence : Precedence) : Nat := precedence.ctorIdx

instance : LE Precedence := ⟨fun a b => a.rank ≤ b.rank⟩

instance : LT Precedence := ⟨fun a b => a.rank < b.rank⟩

instance (a b : Precedence) : Decidable (a ≤ b) := inferInstanceAs (Decidable (a.rank ≤ b.rank))

instance (a b : Precedence) : Decidable (a < b) := inferInstanceAs (Decidable (a.rank < b.rank))

end Precedence

structure Operator where
  text : String
  precedence : Precedence
  deriving DecidableEq

namespace Operator

def all : List Operator :=
  [⟨"+=", .assign⟩, ⟨"-=", .assign⟩, ⟨"*=", .assign⟩, ⟨"/=", .assign⟩, ⟨"%=", .assign⟩,
   ⟨"^=", .assign⟩, ⟨"&=", .assign⟩, ⟨"|=", .assign⟩, ⟨"<<=", .assign⟩, ⟨">>=", .assign⟩,
   ⟨"&&", .and⟩, ⟨"||", .or⟩, ⟨"<<", .shift⟩, ⟨">>", .shift⟩, ⟨"==", .compare⟩,
   ⟨"<=", .compare⟩, ⟨"!=", .compare⟩, ⟨">=", .compare⟩, ⟨"+", .sum⟩, ⟨"-", .sum⟩,
   ⟨"*", .product⟩, ⟨"/", .product⟩, ⟨"%", .product⟩, ⟨"^", .bitXor⟩, ⟨"&", .bitAnd⟩,
   ⟨"|", .bitOr⟩, ⟨"<", .compare⟩, ⟨">", .compare⟩]

def assignment : Operator := ⟨"=", .assign⟩

/-- Whether an expression can begin with the operator's characters. -/
def beginsOperand (operator : Operator) : Bool :=
  ["-", "*", "&&", "||", "&", "|", "<<", "<"].contains operator.text

def beginsArguments (operator : Operator) : Bool := ["<<", "<"].contains operator.text

end Operator

end TypedLogging.Source
