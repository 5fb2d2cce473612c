namespace TypedLogging.Source

inductive Delimiter
  | paren
  | bracket
  | brace
  deriving DecidableEq

/-- One lexical token, or a delimited group of them. A punctuation character is joint when another
one stands right behind it. -/
inductive TokenTree
  | ident (name : String)
  | punct (char : Char) (joint : Bool)
  | literal (text : String)
  | group (delimiter : Delimiter) (trees : List TokenTree)

/-- A word or a group. No space stands behind a glued word. -/
inductive Piece
  | word (text : String)
  | glued (text : String)
  | group (delimiter : Delimiter) (body : List Piece)

abbrev Code := List Piece

def Code.endsInBrace (code : Code) : Bool :=
  match code.getLast? with
  | some (.group .brace _) => true
  | _ => false

def words (texts : List String) : Code := texts.map .word

def Delimiter.surround (body : String) : Delimiter → String
  | .paren => "(" ++ body ++ ")"
  | .bracket => "[" ++ body ++ "]"
  | .brace => if body = "" then "\x7b \x7d" else "\x7b " ++ body ++ " \x7d"

mutual

def Piece.text : Piece → String
  | .word text | .glued text => text
  | .group delimiter body => delimiter.surround (Code.text body)

def Code.text : List Piece → String
  | [] => ""
  | [piece] => Piece.text piece
  | .glued text :: rest => text ++ Code.text rest
  | piece :: next :: rest => Piece.text piece ++ " " ++ Code.text (next :: rest)

end

/-- Code as it was written: a joint character is glued to the next one. -/
def Code.ofTrees : List TokenTree → Code
  | [] => []
  | .ident name :: rest => .word name :: Code.ofTrees rest
  | .literal text :: rest => .word text :: Code.ofTrees rest
  | .punct char true :: rest => .glued (String.singleton char) :: Code.ofTrees rest
  | .punct char false :: rest => .word (String.singleton char) :: Code.ofTrees rest
  | .group delimiter trees :: rest => .group delimiter (Code.ofTrees trees) :: Code.ofTrees rest

def sizeOfTrees : List TokenTree → Nat
  | [] => 0
  | .group _ trees :: rest => sizeOfTrees trees + sizeOfTrees rest + 1
  | _ :: rest => sizeOfTrees rest + 1

end TypedLogging.Source
