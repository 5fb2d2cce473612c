import TypedLogging.Text.CharClass

namespace TypedLogging.Text

/-- The case of the last cased character of the word being read. -/
inductive CaseMode
  | fresh
  | lower
  | upper
  deriving DecidableEq

def CaseMode.next (mode : CaseMode) (c : Char) : CaseMode :=
  if isLowercase c then .lower else if isUppercase c then .upper else mode

/-- Words of one alphanumeric piece; `word` holds the current word, last character first. A word ends
between a lowercase and an uppercase character, and before an uppercase character that follows
uppercase and is followed by lowercase. -/
def pieceWords (mode : CaseMode) (word : List Char) : List Char → List (List Char)
  | [] => []
  | [c] => [(c :: word).reverse]
  | c :: d :: rest =>
    if mode.next c = .lower ∧ isUppercase d then
      (c :: word).reverse :: pieceWords .fresh [] (d :: rest)
    else if mode = .upper ∧ isUppercase c ∧ isLowercase d then
      word.reverse :: pieceWords .fresh [c] (d :: rest)
    else pieceWords (mode.next c) (c :: word) (d :: rest)

def piecesAt (cut : Char → Bool) : List Char → List (List Char)
  | [] => [[]]
  | c :: rest =>
    if cut c then [] :: piecesAt cut rest
    else match piecesAt cut rest with
      | [] => [[c]]
      | piece :: pieces => (c :: piece) :: pieces

def words (text : List Char) : List (List Char) :=
  (piecesAt (fun c => !isAlphanumeric c) text).flatMap (pieceWords .fresh [])

/-- A capital sigma that ends a word becomes a final sigma. -/
def lowerWord : List Char → List Char
  | [] => []
  | [c] => if c = 'Σ' then ['ς'] else lowered c
  | c :: rest => lowered c ++ lowerWord rest

def upperWord (word : List Char) : List Char := word.flatMap uppered

def joinWith (separator : List Char) : List (List Char) → List Char
  | [] => []
  | [word] => word
  | word :: rest => word ++ separator ++ joinWith separator rest

def snakeCase (text : List Char) : List Char := joinWith ['_'] ((words text).map lowerWord)

def shoutyCase (text : List Char) : List Char := joinWith ['_'] ((words text).map upperWord)

end TypedLogging.Text

namespace TypedLogging

def snake (text : String) : String := String.ofList (Text.snakeCase text.toList)

def shouty (text : String) : String := String.ofList (Text.shoutyCase text.toList)

end TypedLogging
