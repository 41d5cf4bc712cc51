import LineShell.Token

/-! The written form of tokens: which tokens a line can hold, and a line that holds them. -/

namespace LineShell.Token

/-- Whether a word can stand in a line: it is not empty, holds nothing blank and is not the word
that an exit code takes the place of. -/
def isWritable (word : String) : Bool :=
  !word.isEmpty && !word.toList.any Text.isBlank && word ≠ lastCode

/-- Whether the first character of a word is that of an operator. -/
def opensWithOperator (word : String) : Bool :=
  match word.toList with
  | [] => false
  | c :: _ => (Operator.ofSymbol? c).isSome

/-- Whether a line can hold these tokens; `glued` says that an operator stands right before them. A
word that opens with an operator has to follow one. -/
def Writable (glued : Bool) : List Token → Prop
  | [] => True
  | .operator _ :: rest => Writable true rest
  | .word text :: rest =>
    isWritable text = true ∧ (opensWithOperator text = true → glued = true) ∧ Writable false rest

/-- The characters of tokens, with a blank before each but those that follow an operator as words;
`first` says that nothing stands before them, and `glued` that an operator does. -/
def writeFrom (first glued : Bool) : List Token → List Char
  | [] => []
  | .operator kind :: rest => gap first ++ kind.symbol :: writeFrom false true rest
  | .word text :: rest => gap (first || glued) ++ text.toList ++ writeFrom false false rest
where
  /-- What stands before a token. -/
  gap (joined : Bool) : List Char :=
    if joined then [] else [' ']

/-- A line that holds the given tokens. -/
def write (tokens : List Token) : String :=
  String.ofList (writeFrom true false tokens)

end LineShell.Token
