import LineShell.Text.Blank
import LineShell.Text.Decimal

/-! Tokens: the words and operators a line is made of. -/

namespace LineShell

/-- What stands between the words of a line. -/
inductive Operator
  /-- Reads a file: `<`. -/
  | input
  /-- Writes a file: `>`. -/
  | output
  /-- Joins two commands: `|`. -/
  | pipe
  deriving DecidableEq, Repr, Inhabited

namespace Operator

/-- The character an operator is written with. -/
def symbol : Operator → Char
  | .input => '<'
  | .output => '>'
  | .pipe => '|'

/-- The operator a character stands for. -/
def ofSymbol? (c : Char) : Option Operator :=
  if c = '<' then some .input
  else if c = '>' then some .output
  else if c = '|' then some .pipe
  else none

/-- The operator as it is written. -/
def text (operator : Operator) : String :=
  String.singleton operator.symbol

/-- Each operator is read back from its own character. -/
@[simp] theorem ofSymbol?_symbol (operator : Operator) :
    ofSymbol? operator.symbol = some operator := by
  cases operator <;> rfl

/-- Only its own character stands for an operator. -/
theorem symbol_of_ofSymbol? {c : Char} {operator : Operator}
    (read : ofSymbol? c = some operator) : operator.symbol = c := by
  unfold ofSymbol? at read
  grind [Operator.symbol]

end Operator

/-- One piece of a line. -/
inductive Token
  | word (text : String)
  | operator (kind : Operator)
  deriving DecidableEq, Repr, Inhabited

namespace Token

/-- The token as it is written. -/
def text : Token → String
  | .word text => text
  | .operator kind => kind.text

/-- The word that stands for the last exit code. -/
def lastCode : String := "$?"

/-- The tokens of one word of a line: an operator counts only as its first character, and what
follows it is one word, whatever it holds. -/
def ofWord : List Char → List Token
  | [] => []
  | c :: rest =>
    match Operator.ofSymbol? c with
    | none => [.word (String.ofList (c :: rest))]
    | some kind =>
      .operator kind :: if rest.isEmpty then [] else [.word (String.ofList rest)]

/-- Puts an exit code, in decimal, for the word that stands for it. -/
def expand (code : Int) : Token → Token
  | .word text => .word (if text = lastCode then Text.decimal code else text)
  | .operator kind => .operator kind

/-- The tokens of a line, before the last exit code is put in. -/
def scan (line : String) : List Token :=
  (Text.words line.toList).flatMap ofWord

/-- The tokens of a line typed after a command that ended with the given code. -/
def ofLine (line : String) (code : Int) : List Token :=
  (scan line).map (expand code)

end Token

end LineShell
