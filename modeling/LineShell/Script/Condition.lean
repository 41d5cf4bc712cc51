import LineShell.Programs.Condition

/-! Conditions as the commands of a script read them: a word counts as an operator or as an operand
by what stands around it. -/

namespace LineShell.Script.Condition

open LineShell.Programs (Condition)
open LineShell.Programs.Condition

/-- The operators between texts. -/
def textOperators : List (String × Order) :=
  [("=", .equal), ("!=", .different), ("<", .less), (">", .greater)]

/-- The condition that an operator states of two words, if it is an operator between words. -/
def between? : (first operator second : Bytes) → Option Condition :=
  Programs.Condition.between? textOperators

/-- Whether a word is an operator between two others. -/
def isBinary (word : Bytes) : Bool :=
  (between? [] word []).isSome

/-- Whether a word is an operator before another. -/
def isUnary (word : Bytes) : Bool :=
  match word with
  | [45, letter] => (bytes "rwxefdcbpugkstznhOGLS").contains letter
  | _ => false

/-- Whether a word is an operand because of what follows it: nothing, or an operator between two
words. -/
def isOperand : List Bytes → Bool
  | [_] => true
  | [_, _] => false
  | _ :: second :: _ => isBinary second
  | [] => false

/-- Whether the first word is a mark, which a parenthesis at the end is not. -/
def isMark (mark : String) (words : List Bytes) : Bool :=
  match words with
  | [] => false
  | word :: rest => word = bytes mark && !(mark == "(" && rest.isEmpty)

/-- The condition that an operator states of one word. -/
def before (letter : UInt8) (word : Bytes) : Condition :=
  match Char.ofNat letter.toNat with
  | 'z' => .empty word
  | 'n' => .filled word
  | 't' => .terminal word
  | _ => .file letter word

/-- A condition with the words from the last one on that was read. -/
abbrev Read := Condition × List Bytes

/-- A condition behind which nothing can be read. -/
def stop (condition : Condition) (fault : Fault) : Read :=
  (.stopped condition fault, [])

/-- Reads what stands at an operand, given that there is a word. -/
def readOperand (word : Bytes) (rest : List Bytes) : Read :=
  match rest with
  | operator :: others =>
    match between? word operator (others.headD []) with
    | none => (.filled word, word :: rest)
    | some condition =>
      if others.isEmpty then stop .never (.argumentExpected operator) else (condition, others)
  | [] => (.filled word, [word])

mutual

/-- Reads conditions of which one has to hold. -/
def readEither : Nat → List Bytes → Read
  | 0, words => (.never, words)
  | bound + 1, words =>
    let (first, rest) := readBoth bound words
    if isMark "-o" (rest.drop 1) then
      let (second, rest) := readEither bound (rest.drop 2)
      (.either first second, rest)
    else (first, rest)

/-- Reads conditions that all have to hold. -/
def readBoth : Nat → List Bytes → Read
  | 0, words => (.never, words)
  | bound + 1, words =>
    let (first, rest) := readInverted bound words
    if isMark "-a" (rest.drop 1) then
      let (second, rest) := readBoth bound (rest.drop 2)
      (.both first second, rest)
    else (first, rest)

/-- Reads a condition with the negations before it. -/
def readInverted : Nat → List Bytes → Read
  | 0, words => (.never, words)
  | bound + 1, words =>
    if isMark "!" words then
      if words.length = 1 then (.not .never, words)
      else
        let (inner, rest) := readInverted bound (words.drop 1)
        (.not inner, rest)
    else readPrimary bound words

/-- Reads a single condition. -/
def readPrimary : Nat → List Bytes → Read
  | 0, words => (.never, words)
  | _ + 1, [] => (.never, [])
  | bound + 1, word :: rest =>
    if isMark "(" (word :: rest) then
      if isMark ")" rest then (.never, rest)
      else
        let (inner, after) := readEither bound rest
        if isMark ")" (after.drop 1) then (inner, after.drop 1)
        else stop inner .parenthesisExpected
    else if isUnary word && !isOperand (word :: rest) then
      (before (word.getD 1 0) (rest.headD []), rest)
    else readOperand word rest

end

/-- The condition that all of some words state together, given how its start is read. -/
def whole (read : Read) : Condition :=
  match read with
  | (condition, last :: _ :: _) => .stopped condition (.unexpectedOperator last)
  | (condition, _) => condition

/-- The condition that some words state. Three or four words may stand between parentheses or
behind a negation whatever they are. -/
def ofWords (words : List Bytes) : Condition :=
  let all := whole (readEither (8 * words.length + 8) words)
  match words with
  | [] => .never
  | [first, operator, second] =>
    if isBinary operator then whole (readOperand first [operator, second])
    else if first = bytes "(" && second = bytes ")" then whole (readEither 16 [operator])
    else if first = bytes "!" then .not (ofWords [operator, second])
    else all
  | [first, second, third, fourth] =>
    if first = bytes "(" && fourth = bytes ")" then whole (readEither 24 [second, third])
    else if first = bytes "!" then .not (ofWords [second, third, fourth])
    else all
  | _ => all
termination_by words.length

/-- How a fault is shown. -/
def message : Fault → Bytes
  | .badNumber word => bytes "Illegal number: " ++ word
  | .unexpectedOperator word => about word "unexpected operator"
  | .argumentExpected word => about word "argument expected"
  | _ => bytes "closing paren expected"
where
  /-- What is said about a word. -/
  about (word : Bytes) (text : String) : Bytes :=
    if word.isEmpty then bytes text else word ++ bytes (": " ++ text)

end LineShell.Script.Condition
