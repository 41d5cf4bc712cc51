import LineShell.Programs.Condition
import LineShell.Programs.Naming

/-! The programs that answer whether a condition holds. How few words are read depends on how many
there are; five words or more are read as an expression. -/

namespace LineShell.Programs

namespace Condition

/-- The operators between texts that a program knows. -/
def programOperators : List (String × Order) :=
  [("=", .equal), ("==", .equal), ("!=", .different)]

/-- The words of a condition. -/
structure Words where
  /-- The words that have not been read. -/
  left : List Bytes
  /-- The last word of all. -/
  last : Bytes
  /-- The word that stands behind the last one and is none of the condition. -/
  closing : Option Bytes
  deriving DecidableEq, Repr, Inhabited

/-- A condition with the words behind it. -/
abbrev Reading := Condition × Words

namespace Words

/-- The words but for some at the start. -/
def pass (words : Words) (count : Nat) : Words :=
  { words with left := words.left.drop count }

/-- A condition behind which nothing can be read. -/
def stop (words : Words) (condition : Condition) (fault : Fault) : Reading :=
  (.stopped condition fault, { words with left := [], closing := none })

/-- A condition that ends too early. -/
def tooFew (words : Words) : Reading :=
  words.stop .never (.missingArgument words.last)

/-- Whether the first word is a given one. -/
def startsWith (words : Words) (word : String) : Bool :=
  words.left.head? = some (bytes word)

/-- Whether a word some places behind the first one is a given one. -/
def holdsAt (words : Words) (place : Nat) (word : String) : Bool :=
  words.left[place]? = some (bytes word)

/-- Whether a word some places behind the first one is an operator between words. -/
def isBinaryAt (words : Words) (place : Nat) : Bool :=
  words.left[place]?.any fun word => (between? programOperators [] word []).isSome

/-- A dash and one letter. -/
def letter? (words : Words) : Option UInt8 :=
  match words.left with
  | [45, letter] :: _ => some letter
  | _ => none

/-- Reads a word that is true if there is something in it. -/
def one (words : Words) : Reading :=
  (.filled (words.left.headD []), words.pass 1)

/-- Reads an operator with the word behind it. -/
def unary (words : Words) : Reading :=
  match words.left with
  | operator :: rest =>
    let letter := (words.letter?.getD 0)
    if !(bytes "aerwxNOGfdsScbpLhugktnz").contains letter then
      words.stop .never (.unaryExpected operator)
    else match rest with
      | [] => words.tooFew
      | word :: _ =>
        let condition := match Char.ofNat letter.toNat with
          | 'z' => Condition.empty word
          | 'n' => .filled word
          | 't' => .terminal word
          | _ => .file letter word
        (condition, words.pass 2)
  | [] => words.tooFew

/-- The number of bytes of a word as a word. -/
def lengthOf (word : Bytes) : Bytes :=
  digits word.length

/-- Reads an operator between two words, in front of which their lengths may be asked for. -/
def binary (words : Words) (firstLength : Bool) : Reading :=
  let start := if firstLength then words.pass 1 else words
  let secondLength := start.left.length > 3 && start.holdsAt 2 "-l"
  let first := start.left.headD []
  let operator := (start.left[1]?).getD []
  let second := (start.left[if secondLength then 3 else 2]?).getD []
  let rest := start.pass (if secondLength then 4 else 3)
  match between? programOperators first operator second with
  | some (.numbers order first second) =>
    let first := if firstLength then lengthOf first else first
    let second := if secondLength then lengthOf second else second
    (.numbers order first second, rest)
  | some (.files relation first second) =>
    if firstLength || secondLength then words.stop .never (.noLength (plain operator))
    else (.files relation first second, rest)
  | some (.texts order _ _) =>
    -- Lengths are not asked for between texts.
    let first := words.left.headD []
    let second := (words.left[2]?).getD []
    (.texts order first second, words.pass 3)
  | _ => words.stop .never (.binaryExpected operator)

/-- The negation of what has been read. -/
def negate (reading : Reading) : Reading :=
  (.not reading.1, reading.2)

/-- Reads two words. -/
def two (words : Words) : Reading :=
  if words.startsWith "!" then negate (words.pass 1).one
  else if words.letter?.isSome then words.unary
  else words.tooFew

mutual

/-- Reads an expression: conditions of which one has to hold. -/
def expression : Nat → Words → Reading
  | 0, words => (.never, words)
  | bound + 1, words =>
    if words.left.isEmpty then words.tooFew else either bound words

/-- Reads conditions of which one has to hold. -/
def either : Nat → Words → Reading
  | 0, words => (.never, words)
  | bound + 1, words =>
    let (first, rest) := both bound words
    if rest.startsWith "-o" then
      let (second, rest) := either bound (rest.pass 1)
      (.either first second, rest)
    else (first, rest)

/-- Reads conditions that all have to hold. -/
def both : Nat → Words → Reading
  | 0, words => (.never, words)
  | bound + 1, words =>
    let (first, rest) := term bound words
    if rest.startsWith "-a" then
      let (second, rest) := both bound (rest.pass 1)
      (.both first second, rest)
    else (first, rest)

/-- Reads a single condition of an expression. -/
def term : Nat → Words → Reading
  | 0, words => (.never, words)
  | bound + 1, words =>
    match words.left with
    | [] => words.tooFew
    | word :: rest =>
      if word = bytes "!" then
        if rest.isEmpty then words.tooFew else negate (term bound (words.pass 1))
      else if word = bytes "(" then
        if rest.isEmpty then words.tooFew
        else
          -- The parenthesis that ends a short condition is looked for first.
          let inner := (rest.drop 1).takeWhile (· ≠ bytes ")")
          let count := if inner.length ≥ 4 then rest.length else inner.length + 1
          let (condition, after) := few bound count (words.pass 1)
          match after.left, after.closing with
          | found :: _, _ =>
            if found = bytes ")" then (condition, after.pass 1)
            else after.stop condition (.parenthesisBefore found)
          | [], some found => after.stop condition (.parenthesisBefore found)
          | [], none => after.stop condition .parenthesisExpected
      else if words.left.length ≥ 4 && words.startsWith "-l" && words.isBinaryAt 2 then
        words.binary true
      else if words.left.length ≥ 3 && words.isBinaryAt 1 then words.binary false
      else if words.letter?.isSome then words.unary
      else words.one

/-- Reads three words. -/
def three : Nat → Words → Reading
  | 0, words => (.never, words)
  | bound + 1, words =>
    if words.isBinaryAt 1 then words.binary false
    else if words.startsWith "!" then negate (words.pass 1).two
    else if words.startsWith "(" && words.holdsAt 2 ")" then
      let (condition, rest) := (words.pass 1).one
      (condition, rest.pass 1)
    else if words.holdsAt 1 "-a" || words.holdsAt 1 "-o" then expression bound words
    else words.stop .never (.binaryExpected ((words.left[1]?).getD []))

/-- Reads a condition by the number of its words. -/
def few : Nat → Nat → Words → Reading
  | 0, _, words => (.never, words)
  | bound + 1, count, words =>
    match count with
    | 1 => words.one
    | 2 => words.two
    | 3 => three bound words
    | 4 =>
      if words.startsWith "!" then negate (three bound (words.pass 1))
      else if words.startsWith "(" && words.holdsAt 3 ")" then
        let (condition, rest) := (words.pass 1).two
        (condition, rest.pass 1)
      else expression bound words
    | _ => expression bound words

end

/-- The condition that all the words state. -/
def whole (words : Words) : Condition :=
  if words.left.isEmpty then .never
  else
    let count := words.left.length
    let (condition, rest) := few (8 * count + 8) count words
    match rest.left with
    | [] => condition
    | word :: _ => .stopped condition (.extraArgument word)

end Words

/-- How a fault is shown by a program. -/
def Fault.message : Fault → Bytes
  | .badNumber word => bytes "invalid integer " ++ quoteWord word
  | .parenthesisExpected => bytes "')' expected"
  | .parenthesisBefore word => bytes "')' expected, found " ++ quoteWord word
  | .extraArgument word | .unexpectedOperator word => bytes "extra argument " ++ quoteWord word
  | .missingArgument word | .argumentExpected word =>
    bytes "missing argument after " ++ quoteWord word
  | .binaryExpected word => quoteWord word ++ bytes ": binary operator expected"
  | .unaryExpected word => quoteWord word ++ bytes ": unary operator expected"
  | .noLength operator => bytes (operator ++ " does not accept -l")

end Condition

/-- Answers whether the condition holds that some words state, which another word may close. -/
def answer (invocation : Invocation) (words : List Bytes) (closing : Option Bytes) :
    Task UInt8 := do
  let condition := Condition.Words.whole { left := words, last := words.getLastD [], closing }
  match ← condition.judge .program with
  | .error fault =>
    complain invocation fault.message
    pure 2
  | .ok holds => pure (if holds then 0 else 1)

/-- Answers whether a condition holds. -/
def test : Work := fun invocation => answer invocation invocation.arguments none

/-- Answers whether a condition holds that ends with a bracket. -/
def bracket : Work := fun invocation =>
  if invocation.arguments.getLast? = some (bytes "]") then
    answer invocation invocation.arguments.dropLast (some (bytes "]"))
  else do
    complain invocation (bytes "missing ']'")
    pure 2

end LineShell.Programs
