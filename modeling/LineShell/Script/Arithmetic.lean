import LineShell.Script.Name
import LineShell.Text.Numeral

/-! Arithmetic in scripts: expressions over whole numbers of 64 bits. An expression that cannot be
read to its end holds the reason at the place where reading has stopped, so that whatever stands in
front of it is worked out first. -/

namespace LineShell.Script.Arithmetic

/-- An operator between two numbers. -/
inductive Operator
  | times | over | rest | plus | minus | shiftLeft | shiftRight | less | lessEqual | greater
  | greaterEqual | equal | different | and | xor | or
  deriving DecidableEq, Repr, Inhabited

/-- An operator before a number. -/
inductive Sign
  | minus | not | complement
  deriving DecidableEq, Repr, Inhabited

/-- Why an expression has no value. -/
inductive Fault
  | noOperand
  | noClosing
  | noColon
  | leftover
  | divisionByZero
  /-- The value of a variable is not a number. -/
  | notNumber (value : Bytes)
  /-- The value of a division is larger than any number, which ends the process. -/
  | overflow
  deriving DecidableEq, Repr, Inhabited

/-- An expression. -/
inductive Expression
  | number (value : Int64)
  | variable_ (name : Bytes)
  | signed (sign : Sign) (operand : Expression)
  | joined (operator : Operator) (first second : Expression)
  | both (first second : Expression)
  | either (first second : Expression)
  | choice (condition consequence alternative : Expression)
  /-- Gives a variable a value, which may be joined to its old one. -/
  | assign (name : Bytes) (operator : Option Operator) (value : Expression)
  /-- Cannot be read on after another expression. -/
  | stopped (before : Expression) (fault : Fault)
  deriving Inhabited

/-- How a fault of an expression is shown. -/
def Fault.message (expression : Bytes) : Fault → Bytes
  | .noOperand => about "expecting primary"
  | .noClosing => about "expecting ')'"
  | .noColon => about "expecting ':'"
  | .leftover => about "expecting EOF"
  | .divisionByZero => about "division by zero"
  | .notNumber value => bytes "Illegal number: " ++ value
  | .overflow => []
where
  /-- A description with the expression behind it. -/
  about (text : String) : Bytes :=
    bytes ("arithmetic expression: " ++ text ++ ": \"") ++ expression ++ bytes "\""

/-- A piece of the text of an expression. -/
inductive Lexeme
  | number (value : Int64)
  | name (name : Bytes)
  | sign (text : String)
  /-- A byte that cannot stand in an expression. -/
  | unknown
  | ending
  deriving DecidableEq, Repr, Inhabited

/-- The signs, longer ones before those they begin with. -/
def signs : List String :=
  ["<<=", ">>=", "<<", ">>", "<=", ">=", "==", "!=", "&&", "||", "+=", "-=", "*=", "/=", "%=", "&=",
    "^=", "|=", "<", ">", "=", "!", "&", "|", "+", "-", "*", "/", "%", "^", "~", "?", ":", "(", ")"]

/-- The number nearest to a whole number that may be too large. -/
def saturated (value : Int) : Int64 :=
  if value > Int64.maxValue.toInt then Int64.maxValue
  else if value < Int64.minValue.toInt then Int64.minValue
  else Int64.ofInt value

/-- The first piece of a text, and what comes after it. -/
def lexeme (text : Bytes) : Lexeme × Bytes :=
  let text := text.dropWhile fun byte => byte == 32 || byte == 9 || byte == 10
  match text with
  | [] => (.ending, [])
  | byte :: _ =>
    if byte = 0 then (.ending, text)
    else match if isDigit byte then Numeral.leading? text else none with
      | some (value, length) => (.number (saturated value), text.drop length)
      | none =>
        let name := leadingName text
        if !name.isEmpty then (.name name, text.drop name.length)
        else match signs.find? fun sign => (bytes sign).isPrefixOf text with
          | some sign => (.sign sign, text.drop sign.length)
          | none => (.unknown, text)

/-- The operators and how loosely they bind. -/
def operators : List (String × Operator × Nat) :=
  [("*", .times, 0), ("/", .over, 0), ("%", .rest, 0), ("+", .plus, 1), ("-", .minus, 1),
    ("<<", .shiftLeft, 2), (">>", .shiftRight, 2), ("<", .less, 3), ("<=", .lessEqual, 3),
    (">", .greater, 3), (">=", .greaterEqual, 3), ("==", .equal, 4), ("!=", .different, 4),
    ("&", .and, 5), ("^", .xor, 6), ("|", .or, 7)]

/-- The operator that a piece is, and how loosely it binds. -/
def operator? : Lexeme → Option (Operator × Nat)
  | .sign text => operators.lookup text
  | _ => none

/-- The signs that give a variable a value. -/
def assignments : List (String × Option Operator) := [
  ("=", none), ("+=", some .plus), ("-=", some .minus), ("*=", some .times), ("/=", some .over),
  ("%=", some .rest), ("<<=", some .shiftLeft), (">>=", some .shiftRight), ("&=", some .and),
  ("^=", some .xor), ("|=", some .or)]

/-- How loosely the operators bind at most, and one. -/
def loosest : Nat := 8

/-- An expression with the piece behind it and what comes after that piece. -/
structure Read where
  expression : Expression
  next : Lexeme
  rest : Bytes
  deriving Inhabited

namespace Read

/-- The expression that one makes of what was read, with the same behind it. -/
def map (read : Read) (change : Expression → Expression) : Read :=
  { read with expression := change read.expression }

/-- An expression that ends with a fault; nothing is read after it. -/
def stop (before : Expression) (fault : Fault) : Read :=
  { expression := .stopped before fault, next := .ending, rest := [] }

end Read

mutual

/-- Reads a whole expression that begins with a piece. -/
def assignment : Nat → Lexeme → Bytes → Read
  | 0, _, _ => .stop (.number 0) .noOperand
  | bound + 1, first, text =>
    let (second, after) := lexeme text
    let assigned := match first, second with
      | .name name, .sign sign => (assignments.lookup sign).map (name, ·)
      | _, _ => none
    match assigned with
    | some (name, operator) =>
      let (third, rest) := lexeme after
      (assignment bound third rest).map (.assign name operator)
    | none => choice bound first text

/-- Reads an expression that may choose between two others. -/
def choice : Nat → Lexeme → Bytes → Read
  | 0, _, _ => .stop (.number 0) .noOperand
  | bound + 1, first, text =>
    let condition := either bound first text
    if condition.next ≠ .sign "?" then condition
    else
      let (start, rest) := lexeme condition.rest
      let consequence := assignment bound start rest
      let choose := Expression.choice condition.expression
      if consequence.next ≠ .sign ":" then
        .stop (choose (.stopped consequence.expression .noColon) (.number 0)) .noColon
      else
        let (start, rest) := lexeme consequence.rest
        (choice bound start rest).map (choose consequence.expression)

/-- Reads operands of which one has to hold. -/
def either : Nat → Lexeme → Bytes → Read
  | 0, _, _ => .stop (.number 0) .noOperand
  | bound + 1, first, text =>
    let left := both bound first text
    if left.next ≠ .sign "||" then left
    else
      let (start, rest) := lexeme left.rest
      (either bound start rest).map (.either left.expression)

/-- Reads operands that all have to hold. -/
def both : Nat → Lexeme → Bytes → Read
  | 0, _, _ => .stop (.number 0) .noOperand
  | bound + 1, first, text =>
    let left := joined bound loosest (primary bound first text)
    if left.next ≠ .sign "&&" then left
    else
      let (start, rest) := lexeme left.rest
      (both bound start rest).map (.both left.expression)

/-- Goes on behind an operand with others, joined by operators that bind tighter than a limit. -/
def joined : Nat → Nat → Read → Read
  | 0, _, left => left
  | bound + 1, limit, left =>
    match operator? left.next with
    | none => left
    | some (operator, level) =>
      if level ≥ limit then left
      else
        let (start, rest) := lexeme left.rest
        let right := joined bound level (primary bound start rest)
        joined bound limit (right.map (.joined operator left.expression))

/-- Reads an operand with the signs before it. -/
def primary : Nat → Lexeme → Bytes → Read
  | 0, _, _ => .stop (.number 0) .noOperand
  | bound + 1, first, text =>
    let (next, rest) := lexeme text
    match first with
    | .number value => { expression := .number value, next, rest }
    | .name name => { expression := .variable_ name, next, rest }
    | .sign "(" =>
      let inner := assignment bound next rest
      if inner.next ≠ .sign ")" then .stop inner.expression .noClosing
      else
        let (next, rest) := lexeme inner.rest
        { expression := inner.expression, next, rest }
    | .sign "+" => primary bound next rest
    | .sign "-" => (primary bound next rest).map (.signed .minus)
    | .sign "!" => (primary bound next rest).map (.signed .not)
    | .sign "~" => (primary bound next rest).map (.signed .complement)
    | _ => .stop (.number 0) .noOperand

end

/-- The expression that a text stands for. -/
def Expression.ofBytes (text : Bytes) : Expression :=
  let (first, rest) := lexeme text
  -- The depth of an expression is bounded by its length.
  let read := assignment (10 * text.length + 10) first rest
  if read.next = .ending then read.expression else .stopped read.expression .leftover

/-- One for what holds and zero for what does not. -/
def ofBool (value : Bool) : Int64 :=
  if value then 1 else 0

/-- The value of a division; it is not a number if the largest one is less than it. -/
def divided (first second : Int64) (value : Int64) : Except Fault Int64 :=
  if second = 0 then .error .divisionByZero
  else if first = Int64.minValue && second = -1 then .error .overflow
  else .ok value

/-- The value of two joined numbers. -/
def Operator.apply (first second : Int64) : Operator → Except Fault Int64
  | .times => .ok (first * second)
  | .over => divided first second (first / second)
  | .rest => divided first second (first % second)
  | .plus => .ok (first + second)
  | .minus => .ok (first - second)
  | .shiftLeft => .ok (first <<< second)
  | .shiftRight => .ok (first >>> second)
  | .less => .ok (ofBool (first < second))
  | .lessEqual => .ok (ofBool (first ≤ second))
  | .greater => .ok (ofBool (first > second))
  | .greaterEqual => .ok (ofBool (first ≥ second))
  | .equal => .ok (ofBool (first == second))
  | .different => .ok (ofBool (first != second))
  | .and => .ok (first &&& second)
  | .xor => .ok (first ^^^ second)
  | .or => .ok (first ||| second)

/-- The value of a number with a sign before it. -/
def Sign.apply (operand : Int64) : Sign → Int64
  | .minus => -operand
  | .not => ofBool (operand == 0)
  | .complement => ~~~operand

/-- The number that the value of a variable stands for; a blank one stands for zero. -/
def ofValue? (value : Bytes) : Option Int64 :=
  let isSpace := fun (byte : UInt8) => byte == 32 || (9 ≤ byte && byte ≤ 13)
  let text := value.dropWhile isSpace
  let (negative, digits) := match text with
    | 45 :: rest => (true, rest)
    | 43 :: rest => (false, rest)
    | _ => (false, text)
  if text.isEmpty then some 0
  else match Numeral.leading? digits with
    | none => none
    | some (number, length) =>
      let whole : Int := if negative then -(number : Int) else number
      let fits := saturated whole = Int64.ofInt whole && Int64.minValue.toInt ≤ whole &&
        whole ≤ Int64.maxValue.toInt
      if fits && (digits.drop length).all isSpace then some (Int64.ofInt whole) else none

/-- How variables are read and changed while an expression is worked out. -/
structure Store (m : Type → Type) where
  value : Bytes → m Bytes
  assign : Bytes → Int64 → m Unit
  fail : Fault → m Int64

section

variable {m : Type → Type} [Monad m] (store : Store m)

/-- A result that may be a fault. -/
def Store.settle : Except Fault Int64 → m Int64
  | .ok value => pure value
  | .error fault => store.fail fault

/-- The number that a variable stands for. -/
def Store.number (name : Bytes) : m Int64 := do
  let value ← store.value name
  match ofValue? value with
  | some number => pure number
  | none => store.fail (.notNumber value)

/-- The value of an expression, which may give variables a value. A part that does not count is
read all the same, but it changes nothing, and only what stops the reading is wrong in it. -/
def Expression.evaluate (counts : Bool) : Expression → m Int64
  | .number value => pure value
  | .variable_ name => if counts then store.number name else pure 0
  | .signed sign operand => do pure (sign.apply (← operand.evaluate counts))
  | .joined operator first second => do
    let left ← first.evaluate counts
    let right ← second.evaluate counts
    if counts then store.settle (operator.apply left right) else pure right
  | .both first second => do
    let left ← first.evaluate counts
    let right ← second.evaluate (counts && left != 0)
    pure (ofBool (left != 0 && right != 0))
  | .either first second => do
    let left ← first.evaluate counts
    let right ← second.evaluate (counts && left == 0)
    pure (ofBool (left != 0 || right != 0))
  | .choice condition consequence alternative => do
    let chosen ← condition.evaluate counts
    let first ← consequence.evaluate (counts && chosen != 0)
    let second ← alternative.evaluate (counts && chosen == 0)
    pure (if chosen != 0 then first else second)
  | .assign name operator value => do
    let result ← value.evaluate counts
    if !counts then pure result
    else
      let result ← match operator with
        | none => pure result
        | some operator => do store.settle (operator.apply (← store.number name) result)
      store.assign name result
      pure result
  | .stopped before fault => do
    discard (before.evaluate counts)
    store.fail fault

end

end LineShell.Script.Arithmetic
