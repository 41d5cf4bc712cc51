import LineShell.Programs.Basic

/-! Conditions: what can be said about texts, numbers and files, and whether it holds. Words that
state no condition hold the reason at the place where reading them has stopped, so that whatever
stands in front of it is looked at first. -/

namespace LineShell.Programs

/-- Why words are no condition or have no answer. -/
inductive Condition.Fault
  | badNumber (word : Bytes)
  | unexpectedOperator (word : Bytes)
  | argumentExpected (word : Bytes)
  | parenthesisExpected
  /-- Another word stands where a parenthesis is expected. -/
  | parenthesisBefore (word : Bytes)
  | missingArgument (word : Bytes)
  | extraArgument (word : Bytes)
  | binaryExpected (word : Bytes)
  | unaryExpected (word : Bytes)
  /-- An operator between files that compares no lengths. -/
  | noLength (operator : String)
  deriving DecidableEq, Repr, Inhabited

/-- How two numbers or texts are compared. -/
inductive Condition.Order
  | equal | different | less | lessEqual | greater | greaterEqual
  deriving DecidableEq, Repr, Inhabited

/-- How two files are compared. -/
inductive Condition.Relation
  | newer | older | same
  deriving DecidableEq, Repr, Inhabited

/-- A statement that holds or does not. -/
inductive Condition
  | never
  | filled (text : Bytes)
  | empty (text : Bytes)
  /-- A descriptor is a terminal. -/
  | terminal (text : Bytes)
  /-- A property of a file, by the letter of its operator. -/
  | file (property : UInt8) (path : Bytes)
  | files (relation : Condition.Relation) (first second : Bytes)
  | texts (order : Condition.Order) (first second : Bytes)
  | numbers (order : Condition.Order) (first second : Bytes)
  | not (inner : Condition)
  | both (first second : Condition)
  | either (first second : Condition)
  /-- Cannot be read on after another condition. -/
  | stopped (before : Condition) (fault : Condition.Fault)
  deriving DecidableEq, Repr, Inhabited

namespace Condition

/-- The operators between numbers. -/
def numberOperators : List (String × Order) :=
  [("-eq", .equal), ("-ne", .different), ("-lt", .less), ("-le", .lessEqual), ("-gt", .greater),
    ("-ge", .greaterEqual)]

/-- The operators between files. -/
def fileOperators : List (String × Relation) :=
  [("-nt", .newer), ("-ot", .older), ("-ef", .same)]

/-- The condition that an operator states of two words, if it is an operator between words. -/
def between? (texts : List (String × Order)) (first operator second : Bytes) :
    Option Condition :=
  let name := plain operator
  match texts.lookup name, numberOperators.lookup name, fileOperators.lookup name with
  | some order, _, _ => some (.texts order first second)
  | _, some order, _ => some (.numbers order first second)
  | _, _, some relation => some (.files relation first second)
  | none, none, none => none

/-- Whether two numbers are in some order. -/
def Order.holds (order : Order) (first second : Int) : Bool :=
  match order with
  | .equal => first == second
  | .different => first != second
  | .less => first < second
  | .lessEqual => first ≤ second
  | .greater => first > second
  | .greaterEqual => first ≥ second

/-- The number that a word stands for, which may stand between blanks. A command of a script takes
only numbers of 64 bits. -/
def numberIn (style : Style) (word : Bytes) : Except Fault Int :=
  let inner := ((word.dropWhile isGap).reverse.dropWhile isGap).reverse
  let unsigned := match inner with
    | 43 :: 45 :: _ => []
    | 43 :: rest => rest
    | _ => inner
  match Text.integer? (plain unsigned).toList with
  | some value =>
    let fits := -0x8000000000000000 ≤ value && value ≤ 0x7FFFFFFFFFFFFFFF
    if style = .program || fits then .ok value else .error (.badNumber word)
  | none => .error (.badNumber word)

/-- Whether a file has a property. -/
def hasProperty (property : UInt8) (file : File) : Bool :=
  match Char.ofNat property.toNat, file.node with
  | 'f', .regular .. => true
  | 'd', .directory _ => true
  | 'p', .fifo _ => true
  | 'c', .device _ => true
  | 'h', .link _ | 'L', .link _ => true
  | 's', .regular _ content => !content.isEmpty
  | 's', .directory _ => true
  | 'r', _ => file.allows .read
  | 'w', _ => file.allows .write
  | 'x', _ => file.allows .execute
  | 'u', node => node.mode &&& 0o4000 != 0
  | 'g', node => node.mode &&& 0o2000 != 0
  | 'k', node => node.mode &&& 0o1000 != 0
  | 'O', _ | 'G', _ => file.own
  | letter, _ => ['a', 'e', 'N'].contains letter

/-- What is known about a file, if there is one. -/
def factsOf (path : Bytes) (follow : Bool) : Task (Option Facts) := do
  pure (← Task.request (.examine path follow)).toOption

/-- Whether one file is newer than another. For a program, a file is newer than none. -/
def isNewer (style : Style) : Option Facts → Option Facts → Bool
  | some first, some second => first.file.modified > second.file.modified
  | some _, none => style = .program
  | none, _ => false

/-- Whether two files stand in a relation. -/
def Relation.holds (style : Style) (relation : Relation) (first second : Option Facts) : Bool :=
  match relation with
  | .newer => isNewer style first second
  | .older => isNewer style second first
  | .same =>
    match first, second with
    | some first, some second => first.number = second.number
    | _, _ => false

/-- Whether one text comes before another. -/
def precedes (first second : Bytes) : Bool :=
  first.lex second fun a b => decide (a < b)

/-- How one text stands to another, as a number below zero, zero, or one above. -/
def compareTexts (first second : Bytes) : Int :=
  if first = second then 0 else if precedes first second then -1 else 1

/-- Whether a condition holds at the moment. All its parts are looked at. -/
def evaluate (style : Style) : Condition → ExceptT Fault Task Bool
  | .never => pure false
  | .filled text => pure !text.isEmpty
  | .empty text => pure text.isEmpty
  | .terminal text => do
    discard (ExceptT.mk (pure (numberIn style text)))
    pure false
  | .file property path => do
    let follow := property ≠ 104 && property ≠ 76
    let facts ← ExceptT.lift (factsOf path follow)
    pure (facts.any fun facts => hasProperty property facts.file)
  | .files relation first second => do
    let firstFacts ← ExceptT.lift (factsOf first true)
    let secondFacts ← ExceptT.lift (factsOf second true)
    pure (relation.holds style firstFacts secondFacts)
  | .texts order first second => pure (order.holds (compareTexts first second) 0)
  | .numbers order first second => do
    let first ← ExceptT.mk (pure (numberIn style first))
    let second ← ExceptT.mk (pure (numberIn style second))
    pure (order.holds first second)
  | .not inner => do pure !(← inner.evaluate style)
  | .both first second => do
    let first ← first.evaluate style
    let second ← second.evaluate style
    pure (first && second)
  | .either first second => do
    let first ← first.evaluate style
    let second ← second.evaluate style
    pure (first || second)
  | .stopped before fault => do
    discard (before.evaluate style)
    throw fault

/-- Whether a condition holds at the moment, or why that cannot be told. -/
def judge (style : Style) (condition : Condition) : Task (Except Fault Bool) :=
  condition.evaluate style

end Condition

end LineShell.Programs
