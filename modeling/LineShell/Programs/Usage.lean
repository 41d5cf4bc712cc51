import LineShell.Programs.Naming

/-! Usage: the switches that a program can be called with, and what is said about wrong ones. -/

namespace LineShell.Programs

/-- Whether a value belongs to a switch. -/
inductive Demand
  | nothing
  | value
  /-- A value may stand in the same argument. -/
  | optional
  deriving DecidableEq, Repr, Inhabited

/-- A switch of a program. -/
structure Switch where
  /-- What stands for the switch in the program: its letter, or else its word. -/
  key : String
  /-- The word that can be written instead of the letter. -/
  word : String := ""
  demand : Demand := .nothing
  deriving DecidableEq, Repr, Inhabited

/-- A switch that is given, with its value. -/
structure Given where
  key : String
  value : Option Bytes := none
  deriving DecidableEq, Repr, Inhabited

/-- What is wrong with the switches of a call. -/
inductive Usage.Fault
  | unknownLetter (letter : UInt8)
  | unknownWord (argument : Bytes)
  /-- Several words begin like this one. -/
  | ambiguous (argument : Bytes) (words : List String)
  | noValue (letter : UInt8)
  | noValueOfWord (word : String)
  | valueOfWord (word : String)
  deriving DecidableEq, Repr, Inhabited

namespace Usage

/-- How a fault is shown. -/
def Fault.message : Fault → Bytes
  | .unknownLetter letter => bytes "invalid option -- '" ++ [letter, 39]
  | .unknownWord argument => bytes "unrecognized option '" ++ argument ++ [39]
  | .ambiguous argument words =>
    let possible := words.map fun word => bytes (" '--" ++ word ++ "'")
    bytes "option '" ++ argument ++ bytes "' is ambiguous; possibilities:" ++ possible.flatten
  | .noValue letter => bytes "option requires an argument -- '" ++ [letter, 39]
  | .noValueOfWord word => bytes ("option '--" ++ word ++ "' requires an argument")
  | .valueOfWord word => bytes ("option '--" ++ word ++ "' doesn't allow an argument")

/-- The switches and operands of a call, up to the first fault. -/
structure Reading where
  given : List Given := []
  operands : List Bytes := []
  fault : Option Fault := none
  deriving DecidableEq, Repr, Inhabited

namespace Reading

/-- The same with a switch before it. -/
def after (reading : Reading) (given : Given) : Reading :=
  { reading with given := given :: reading.given }

/-- The same with an operand before it. -/
def behind (reading : Reading) (operand : Bytes) : Reading :=
  { reading with operands := operand :: reading.operands }

end Reading

/-- The switch that has a letter. -/
def ofLetter? (switches : List Switch) (letter : UInt8) : Option Switch :=
  switches.find? fun switch => switch.key.toList = [Char.ofNat letter.toNat]

/-- The switches that a word may stand for: the one it is, or those it is the start of. -/
def ofWord (switches : List Switch) (word : Bytes) : List Switch :=
  match switches.find? fun switch => switch.word ≠ "" && bytes switch.word = word with
  | some switch => [switch]
  | none =>
    let found := switches.filter fun switch =>
      switch.word ≠ "" && word.isPrefixOf (bytes switch.word)
    -- Words for one and the same switch do not compete.
    match found with
    | first :: rest =>
      if rest.all fun other => other.key = first.key && other.demand = first.demand then [first]
      else found
    | [] => []

/-- Reads the arguments of a call, in so many steps at most. Switches may stand behind operands if
the usage is `mixed`, except behind a double dash. -/
def readFrom (switches : List Switch) (mixed : Bool) : Nat → Bytes → List Bytes → Reading
  | 0, _, _ => {}
  | bound + 1, letter :: letters, rest =>
    match ofLetter? switches letter with
    | none => { fault := some (.unknownLetter letter) }
    | some switch =>
      match switch.demand, letters, rest with
      | .nothing, _, _ =>
        (readFrom switches mixed bound letters rest).after { key := switch.key }
      | .optional, [], _ => (readFrom switches mixed bound [] rest).after { key := switch.key }
      | .value, [], [] => { fault := some (.noValue letter) }
      | .value, [], value :: rest =>
        (readFrom switches mixed bound [] rest).after { key := switch.key, value := some value }
      | _, value, _ =>
        (readFrom switches mixed bound [] rest).after { key := switch.key, value := some value }
  | _ + 1, [], [] => {}
  | bound + 1, [], argument :: rest =>
    match argument with
    | [45, 45] => { operands := rest }
    | 45 :: 45 :: text =>
      let word := text.takeWhile (· != 61)
      let value := if word.length = text.length then none else some (text.drop (word.length + 1))
      match ofWord switches word with
      | [] => { fault := some (.unknownWord argument) }
      | [switch] =>
        match switch.demand, value, rest with
        | .nothing, some _, _ => { fault := some (.valueOfWord switch.word) }
        | .value, none, [] => { fault := some (.noValueOfWord switch.word) }
        | .value, none, value :: rest =>
          (readFrom switches mixed bound [] rest).after { key := switch.key, value := some value }
        | _, value, _ =>
          (readFrom switches mixed bound [] rest).after { key := switch.key, value }
      | several => { fault := some (.ambiguous argument (several.map (·.word))) }
    | 45 :: letter :: letters => readFrom switches mixed bound (letter :: letters) rest
    | _ =>
      if mixed then (readFrom switches mixed bound [] rest).behind argument
      else { operands := argument :: rest }

/-- Reads the arguments of a call. -/
def read (switches : List Switch) (mixed : Bool) (arguments : List Bytes) : Reading :=
  let length := arguments.foldl (fun sum argument => sum + argument.length + 1) 1
  readFrom switches mixed length [] arguments

end Usage

/-- Why the work of a program ends before it has begun. -/
structure Refusal where
  message : Bytes
  /-- What else is said. -/
  more : Option Bytes := none
  /-- Where to find help is shown as well. -/
  helps : Bool := false
  /-- The exit code, if it is not the one for wrong switches. -/
  code : Option UInt8 := none
  deriving DecidableEq, Repr, Inhabited

/-- Shows where to find help, and gives an exit code. -/
def adviseHelp (invocation : Invocation) (code : UInt8) : Task UInt8 := do
  let help := bytes "Try '" ++ invocation.name ++ bytes " --help' for more information.\n"
  discard (Task.writeAll 2 help)
  pure code

/-- Shows a message and where to find help, and gives an exit code. -/
def misuse (invocation : Invocation) (message : Bytes) (code : UInt8) : Task UInt8 := do
  complain invocation message
  adviseHelp invocation code

/-- Shows why a program refuses its arguments, and gives an exit code. -/
def refuse (invocation : Invocation) (refusal : Refusal) (code : UInt8) : Task UInt8 := do
  complain invocation refusal.message
  refusal.more.forM (complain invocation)
  let code := refusal.code.getD code
  if refusal.helps then adviseHelp invocation code else pure code

/-- How a program is called: its switches, what they change, and the exit code for wrong ones. -/
structure Usage (σ : Type) where
  switches : List Switch := []
  /-- Switches may stand behind operands. -/
  mixed : Bool := true
  /-- What a switch changes. -/
  take : σ → Given → Except Refusal σ := fun state _ => .ok state
  code : UInt8 := 1

namespace Usage

/-- The switches that every program has; nothing else is done if one of them is given. -/
def standard : List Switch :=
  [{ key := "help", word := "help" }, { key := "version", word := "version" }]

/-- Whether nothing is done but what a standard switch asks for. -/
def isStandard (given : Given) : Bool :=
  given.key = "help" || given.key = "version"

/-- The work of a program with its switches taken one after the other. -/
def work {σ : Type} (usage : Usage σ) (start : σ)
    (run : Invocation → σ → List Bytes → Task UInt8) : Work := fun invocation =>
  let reading := read (usage.switches ++ standard) usage.mixed invocation.arguments
  let isAsked := reading.given.any isStandard
  let given := reading.given.takeWhile fun given => !isStandard given
  match given.foldlM usage.take start, reading.fault with
  | .error refusal, _ => refuse invocation refusal usage.code
  | .ok state, fault =>
    if isAsked then pure 0
    else match fault with
      | some fault => misuse invocation fault.message usage.code
      | none => run invocation state reading.operands

/-- Names in lines, each name beside the others with the same meaning that it follows. -/
def possibilities {α : Type} [DecidableEq α] : Option α → List (String × α) → Bytes
  | _, [] => []
  | last, (name, meaning) :: rest =>
    let quoted := bytes ("'" ++ name ++ "'")
    bytes (if last = some meaning then ", " else "\n  - ") ++ quoted ++
      possibilities (some meaning) rest

/-- What a value means that is one of some names, or begins only names with one meaning. -/
def choose {α : Type} [DecidableEq α] (switch : String) (known : List (String × α))
    (value : Bytes) : Except Refusal α :=
  let refusal := fun (kind : String) => (.error {
    message := bytes (kind ++ " argument ") ++ quoteWord value ++
      bytes (" for '" ++ switch ++ "'\nValid arguments are:") ++ possibilities none known
    helps := true, code := some 1 } : Except Refusal α)
  match known.find? fun entry => bytes entry.1 = value with
  | some (_, meaning) => .ok meaning
  | none =>
    match known.filter fun entry => value.isPrefixOf (bytes entry.1) with
    | [] => refusal "invalid"
    | (_, meaning) :: rest =>
      if rest.all fun entry => entry.2 = meaning then .ok meaning else refusal "ambiguous"

/-- The switches of letters, each with a word. -/
def plainSwitches (entries : List (String × String)) : List Switch :=
  entries.map fun (key, word) => { key, word }

/-- Remembers switches that are given. -/
def remember (state : List Given) (given : Given) : Except Refusal (List Given) :=
  .ok (state ++ [given])

end Usage

/-- Whether a switch is among those given. -/
def gave (given : List Given) (key : String) : Bool :=
  given.any fun entry => entry.key = key

/-- The value of the last of the switches with a key. -/
def valueOf? (given : List Given) (key : String) : Option Bytes :=
  (given.reverse.find? fun entry => entry.key = key).bind (·.value)

/-- The files named as operands, or the standard input if there are none. -/
def inputs (operands : List Bytes) : List Bytes :=
  if operands.isEmpty then [bytes "-"] else operands

end LineShell.Programs
