import LineShell.Script.Builtin.Basic
import LineShell.Script.Lookup

/-! Builtins about variables, arguments and switches. -/

namespace LineShell.Script.Builtin

open LineShell.Script.Action

/-- The variables with a property by name, one in each line. -/
def listing (start : Bytes) (property : Variable → Bool) (table : Table Variable) : Bytes :=
  let chosen : Table Variable := table.filter fun entry => property entry.2
  Programs.joinLines (chosen.sorted.map fun (name, entry) =>
    let value := match entry.value with
      | some value => 61 :: Lookup.quoted value
      | none => []
    (if start.isEmpty then [] else start ++ [32]) ++ name ++ value)

/-- Gives variables a property and the values behind their names, or shows those that have it. -/
def mark (name : String) (change : Variable → Variable) (property : Variable → Bool) :
    Builtin := fun arguments => do
  let isList : Bool := (arguments.headD []).take 2 = bytes "-p"
  let names ← if isList then pure [] else operands arguments
  if names.isEmpty then
    say (listing (bytes name) property (← get).assigned)
    return 0
  names.forM fun argument => do
    let (target, value) := splitAssignment argument
    match value, (← get).assigned.find? target with
    | none, some entry =>
      modify fun shell => { shell with assigned := shell.assigned.put target (change entry) }
    | none, none =>
      checkName target
      store target change
    | some value, _ =>
      checkName target
      store target fun entry => change { entry with value := some value }
  return 0

/-- Gives variables to the programs that are started. -/
def export_ : Builtin :=
  mark "export" (fun entry => { entry with exported := true }) (·.exported)

/-- Keeps the values of variables as they are. -/
def readonly_ : Builtin :=
  mark "readonly" (fun entry => { entry with fixed := true }) (·.fixed)

/-- Makes variables ones of the function that runs. -/
def local_ : Builtin := fun arguments => do
  if (← get).locals.isEmpty then fail (bytes "not in a function")
  arguments.forM fun argument => makeLocal argument false
  return 0

/-- Forgets variables or functions. -/
def unset : Builtin := fun arguments => do
  let (options, names) ← options "vf" arguments
  let isFunction := options.getLast?.any fun entry => entry.1 = 'f'
  names.forM fun name =>
    if isFunction then modify fun shell => { shell with functions := shell.functions.drop name }
    else forget name
  return 0

/-- Sets the arguments of the script. -/
def setOperands (values : List Bytes) : Action Unit :=
  modify fun shell => { shell with operands := { values } }

/-- Turns the switch of a name on or off, or shows all switches if there is no name. -/
def switchNamed (on : Bool) : List Bytes → Action (List Bytes)
  | [] => do
    let switches := (← get).switches
    say (if on then Switch.overview switches else Switch.commands switches)
    return []
  | name :: rest => do
    match Switch.ofName? name with
    | none => fail (bytes "Illegal option -o " ++ name)
    | some switch =>
      modify fun shell => { shell with switches := Switch.turn shell.switches switch on }
      return rest

/-- Turns the switches of letters on or off; the names of some follow among the arguments. -/
def switchLetters (on : Bool) : Bytes → List Bytes → Action (List Bytes)
  | [], rest => return rest
  | 111 :: letters, rest => do switchLetters on letters (← switchNamed on rest)
  | letter :: letters, rest => do
    match Switch.ofLetter? letter with
    | none => fail (bytes "Illegal option -" ++ [letter])
    | some switch =>
      modify fun shell => { shell with switches := Switch.turnByLetter shell.switches switch on }
      switchLetters on letters rest

/-- Turns switches on and off, and sets the arguments if there are any; in so many steps at
most. -/
def setFrom : Nat → List Bytes → Action Unit
  | 0, _ => pure ()
  | _ + 1, [] => pure ()
  | bound + 1, argument :: rest =>
    let operands := fun (values : List Bytes) =>
      if values.isEmpty then pure () else setOperands values
    match argument with
    | [45] => do
      modify fun shell => { shell with
        switches := Switch.turn (Switch.turn shell.switches .xtrace false) .verbose false }
      operands rest
    | [45, 45] => setOperands rest
    | 45 :: letters => do setFrom bound (← switchLetters true letters rest)
    | 43 :: letters => do setFrom bound (← switchLetters false letters rest)
    | _ => operands (argument :: rest)

/-- Gives up the control over jobs, if that has been asked for: there is no terminal. -/
def refuseControl : Action Unit := do
  if (← get).has .monitor then
    warn (bytes "can't access tty; job control turned off")
    modify fun shell => { shell with switches := Switch.turn shell.switches .monitor false }

/-- Sets the arguments and the switches of the script, or shows its variables. -/
def set : Builtin := fun arguments => do
  if arguments.isEmpty then say (listing [] (·.value.isSome) (← get).assigned)
  else
    setFrom (arguments.length + 1) arguments
    refuseControl
  return 0

/-- Drops arguments of the script. -/
def shift : Builtin := fun arguments => do
  let number ← match arguments with
    | [] => pure 1
    | argument :: _ => count argument
  let values := (← get).operands.values
  if number > values.length then fail (bytes "can't shift that many")
  setOperands (values.drop number)
  return 0

/-- What has been found by looking for the next option. -/
structure Found where
  letter : UInt8 := 63
  /-- What the variable for the value of the option becomes: a text, nothing at all, or what it
  has been. -/
  value : Option (Option Bytes) := none
  message : Option Bytes := none
  /-- The number of the argument to go on with. -/
  index : Nat
  /-- What is left of the argument before that one. -/
  rest : Option Bytes := none
  deriving Inhabited

/-- Looks for the next option among arguments. -/
def findOption (known : Bytes) (arguments : List Bytes) (index : Nat) (offset : Option Nat) :
    Option Found :=
  let before := (arguments[index - 2]?).getD []
  let left := match offset with
    | some offset => if index ≤ 1 then [] else before.drop offset
    | none => []
  let argument := (arguments[index - 1]?).getD []
  let start := if left.isEmpty then
      match argument with
      | [45, 45] => none
      | 45 :: letter :: rest => some (letter, rest, index + 1)
      | _ => none
    else some (left.headD 0, left.drop 1, index)
  match start with
  | none => none
  | some (letter, rest, index) =>
    let quiet : Bool := known.head? = some 58
    let missing := fun (reported : UInt8) (message : String × String) (rest : Option Bytes) =>
      let found : Found := { index, rest }
      if quiet then { found with letter := reported, value := some (some [letter]) }
      else { found with
        value := some none
        message := some (bytes message.1 ++ letter :: bytes message.2) }
    match kindOf (known.map fun byte => Char.ofNat byte.toNat) (Char.ofNat letter.toNat) with
    | .unknown => some (missing 63 ("Illegal option -", "\n") (some rest))
    | .alone => some { letter, value := some (some []), index, rest := some rest }
    | .valued =>
      if !rest.isEmpty then some { letter, value := some (some rest), index }
      else match arguments[index - 1]? with
        | some value => some { letter, value := some (some value), index := index + 1 }
        | none => some (missing 58 ("No arg for -", " option\n") (some []))

/-- Takes the next option of the arguments, and tells by the exit code whether there was none. -/
def getopts : Builtin := fun arguments => do
  match ← operands arguments with
  | known :: name :: others =>
    let state := (← get).operands
    let arguments := if others.isEmpty then state.values else others
    let (index, offset) := match state.index with
      | some index => if index > arguments.length + 1 then (1, none) else (index, state.offset)
      | none => (1, none)
    modify fun shell => { shell with operands := { shell.operands with index := none } }
    let found? := findOption known arguments index offset
    let isEnd : Bool := found?.isNone
    let atMark : Bool := (arguments[index - 1]?) = some [45, 45]
    let found := found?.getD { index := if atMark then index + 1 else index }
    match found.message with
    | some message => write 2 message
    | none => pure ()
    let target := bytes "OPTARG"
    match found.value with
    | some (some value) => discard (attempt (assign target value))
    | some none => forget target
    | none => pure ()
    let entry := ((← get).assigned.find? (bytes "OPTIND")).getD {}
    if entry.fixed then fail (bytes "OPTIND: is read only")
    modify fun shell => { shell with
      assigned := shell.assigned.put (bytes "OPTIND")
        { entry with value := some (Programs.digits found.index) } }
    assign name [found.letter]
    let before := (arguments[found.index - 2]?).getD []
    modify fun shell => { shell with operands := { shell.operands with
      index := some found.index
      offset := found.rest.map fun rest => before.length - rest.length } }
    return if isEnd then 1 else 0
  | _ => fail (bytes "Usage: getopts optstring var [arg...]")

end LineShell.Script.Builtin
