import LineShell.Script.Run

/-! The program that runs scripts: from its arguments, from a file or from its input. -/

namespace LineShell.Script

open LineShell.Script.Action

namespace Start

/-- The most steps of a script that lie inside one another. -/
def mostSteps : Nat := 1000000000000

/-- Where programs are looked for if nothing else is said. -/
def searchPath : Bytes :=
  bytes "/usr/local/sbin:/usr/local/bin:/usr/sbin:/usr/bin:/sbin:/bin"

/-- The variables that every script knows. -/
def known : List (String × Option Bytes) :=
  [("HISTSIZE", none), ("TERM", none), ("OPTIND", some (bytes "1")), ("PS4", some (bytes "+ ")),
    ("PS2", some (bytes "> ")), ("PS1", some (bytes "$ ")), ("PATH", some searchPath),
    ("MAILPATH", none), ("MAIL", none), ("IFS", some Field.usualSeparators)]

/-- Takes over the variables that the program is started with. -/
def takeVariables (environment : Environment) : Action Unit := do
  let lasting : Table Variable := known.map fun (name, value) =>
    (bytes name, { value, lasting := true })
  modify fun shell => { shell with assigned := lasting }
  (environment.filter fun entry => isName entry.1).forM fun (name, value) =>
    store name fun entry => { entry with value := some value, exported := true }
  let renew := fun (name : String) (value : Bytes) =>
    store (bytes name) fun entry => { entry with value := some value }
  renew "IFS" Field.usualSeparators
  renew "OPTIND" (bytes "1")
  renew "PPID" (Programs.digits (← ask .parent))

/-- Whether a path is that of the current directory. -/
def isHere (path : Bytes) : Action Bool := do
  if path.head? ≠ some 47 then return false
  match ← ask (.examine path true), ← ask (.examine (bytes ".") true) with
  | .ok there, .ok here => return there.number = here.number
  | _, _ => return false

/-- Finds out the path of the current directory. -/
def takePlace : Action Unit := do
  match (← get).value? (bytes "PWD") with
  | some path =>
    if ← isHere path then Builtin.setPlace (some path)
    else Builtin.setPlace (← Builtin.truePlace)
  | none => Builtin.setPlace (← Builtin.truePlace)

/-- Turns switches of letters on or off; tells whether one of them says that the script is an
argument. -/
def takeLetters (on : Bool) : Bytes → List Bytes → Action (Bool × List Bytes)
  | [], rest => return (false, rest)
  | 99 :: letters, rest => do return (true, (← takeLetters on letters rest).2)
  | 108 :: letters, rest => takeLetters on letters rest
  | letter :: letters, rest => do takeLetters on letters (← Builtin.switchLetters on [letter] rest)

/-- Turns on and off the switches that the arguments begin with, in at most so many steps. Tells
whether the script is an argument, and gives the other arguments. -/
def takeOptions : Nat → Bool → List Bytes → Action (Bool × List Bytes)
  | 0, given, rest => return (given, rest)
  | _ + 1, given, [] => return (given, [])
  | bound + 1, given, argument :: rest =>
    match argument with
    | [45] | [45, 45] => return (given, rest)
    | 45 :: letters => do
      let (found, rest) ← takeLetters true letters rest
      takeOptions bound (given || found) rest
    | 43 :: letters => do
      let (found, rest) ← takeLetters false letters rest
      takeOptions bound (given || found) rest
    | _ => return (given, argument :: rest)

/-- How often a script is told how to leave it before it ends with its text. -/
def mostHints : Nat := 50

/-- Runs a script that a descriptor gives. -/
def runFrom (descriptor : Nat) : Action Nat := do
  let feed : Feed := { isFile := true, isScript := true, descriptor := some descriptor }
  let code ← Run.lines mostSteps feed {} .ofFile 0
  if (← get).has .ignoreeof then
    let hint := bytes "\nUse \"exit\" to leave shell.\n"
    (List.range mostHints).forM fun _ => write 2 hint
  return code

/-- Sets the arguments of the script. -/
def setArguments (values : List Bytes) : Action Unit :=
  modify fun shell => { shell with operands := { values } }

/-- Runs the script that the arguments tell of. -/
def work (environment : Environment) (arguments : List Bytes) : Action Nat := do
  let name := (← get).name
  modify fun shell => { shell with name := bytes "sh" }
  takeVariables environment
  takePlace
  modify fun shell => { shell with name }
  let (given, operands) ← takeOptions (arguments.length + 1) false arguments
  discard flush
  if operands.isEmpty then
    if given then fail (bytes "-c requires an argument")
    modify fun shell => { shell with switches := Switch.turn shell.switches .stdin true }
  let shell ← get
  if shell.has .interactive || shell.has .monitor then
    modify fun shell => { shell with switches := Switch.turn shell.switches .monitor true }
    Builtin.refuseControl
  let readsInput := (← get).has .stdin
  if given then
    let rest := operands.drop 1
    modify fun shell => { shell with name := rest.headD shell.name }
    setArguments (rest.drop 1)
    let script := (operands.headD []).takeWhile (· != 0)
    let code ← Run.text mostSteps { last := !readsInput } script
    if readsInput then runFrom 0 else return code
  else if readsInput then
    setArguments operands
    runFrom 0
  else
    let path := operands.headD []
    let descriptor ← Run.openScript path
    modify fun shell => { shell with name := path }
    setArguments (operands.drop 1)
    runFrom descriptor

end Start

/-- The program that runs scripts. -/
def program : Programs.Work := fun invocation => do
  let shell : Shell := { name := invocation.name, number := ← Task.request .identity }
  let work := Start.work invocation.environment invocation.arguments
  toTask (Run.ending Start.mostSteps work) shell

end LineShell.Script
