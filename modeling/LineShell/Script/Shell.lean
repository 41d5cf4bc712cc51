import LineShell.Script.Sentence
import LineShell.Script.Switch
import LineShell.Script.Variable
import LineShell.System.Signal

/-! The state of a process that runs a script, and the actions that change it. -/

namespace LineShell.Script

/-- A function of a script. -/
structure Function where
  body : Command
  deriving Inhabited

/-- A program whose place in the search path is known. -/
structure Tracked where
  index : Nat
  /-- The directory has changed since. -/
  stale : Bool := false
  deriving DecidableEq, Repr, Inhabited

/-- A process of a job, and how it has ended once that is known. -/
abbrev Job.Member := Nat × Option WaitStatus

/-- Processes that were started together in the background. -/
structure Job where
  number : Nat
  members : List Job.Member
  /-- Somebody has waited for the job. -/
  waited : Bool := false
  deriving DecidableEq, Repr, Inhabited

namespace Job

/-- Whether all the processes are over as far as is known. -/
def isDone (job : Job) : Bool :=
  job.members.all fun member => member.2.isSome

/-- How the last of the processes has ended, if all of them have. -/
def status? (job : Job) : Option WaitStatus :=
  if job.isDone then job.members.getLast?.bind (·.2) else none

end Job

/-- Which commands are left out. -/
inductive Skip
  | none
  /-- Those up to the end of so many loops. -/
  | leave (loops : Nat)
  /-- Those up to the next round of the last of so many loops. -/
  | again (loops : Nat)
  /-- Those up to the end of a function or a file; the status has been set if `given`. -/
  | back (given : Bool)
  deriving DecidableEq, Repr, Inhabited

/-- What is brought back at the end of a function or a command. -/
inductive Local
  | variable_ (name : Bytes) (before : Option Variable)
  | switches (before : List Switch)
  deriving DecidableEq, Repr, Inhabited

/-- The arguments of a script or a function, and how far their options have been read. -/
structure Operands where
  values : List Bytes := []
  /-- The number of the argument to be looked at next, if that is known. -/
  index : Option Nat := some 1
  /-- How many bytes of the argument before that one have been read. -/
  offset : Option Nat := none
  deriving DecidableEq, Repr, Inhabited

/-- All that a running script knows. -/
structure Shell where
  /-- The name it was started with. -/
  name : Bytes
  operands : Operands := {}
  assigned : Table Variable := []
  functions : Table Function := []
  aliases : Table Bytes := []
  tracked : Table Tracked := []
  switches : List Switch := []
  /-- The texts that commands read from the script. -/
  documents : List (Nat × Document) := []
  nextDocument : Nat := 0
  /-- The exit code of the last command. -/
  status : Nat := 0
  /-- The exit code of the last command whose output has become part of a word. -/
  outputStatus : Nat := 0
  /-- The exit code that the script ends with, if that has been said. -/
  lastStatus : Option Nat := none
  /-- The line of the command that runs. -/
  line : Nat := 0
  /-- The line up to which what is read now has been read. -/
  lineRead : Nat := 1
  /-- The line up to which the file of the script has been read. -/
  lineOfFile : Nat := 1
  /-- The builtin or the file that a message is about. -/
  context : Option Bytes := none
  /-- The number of the first process of the script. -/
  number : Nat := 0
  /-- The process started last in the background. -/
  latest : Option Nat := none
  /-- The jobs, the latest one first. -/
  jobs : List Job := []
  /-- The commands to run when signals come; signal zero is the end of the script. A signal
  with an empty command is ignored. -/
  traps : List (Nat × Bytes) := []
  /-- The signals that have come and whose commands have not run yet. -/
  arrived : List Nat := []
  /-- The signals that stay ignored whatever is said about them. -/
  immune : List Nat := []
  skip : Skip := .none
  /-- How many loops are running. -/
  loops : Nat := 0
  /-- What is to be brought back, for each function or command that runs. -/
  locals : List (List Local) := []
  /-- What descriptors have reached, for each command whose redirections are in force: where that
  is kept, unless it was nothing. -/
  frames : List (List (Nat × Option Nat)) := []
  /-- The path of the current directory, as far as it is known. -/
  place : Option Bytes := none
  /-- What a builtin has written. -/
  written : Bytes := []
  /-- The descriptor that commands are shown on before they run. -/
  traceTarget : Nat := 2
  /-- What is shown before such a command is being expanded. -/
  tracing : Bool := false
  deriving Inhabited

/-- How a script is left before its end. -/
inductive Ending
  /-- Something is wrong. -/
  | fault
  /-- Nothing is left to do. -/
  | over
  /-- The script wants to end. -/
  | exit
  deriving DecidableEq, Repr, Inhabited

/-- A part of the run of a script. -/
abbrev Action := ExceptT Ending (StateT Shell Task)

namespace Shell

/-- Whether a switch is on. -/
def has (shell : Shell) (switch : Switch) : Bool :=
  shell.switches.contains switch

/-- The value of a variable. -/
def value? (shell : Shell) (name : Bytes) : Option Bytes :=
  (shell.assigned.find? name).bind (·.value)

/-- The bytes that separate words. -/
def separators (shell : Shell) : Option Bytes :=
  shell.value? (bytes "IFS")

/-- Where programs are looked for. -/
def searchPath (shell : Shell) : Bytes :=
  (shell.value? (bytes "PATH")).getD []

/-- The variables that programs are started with. -/
def environment (shell : Shell) : Environment :=
  environmentOf shell.assigned

/-- Whether there are commands to run at the end or when signals come. -/
def hasTraps (shell : Shell) : Bool :=
  shell.traps.any fun entry => !entry.2.isEmpty

/-- The shell with a line of a command. -/
def atLine (shell : Shell) (line : Nat) : Shell :=
  { shell with line }

/-- The job that a process is the last one of. -/
def jobOf? (shell : Shell) (process : Nat) : Option Job :=
  shell.jobs.find? fun job => (job.members.getLast?.map (·.1)) = some process

/-- The shell with another state of a job. -/
def setJob (shell : Shell) (job : Job) : Shell :=
  { shell with jobs := shell.jobs.map fun other => if other.number = job.number then job else other }

/-- The shell with a new job. A job that is over and that somebody has waited for gives its place
to another one. -/
def addJob (shell : Shell) (processes : List Nat) : Shell :=
  let isFree := fun number => shell.jobs.all fun job =>
    job.number ≠ number || (job.isDone && job.waited)
  let number := ((List.range (shell.jobs.length + 1)).find? fun index => isFree (index + 1)).getD
    shell.jobs.length + 1
  let others := shell.jobs.filter fun job => job.number ≠ number
  { shell with jobs := { number, members := processes.map (·, none) } :: others }

/-- The shell with the place of a job freed for a moment, as every command that is waited for takes
one. -/
def passJob (shell : Shell) : Shell :=
  let taken := shell.addJob []
  { shell with jobs := taken.jobs.drop 1 }

end Shell

namespace Action

variable {α : Type}

/-- Carries out a task of the process. -/
def ofTask (task : Task α) : Action α :=
  ExceptT.lift (StateT.lift task)

/-- Asks the system for something. -/
def ask (request : Request) : Action request.Reply :=
  ofTask (Task.request request)

/-- Writes to a descriptor, as far as that is possible. -/
def write (descriptor : Nat) (data : Bytes) : Action Unit :=
  discard (ofTask (Task.writeAll descriptor data))

/-- Adds to what a builtin writes. -/
def say (data : Bytes) : Action Unit :=
  modify fun shell => { shell with written := shell.written ++ data }

/-- Writes what a builtin has said. Tells whether that was possible. -/
def flush : Action Bool := do
  let data := (← get).written
  modify fun shell => { shell with written := [] }
  match ← ofTask (Task.writeAll 1 data) with
  | .ok () => return true
  | .error _ => return false

/-- Shows a message. -/
def warn (message : Bytes) : Action Unit := do
  let shell ← get
  let place := shell.name ++ bytes (": " ++ Text.decimal shell.line ++ ": ")
  let context := match shell.context with
    | some name => name ++ bytes ": "
    | none => []
  write 2 (place ++ context ++ message ++ [10])

/-- Shows a message and ends what has failed. -/
def fail (message : Bytes) : Action α := do
  modify fun shell => { shell with status := 2 }
  warn message
  discard flush
  throw .fault

/-- An action whose ending becomes a result. -/
def attempt (action : Action α) : Action (Except Ending α) :=
  ExceptT.mk fun shell next => action shell fun (result, shell) => next (.ok result, shell)

/-- Ends as another action has ended. -/
def resume (result : Except Ending α) : Action α :=
  MonadExcept.ofExcept result

/-- Sets the exit code of the last command. -/
def setStatus (status : Nat) : Action Unit :=
  modify fun shell => { shell with status }

/-- Makes a descriptor reach what another one reaches, which is given up. -/
def move (source target : Nat) : Action Unit := do
  if source ≠ target then
    discard (ask (.duplicate source target))
    discard (ask (.close source))

/-- The whole number that an argument of a builtin stands for; there is nothing if it stands for
none or for one that is too large. -/
def countOf? (argument : Bytes) : Option Nat :=
  let isSpace := fun (byte : UInt8) => byte == 32 || (9 ≤ byte && byte ≤ 13)
  let unsigned := match argument.dropWhile isSpace with
    | 43 :: rest => rest
    | 45 :: rest => if rest.all fun byte => byte == 48 then rest else []
    | rest => rest
  let digits := (unsigned.reverse.dropWhile isSpace).reverse
  (Programs.number? digits).filter (· < 2147483648)

/-- The whole number that an argument of a builtin stands for. -/
def count (argument : Bytes) : Action Nat := do
  match countOf? argument with
  | some number => return number
  | none => fail (bytes "Illegal number: " ++ argument)

/-- Does what a variable brings about when it changes. -/
def notice (name : Bytes) (value : Option Bytes) : Action Unit := do
  if name = bytes "PATH" then modify fun shell => { shell with tracked := [] }
  else if name = bytes "OPTIND" then
    let index ← match value with
      | some value => count value
      | none => pure 1
    modify fun shell => { shell with
      operands := { shell.operands with index := some (max index 1), offset := none } }

/-- Stores a variable under a name. Nothing is changed if it is fixed. -/
def store (name : Bytes) (change : Variable → Variable) : Action Unit := do
  let shell ← get
  let old := (shell.assigned.find? name).getD {}
  if old.fixed then fail (name ++ bytes ": is read only")
  let entry := change old
  let entry := if shell.has .allexport then { entry with exported := true } else entry
  notice name entry.value
  modify fun shell => { shell with assigned := shell.assigned.put name entry }

/-- Fails if a name is none that a variable can have. -/
def checkName (name : Bytes) : Action Unit := do
  if !isName name then
    fail (name.takeWhile (· != 61) ++ bytes ": bad variable name")

/-- Gives a variable a value. Its name may have an equals sign behind it. -/
def assign (text value : Bytes) : Action Unit := do
  let name := text.takeWhile (· != 61)
  checkName name
  store name fun entry => { entry with value := some value }

/-- Forgets a variable, whose name may have an equals sign behind it. -/
def forget (text : Bytes) : Action Unit := do
  let name := text.takeWhile (· != 61)
  checkName name
  match (← get).assigned.find? name with
  | none => notice name none
  | some entry =>
    if entry.fixed then fail (name ++ bytes ": is read only")
    notice name none
    modify fun shell => { shell with
      assigned :=
        if entry.lasting then shell.assigned.put name { entry with value := none }
        else shell.assigned.drop name }

/-- Brings a variable back as it was. What had no value is forgotten, which fails for a name that
no variable can have. -/
def restore (name : Bytes) (before : Option Variable) : Action Unit := do
  match before with
  | some entry =>
    notice name entry.value
    modify fun shell => { shell with assigned := shell.assigned.put name entry }
  | none =>
    checkName name
    notice name none
    modify fun shell => { shell with assigned := shell.assigned.drop name }

/-- Remembers something that is to be brought back. -/
def remember (entry : Local) : Action Unit :=
  modify fun shell =>
    match shell.locals with
    | frame :: frames => { shell with locals := (entry :: frame) :: frames }
    | [] => shell

/-- Makes a variable one that is brought back, and gives it the value behind its name. -/
def makeLocal (text : Bytes) (exported : Bool) : Action Unit := do
  if text = bytes "-" then remember (.switches (← get).switches)
  else
    let (name, value) := splitAssignment text
    let before := (← get).assigned.find? name
    match before, value with
    | some entry, some value =>
      if entry.fixed then fail (name ++ bytes ": is read only")
      modify fun shell => { shell with
        assigned := shell.assigned.put name { entry with lasting := true } }
      store name fun entry =>
        { entry with value := some value, exported := entry.exported || exported }
    | some entry, none =>
      modify fun shell => { shell with
        assigned := shell.assigned.put name { entry with lasting := true } }
    | none, some value =>
      store name fun _ => { value := some value, exported, lasting := true }
    | none, none =>
      checkName name
      store name fun _ => { exported, lasting := true }
    remember (.variable_ name before)

/-- Brings back what has been made local, but for the commands up to a number. -/
def unwindLocals (depth : Nat) : Action Unit := do
  let shell ← get
  let count := shell.locals.length - depth
  modify fun shell => { shell with locals := shell.locals.drop count }
  (shell.locals.take count).forM fun frame => frame.forM fun
    | .variable_ name before => restore name before
    | .switches before => modify fun shell => { shell with switches := before }

/-- Ends the redirections of the last command, which may stay in force. -/
def popFrame (stays : Bool) : Action Unit := do
  let frame := (← get).frames.headD []
  modify fun shell => { shell with frames := shell.frames.drop 1 }
  frame.forM fun (descriptor, kept) => do
    match kept with
    | none => if !stays then discard (ask (.close descriptor))
    | some kept =>
      if !stays then discard (ask (.duplicate kept descriptor))
      discard (ask (.close kept))

/-- Ends the redirections of all commands but for those up to a number. -/
def unwindFrames (depth : Nat) : Action Unit := do
  let count := (← get).frames.length - depth
  (List.range count).forM fun _ => popFrame false

/-- Shows by what signal a process was ended, and gives the exit code that stands for its
status. -/
def codeOf (status : WaitStatus) (shown : Bool) : Action Nat := do
  match status.signal? with
  | none => return status.code?.getD 0
  | some signal =>
    if shown && signal ≠ 2 && signal ≠ 13 then
      write 2 ((bytes (Signal.description signal)).take 32 ++ [10])
    return 128 + signal

/-- The job with what is known by now about its processes. -/
def refreshJob (job : Job) : Action Job := do
  let members ← job.members.mapM fun (process, status) => do
    match status with
    | some status => return (process, some status)
    | none => return (process, ← ask (.peek process))
  return { job with members }

/-- Takes notice of the processes in the background that are over. -/
def refresh : Action Unit := do
  if (← get).jobs.any fun job => !job.isDone then
    let jobs ← (← get).jobs.mapM refreshJob
    modify fun shell => { shell with jobs }

/-- Waits for processes, and gives the exit code of the last one. -/
def await (processes : List Nat) : Action Nat := do
  modify Shell.passJob
  let codes ← processes.mapM fun process => do
    match ← ask (.wait process true) with
    | .ok status => codeOf status true
    | .error _ => return 127
  refresh
  return codes.getLastD 0

/-- The task that carries out an action to its end; its exit code is the one that was reached. -/
def toTask (action : Action Unit) (shell : Shell) : Task UInt8 := fun next =>
  action shell fun (_, shell) => next (UInt8.ofNat shell.status)

/-- Starts a copy of the process for an action, and gives its number. The copy knows no commands
for signals and waits for no job. -/
def fork (action : Action Unit) : Action Nat :=
  ExceptT.mk fun shell next =>
    let (caught, ignored) := shell.traps.partition fun entry => !entry.2.isEmpty
    let copy := { shell with
      traps := ignored, jobs := [], arrived := [], written := [], frames := [], skip := .none
      loops := 0, lineRead := shell.lineOfFile }
    let reset := caught.forM fun entry =>
      if entry.1 = 0 then pure () else ask (.dispose entry.1 .usual)
    Task.fork (toTask (do reset; action) copy) fun process => next (.ok process, shell)

end Action

end LineShell.Script
