import LineShell.Script.Builtin.Basic
import LineShell.Script.Lookup

/-! Builtins about signals, and about the processes that run in the background. -/

namespace LineShell.Script.Builtin

open LineShell.Script.Action

/-- The signal that a word stands for by its number or its name; signal zero has a name only if
`least` is zero. -/
def signalOf? (least : Nat) (word : Bytes) : Option Nat :=
  match Programs.number? word with
  | some number => if number ≤ Signal.last then some number else none
  | none => Signal.ofName? least (plain word)

/-- The job that a word stands for. -/
def jobOf (word : Bytes) : Action Job := do
  let jobs := (← get).jobs
  let lost := fun {α : Type} (message : String) => (fail (bytes message) : Action α)
  let name := word.drop 1
  let absent := fun {α : Type} => (fail (bytes "No such job: " ++ word) : Action α)
  if word.head? ≠ some 37 then absent
  else if name.isEmpty || name = [43] || name = [37] then
    match jobs with
    | job :: _ => return job
    | [] => lost "No current job"
  else if name = [45] then
    match jobs with
    | _ :: job :: _ => return job
    | _ => lost "No previous job"
  else match Programs.number? name with
    | some number =>
      match jobs.find? fun job => job.number = number with
      | some job => return job
      | none => absent
    | none =>
      -- Jobs have no names here, in which only nothing is found.
      match if name = [63] then jobs else [] with
      | [] => absent
      | [job] => return job
      | _ => fail (word ++ bytes ": ambiguous")

/-- Sends a signal to what a word stands for, and gives an exit code. -/
def sendSignal (signal : Nat) (word : Bytes) : Action Nat := do
  let sent ← match word with
    | 37 :: _ =>
      -- The processes of a job are no group of their own.
      discard (jobOf word)
      pure (.error Errno.noProcess)
    | 45 :: rest =>
      discard (count rest)
      pure (.error Errno.noProcess)
    | _ => do ask (.signal (← count word) signal)
  match sent with
  | .ok () => return 0
  | .error cause =>
    warn (bytes (cause.text ++ "\n"))
    return 1

/-- The help of the builtin that sends signals. -/
def killUsage : String :=
  "Usage: kill [-s sigspec | -signum | -sigspec] [pid | job]... or\nkill -l [exitstatus]"

/-- Shows the names of all signals, or the one that an exit code stands for. -/
def showSignals (words : List Bytes) : Action Nat := do
  match words with
  | [] =>
    say (bytes "0\n")
    (List.range Signal.last).forM fun index => say (bytes (Signal.name (index + 1) ++ "\n"))
    return 0
  | word :: _ =>
    let number ← count word
    let signal := if number > 128 then number - 128 else number
    if signal = 0 || signal > Signal.last then
      fail (bytes "invalid signal number or exit status: " ++ word)
    say (bytes (Signal.name signal ++ "\n"))
    return 0

/-- The signal that options ask for, the last of them; an earlier one that is none is refused
first. -/
def signalAmong (signal : Option Nat) : List (Char × Bytes) → Action (Option Nat)
  | [] => return signal
  | ('s', name) :: rest => do
    match signalOf? 1 name with
    | none => fail (bytes "invalid signal number or name: " ++ name)
    | some signal => signalAmong (some signal) rest
  | _ :: rest => signalAmong signal rest

/-- Sends a signal, or shows the names of the signals. -/
def kill : Builtin := fun arguments => do
  let first := arguments.headD []
  let given := if first.head? = some 45 then signalOf? 1 (first.drop 1) else none
  let (options, words) ←
    if given.isSome then pure ([], arguments.drop 1)
    else if first.head? = some 45 then options "ls:" arguments
    else pure ([], arguments)
  let lists : Bool := options.any fun entry => entry.1 = 'l'
  let named ← signalAmong given options
  let signal := if lists then named else some (named.getD 15)
  if arguments.isEmpty || (signal.isNone || words.isEmpty) != lists then fail (bytes killUsage)
  match signal, lists with
  | some signal, false =>
    let codes ← words.mapM (sendSignal signal)
    return codes.foldl max 0
  | _, _ => showSignals words

/-- Says what is to be done when a signal comes. -/
def setTrap (signal : Nat) (action : Option Bytes) : Action Unit := do
  let shell ← get
  let disposition : Disposition := match action with
    | none => .usual
    | some command => if command.isEmpty then .ignored else .caught
  if signal ≠ 0 && !shell.immune.contains signal then ask (.dispose signal disposition)
  let others := shell.traps.filter fun entry => entry.1 ≠ signal
  set { shell with traps := action.toList.map (signal, ·) ++ others }

/-- Says what is to be done when some signals come, up to the first word that is none. -/
def setTraps (action : Option Bytes) : List Bytes → Action Nat
  | [] => return 0
  | name :: rest => do
    match signalOf? 0 name with
    | none =>
      write 2 (bytes "trap: " ++ name ++ bytes ": bad trap\n")
      return 1
    | some signal =>
      setTrap signal action
      setTraps action rest

/-- Says what to do when signals come or the script ends, or shows what will be done. -/
def trap : Builtin := fun arguments => do
  match ← operands arguments with
  | [] =>
    let traps := (← get).traps
    (List.range (Signal.last + 1)).forM fun signal =>
      match traps.lookup signal with
      | none => pure ()
      | some command =>
        say (bytes "trap -- " ++ Lookup.quoted command ++ bytes (" " ++ Signal.name signal ++ "\n"))
    return 0
  | first :: rest =>
    let isSignal := (Programs.number? first).any (· ≤ Signal.last)
    if rest.isEmpty || isSignal then setTraps none (first :: rest)
    else setTraps (if first = [45] then none else some first) rest

/-- How the state of a job is shown. -/
def stateText (job : Job) : String :=
  match job.status? with
  | none => "Running"
  | some status =>
    match status.signal? with
    | some signal => String.ofList ((Signal.description signal).toList.take 31)
    | none =>
      match status.code?.getD 0 with
      | 0 => "Done"
      | code => "Done(" ++ Text.decimal code ++ ")"

/-- Which options the list of jobs is shown with. -/
inductive JobView
  | plain
  /-- Only the number of the first process. -/
  | number
  /-- All processes with their numbers. -/
  | full
  deriving DecidableEq, Repr, Inhabited

/-- The columns in front of a command, filled with blanks. -/
def columns (text : String) : String :=
  text ++ String.ofList (List.replicate (max (33 - text.length) 1) ' ')

/-- Shows a job. One that is over is forgotten. -/
def showJob (view : JobView) (job : Job) : Action Unit := do
  let jobs := (← get).jobs
  let isAt := fun (index : Nat) => (jobs[index]?).any fun other => other.number = job.number
  let sign := if isAt 0 then "+" else if isAt 1 then "-" else " "
  let start := "[" ++ Text.decimal job.number ++ "] " ++ sign ++ " "
  let numbers := job.members.map fun member => Text.decimal member.1
  match view with
  | .number => say (bytes (numbers.headD "" ++ "\n"))
  | .plain =>
    let more := String.join ((numbers.drop 1).map fun _ => " | ")
    say (bytes (columns (start ++ stateText job) ++ more ++ "\n"))
  | .full =>
    let indent := String.ofList (List.replicate start.length ' ')
    let more := (numbers.drop 1).map fun number =>
      " |\n" ++ columns (indent ++ number ++ " ")
    let first := columns (start ++ numbers.headD "" ++ " " ++ stateText job)
    say (bytes (first ++ String.join more ++ "\n"))
  if view ≠ .number && job.isDone then
    modify fun shell => { shell with
      jobs := shell.jobs.filter fun other => other.number ≠ job.number }

/-- Shows jobs. -/
def jobs : Builtin := fun arguments => do
  let (options, words) ← options "lp" arguments
  let view := match options.getLast? with
    | some ('l', _) => JobView.full
    | some _ => .number
    | none => .plain
  if words.isEmpty then
    refresh
    (← get).jobs.forM (showJob view)
  else words.forM fun word => do showJob view (← jobOf word)
  return 0

/-- Cannot bring a job to the front or back, as no job is under control. -/
def resume : Builtin := fun arguments => do
  let words ← operands arguments
  let word := words.headD (bytes "%")
  discard (jobOf word)
  let name := match words with
    | [] => bytes "(null)"
    | word :: _ => word
  fail (bytes "job " ++ name ++ bytes " not created under job control")

/-- Waits for a process, and tells whether no signal has cut that short. -/
def waitFor (shown : Bool) (process : Nat) : Action Bool := do
  match ← ask (.wait process false) with
  | .error cause => return cause ≠ .interrupted
  | .ok status =>
    if shown then discard (codeOf status true)
    modify fun shell => { shell with jobs := shell.jobs.map fun job => { job with
      members := job.members.map fun member =>
        if member.1 = process then (process, some status) else member } }
    return true

/-- Waits for processes one after the other, as long as no signal cuts that short. -/
def waitForAll (shown : Bool) : List Nat → Action Bool
  | [] => return true
  | process :: rest => do
    if ← waitFor shown process then waitForAll shown rest else return false

/-- The exit code of a wait that a signal has cut short. -/
def interruption : Action Nat := do
  let signals ← ask .collect
  modify fun shell => { shell with arrived := shell.arrived ++ signals }
  return 128 + ((← get).arrived.getLastD 0)

/-- The processes of a job that are not over as far as is known. -/
def unknownMembers (job : Job) : List Nat :=
  job.members.filterMap fun member => if member.2.isNone then some member.1 else none

/-- Waits for what words stand for. The exit code is the one before as long as a word stands for
nothing. -/
def waitForWords : Nat → List Bytes → Action Nat
  | code, [] => return code
  | code, word :: rest => do
    let job? ← if word.head? = some 37 then some <$> jobOf word
      else do pure ((← get).jobOf? (← count word))
    match job? with
    | none => waitForWords code rest
    | some job =>
      if !(← waitForAll true (unknownMembers job)) then interruption
      else
        let found := ((← get).jobs.find? fun other => other.number = job.number).getD job
        let status := found.status?.getD (.ofCode 0)
        modify fun shell => shell.setJob { found with waited := true }
        waitForWords (← codeOf status false) rest

/-- Waits for processes in the background. -/
def wait : Builtin := fun arguments => do
  let words ← operands arguments
  if !words.isEmpty then waitForWords 127 words
  else
    let processes := (← get).jobs.flatMap unknownMembers
    if !(← waitForAll false processes) then interruption
    else
      modify fun shell => { shell with
        jobs := shell.jobs.map fun job => { job with waited := true } }
      return 0

end LineShell.Script.Builtin
