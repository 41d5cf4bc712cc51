import LineShell.Machine.Step

/-! Service: how the machine answers the interpreter while everything else goes on. -/

namespace LineShell.Machine

/-- The permission bits of files that the interpreter creates. -/
def heldMode : Nat := 0o644

/-- The interpreter opens a file and holds the handle. There is no answer as long as it is alone
with a named pipe. -/
def openHeld (machine : Machine) (path : String) (manner : Manner) :
    Option (Except IoError Handle × Machine) :=
  if Search.holds path '\x00' then some (.error .nulInPath, machine)
  else match machine.openFile machine.directory machine.ownHandle? path manner heldMode with
    | .error number => some (.error (.system number), machine)
    | .ok (handle, opened) =>
      if machine.isLonely handle then none
      else some (.ok handle, { opened with held := handle :: opened.held })

/-- Starts a process for the interpreter. -/
def start (machine : Machine) (command : Command) : Except IoError Nat × Machine :=
  if command.holdsNul then (.error .nulInArgument, machine)
  else match machine.loadNamed command.program command.arguments with
  | .error number => (.error (.system number), machine)
  | .ok behaviour =>
    -- A stream that the command does not name is that of the interpreter.
    let process : Process := {
      handles := [(0, command.stdin.getD machine.stdin), (1, command.stdout.getD machine.stdout),
        (2, command.stderr.getD machine.stderr)]
      directory := machine.directory
      progress := .running behaviour }
    (.ok (machine.processes.length + 1),
      { machine with processes := machine.processes ++ [process] })

/-- The task that waits for a process. -/
def reaperOf? (machine : Machine) (process : Nat) : Option ReaperTask :=
  machine.reapers.find? fun task => task.process = process

/-- The outcome of an operation of the interpreter on one of its standard handles. -/
def withCause {α : Type} (answer : Option (Except Errno α × Machine)) :
    Option (Except IoError α × Machine) :=
  answer.map fun (result, machine) => (result.mapError .system, machine)

/-- Answers a request of the interpreter; there is no answer as long as it has to wait. -/
def answer (machine : Machine) : (call : Call) → Option (call.Reply × Machine)
  | .lookup name => machine.keep (machine.resolver machine.files machine.directory name)
  | .openInput path => machine.openHeld path .reading
  | .openOutput path => machine.openHeld path .replacing
  | .pipe =>
    let (pipe, machine) := machine.addPipe
    some (.ok (.reader pipe, .writer pipe),
      { machine with held := .reader pipe :: .writer pipe :: machine.held })
  | .close handle => some ((), { machine with held := machine.held.erase handle })
  | .spawn command => some (machine.start command)
  | .reap process keeps =>
    -- The handle stays with the interpreter until the task gives it up.
    some ((), { machine with reapers := machine.reapers ++ [{ process, keeps }] })
  | .wait process =>
    match machine.process? process with
    | none => machine.keep (.error (.system .noChild))
    | some state =>
      match state.progress with
      | .running _ | .sleeping .. | .meeting .. => none
      | .reaped => machine.keep (.error (.system .noChild))
      | .ended status =>
        -- A status is given away once.
        some (.ok status, machine.setProcess process { state with progress := .reaped })
  | .join process =>
    match machine.reaperOf? process with
    | none => machine.keep none
    | some task =>
      match task.progress with
      | .finished status => machine.keep status
      | .waiting | .closing _ => none
  | .read limit => withCause (machine.readHandle machine.stdin limit)
  | .write data => withCause (machine.writeHandle machine.stdout data none)
  | .flush => machine.keep (.ok ())
  | .report data =>
    match machine.writeHandle machine.stderr data none with
    | none => none
    | some (_, machine) => some ((), machine)

/-- Whom to let act in one round, the clock excepted. -/
def agents (machine : Machine) : List Agent :=
  (List.range machine.reapers.length).map .reaper ++
    (List.range machine.processes.length).map fun index => .process (index + 1)

/-- The most steps that an agent makes before others act. -/
def turnLength : Nat := 100

/-- Whether an agent is about to become another program. Others act while that is loaded. -/
def loadsProgram (machine : Machine) : Agent → Bool
  | .process number =>
    (machine.process? number).any fun process =>
      (process.progress matches .running (.exec ..) : Bool)
  | _ => false

/-- Lets an agent make so many steps at most, as long as it can; also tells whether it, or one
before it, could. -/
def turn (agent : Agent) : Nat → Machine × Bool → Machine × Bool
  | 0, state => state
  | steps + 1, (machine, moved) =>
    match machine.step agent with
    | none => (machine, moved)
    | some after =>
      if machine.loadsProgram agent then (after, true) else turn agent steps (after, true)

/-- Lets each of some agents act; also tells whether any could. -/
def stepAll (agents : List Agent) (state : Machine × Bool) : Machine × Bool :=
  agents.foldl (fun state agent => turn agent turnLength state) state

/-- One round of everything beside the interpreter. Time passes only when nothing else can
happen; there is no next state when that does not help either. -/
def round (machine : Machine) : Option Machine :=
  match stepAll machine.agents (machine, false) with
  | (machine, true) => some machine
  | (machine, false) => machine.step .clock

/-- What the interpreter is told when it waits for what can never happen. -/
def refuse : (call : Call) → call.Reply
  | .lookup name => .error (.notFound name)
  | .openInput _ => .error (.system .inputOutput)
  | .openOutput _ => .error (.system .inputOutput)
  | .pipe => .error (.system .inputOutput)
  | .spawn _ => .error (.system .inputOutput)
  | .wait _ => .error (.system .noChild)
  | .join _ => none
  | .read _ => .error (.system .inputOutput)
  | .write _ => .error (.system .inputOutput)
  | .flush => .error (.system .inputOutput)
  | .close _ => ()
  | .reap .. => ()
  | .report _ => ()

/-- The number of rounds after which the machine is taken to go on for ever. -/
def mostRounds : Nat := 1000000000000

/-- Answers a request, after as many rounds as it takes. -/
def respondWithin : Nat → (call : Call) → Machine → call.Reply × Machine
  | 0, call, machine => (refuse call, machine)
  | rounds + 1, call, machine =>
    match machine.answer call with
    | some result => result
    | none =>
      match machine.round with
      | none => (refuse call, machine)
      | some machine => respondWithin rounds call machine

/-- The machine as the system around the interpreter: it goes on by itself only while the
interpreter waits. -/
def handler : Handler Machine :=
  respondWithin mostRounds

/-- Lets everything beside the interpreter go on until nothing more happens. -/
def settleWithin : Nat → Machine → Machine
  | 0, machine => machine
  | rounds + 1, machine =>
    match machine.round with
    | none => machine
    | some machine => settleWithin rounds machine

/-- The machine when everything beside the interpreter is over or stuck. -/
def settle (machine : Machine) : Machine :=
  settleWithin mostRounds machine

/-- Everything that can be read from a handle of the interpreter, up to so many blocks. -/
def drainWithin : Nat → Machine → Handle → Bytes → Except Errno Bytes × Machine
  | 0, machine, _, read => (.ok read, machine)
  | blocks + 1, machine, handle, read =>
    match machine.readHandle handle 65536 with
    | none =>
      match machine.round with
      | none => (.ok read, machine)
      | some machine => drainWithin blocks machine handle read
    | some (.error number, machine) => (.error number, machine)
    | some (.ok [], machine) => (.ok read, machine)
    | some (.ok data, machine) => drainWithin blocks machine handle (read ++ data)

/-- Everything that can be read from a handle of the interpreter. -/
def drain (machine : Machine) (handle : Handle) : Except Errno Bytes × Machine :=
  drainWithin mostRounds machine handle []

end LineShell.Machine
