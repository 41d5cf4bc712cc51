import LineShell.Files.Change
import LineShell.Machine.Load

/-! Steps: what one process, one waiting task or the clock does next. -/

namespace LineShell.Machine

/-- The signals that do nothing unless they are asked for. -/
def harmlessSignals : List Nat :=
  [0, 17, 18, 19, 20, 21, 22, 23, 28]

/-- The signal that writing to a pipe without readers brings. -/
def pipeSignal : Nat := 13

/-- The signal that cannot be ignored. -/
def killSignal : Nat := 9

/-- The signals that a process cannot do anything about. -/
def isFinal (signal : Nat) : Bool :=
  signal = 9 || signal = 19

/-- The signal that tells a process of the end of one that it started. -/
def childSignal : Nat := 17

/-- The signal that writing too long a file brings. -/
def sizeSignal : Nat := 25

/-- Lets a process take notice of a signal that it catches. -/
def note (process : Process) (signal : Nat) : Process :=
  if process.pending.contains signal then process
  else { process with pending := process.pending ++ [signal] }

/-- Ends a process, of which the one that started it is told if it wants to know. -/
def conclude (machine : Machine) (number : Nat) (status : WaitStatus) : Machine :=
  let parent := ((machine.process? number).map (·.parent)).getD 0
  -- One that is over already is not ended again.
  let finished := machine.updateProcess number fun process =>
    if process.alive then process.finish status else process
  finished.updateProcess parent fun process =>
    if process.alive && process.disposition childSignal = .caught then note process childSignal
    else process

/-- Sends a signal to a process. -/
def deliver (machine : Machine) (number signal : Nat) : Machine :=
  match machine.process? number with
  | none => machine
  | some process =>
    if !process.alive then machine
    else match if isFinal signal then .usual else process.disposition signal with
      | .ignored => machine
      | .caught => machine.setProcess number (note process signal)
      | .usual =>
        if harmlessSignals.contains signal then machine
        else machine.conclude number (.ofSignal signal)

/-- The lowest number from a least one on that is not among some descriptors. -/
def lowestFree (least : Nat) (taken : List Nat) : Nat :=
  ((List.range (taken.length + 1)).find? fun number =>
    !taken.contains (least + number)).getD 0 + least

/-- The process with one more handle, under the lowest free number from a least one on. -/
def addHandle (process : Process) (handle : Handle) (least : Nat) : Nat × Process :=
  let number := lowestFree least (process.handles.map (·.1))
  (number, { process with handles := process.handles ++ [(number, handle)] })

/-- The process without the handle under a number. -/
def dropHandle (process : Process) (number : Nat) : Process :=
  { process with
    handles := process.handles.filter fun entry => entry.1 ≠ number
    aside := process.aside.filter (· ≠ number) }

/-- An answer that leaves the machine as it is. -/
def keep {α : Type} (machine : Machine) (reply : α) : Option (α × Machine) :=
  some (reply, machine)

/-- An answer that may be an error, which leaves the machine as it is. -/
def attempted (machine : Machine) (result : Except Errno Machine) :
    Option (Except Errno Unit × Machine) :=
  match result with
  | .error number => some (.error number, machine)
  | .ok machine => some (.ok (), machine)

/-- The machine with another tree. -/
def withFiles (machine : Machine) (files : FileSystem) : Machine :=
  { machine with files }

/-- The machine after a change of the tree, along with whom everyone moves who is in a directory
that has moved. -/
def withChange (machine : Machine) (change : FileSystem.Change) : Machine :=
  let relocate := fun place => change.moves.foldl (fun place (source, target) =>
    FileSystem.relocate source target place) place
  { machine with
    files := change.files
    processes := machine.processes.map fun process =>
      { process with directory := relocate process.directory } }

/-- What is known about a file. -/
def factsOf? (machine : Machine) (number : Nat) : Option Facts :=
  (machine.files.file? number).map fun file =>
    { file, number, names := machine.files.nameCount number }

/-- What is known about what a handle reaches; a pipe is no file. -/
def factsBehind? (machine : Machine) : Handle → Option Facts
  | .file opening => (machine.openings[opening]?).bind fun state => machine.factsOf? state.file
  | _ => none

/-- What is known about what a path names. -/
def examine (machine : Machine) (process : Process) (path : Bytes) (follow : Bool) :
    Except Errno Facts := do
  let text ← pathText path
  let (place, file) ← machine.files.locateFile process.directory text follow
  match file.node with
  | .device (.descriptor descriptor) =>
    match process.handle? descriptor with
    | none => .error .noEntry
    | some handle =>
      .ok ((machine.factsBehind? handle).getD { file := { node := .fifo 0o600 }, number := 0 })
  | _ =>
    match (machine.files.number? place).bind machine.factsOf? with
    | some facts => .ok facts
    | none => .error .noEntry

/-- Moves in an open file to a distance from some origin, and gives the new offset. -/
def seek (machine : Machine) (handle : Handle) (origin : Origin) (distance : Int) :
    Except Errno Nat × Machine :=
  match handle with
  | .file number =>
    match machine.openings[number]? with
    | none => (.error .badDescriptor, machine)
    | some opening =>
      let base := match origin with
        | .start => 0
        | .current => opening.offset
        | .ending => machine.files.sizeOf opening.file
      let offset := (base : Int) + distance
      match machine.files.file? opening.file with
      | some { node := .device .terminal, .. } => (.error .illegalSeek, machine)
      | some { node := .device _, .. } => (.ok 0, machine)
      | _ =>
        if offset < 0 then (.error .invalid, machine)
        else (.ok offset.toNat, { machine with
          openings := machine.openings.set number { opening with offset := offset.toNat } })
  | _ => (.error .illegalSeek, machine)

/-- How long a process waits, in microseconds, that lets the others go on first. -/
def pauseLength : Nat := 20

/-- Whether a process waits for an answer that a caught signal cuts short. -/
def interrupts (process : Process) (patient : Bool) : Bool :=
  !patient && !process.pending.isEmpty

/-- Whether a file can be changed that only its owner may change; the reason if not. -/
def ownersOnly (file : File) : Except Errno Unit :=
  if file.own then .ok () else .error .notPermitted

/-- Whether a file can be changed that everyone may change who writes it; the reason if not. -/
def writersOnly (file : File) : Except Errno Unit :=
  if file.own || file.allows .write then .ok () else .error .permission

/-- Answers a request of a process; there is no answer as long as the process has to wait. -/
def serve (machine : Machine) (number : Nat) (process : Process) :
    (request : Request) → Option (request.Reply × Machine)
  | .read descriptor limit =>
    match process.handle? descriptor with
    | none => machine.keep (.error .badDescriptor)
    | some handle => machine.readHandle handle limit
  | .write descriptor data =>
    match process.handle? descriptor with
    | none => machine.keep (.error .badDescriptor)
    | some handle =>
      match machine.writeHandle handle data process.fileLimit with
      | some (.error cause, machine) =>
        some (.error cause,
          if cause = .brokenPipe then machine.deliver number pipeSignal
          else if cause = .fileTooLarge then machine.deliver number sizeSignal
          else machine)
      | answer => answer
  | .seek descriptor origin distance =>
    match process.handle? descriptor with
    | none => machine.keep (.error .badDescriptor)
    | some handle => some (machine.seek handle origin distance)
  | .openFile path manner mode =>
    match pathText path with
    | .error cause => machine.keep (.error cause)
    | .ok text =>
      -- Bits that the process masks are withheld from a new file.
      let mode := mode - (mode &&& process.mask)
      match machine.openFile process.directory process.handle? text manner mode with
      | .error cause => machine.keep (.error cause)
      | .ok (handle, machine) =>
        let (descriptor, process) := addHandle process handle 0
        some (.ok descriptor, machine.setProcess number process)
  | .close descriptor =>
    match process.handle? descriptor with
    | none => machine.keep (.error .badDescriptor)
    | some _ => some (.ok (), machine.setProcess number (dropHandle process descriptor))
  | .duplicate source target =>
    match process.handle? source with
    | none => machine.keep (.error .badDescriptor)
    | some handle =>
      let process := if source = target then process else
        -- What the target was before is closed.
        let dropped := dropHandle process target
        { dropped with handles := dropped.handles ++ [(target, handle)] }
      some (.ok (), machine.setProcess number process)
  | .keepAside source least =>
    match process.handle? source with
    | none => machine.keep (.error .badDescriptor)
    | some handle =>
      let (descriptor, process) := addHandle process handle least
      some (.ok descriptor,
        machine.setProcess number { process with aside := descriptor :: process.aside })
  | .pipe =>
    let (pipe, machine) := machine.addPipe
    let (reader, process) := addHandle process (.reader pipe) 0
    let (writer, process) := addHandle process (.writer pipe) 0
    some (.ok (reader, writer), machine.setProcess number process)
  | .wait child patient =>
    match machine.process? child with
    | none => machine.keep (.error .noChild)
    | some other =>
      -- A process can wait only for those that it has started itself.
      if other.parent ≠ number then machine.keep (.error .noChild)
      else match other.progress with
      | .running _ | .sleeping .. | .meeting .. =>
        if interrupts process patient then machine.keep (.error .interrupted) else none
      | .reaped => machine.keep (.error .noChild)
      | .ended status =>
        some (.ok status, machine.setProcess child { other with progress := .reaped })
  | .peek child =>
    match machine.process? child with
    | some { progress := .ended status, .. } => machine.keep (some status)
    | _ => machine.keep none
  | .signal target signal =>
    match machine.process? target with
    | none => machine.keep (.error .noProcess)
    | some other =>
      match other.progress with
      | .reaped => machine.keep (.error .noProcess)
      | _ => some (.ok (), machine.deliver target signal)
  | .dispose signal disposition =>
    let others := process.dispositions.filter fun entry => entry.1 ≠ signal
    some ((), machine.setProcess number
      { process with dispositions := (signal, disposition) :: others })
  | .collect =>
    some (process.pending, machine.setProcess number { process with pending := [] })
  | .sleep _ | .pause => machine.keep ()
  | .examine path follow => machine.keep (machine.examine process path follow)
  | .inspect descriptor =>
    match process.handle? descriptor with
    | none => machine.keep (.error .badDescriptor)
    | some handle => machine.keep (.ok (machine.factsBehind? handle))
  | .list path =>
    machine.keep do
      let text ← pathText path
      let (place, file) ← machine.files.locateFile process.directory text true
      if !file.node.isDirectory then .error .notDirectory
      else if !file.allows .read then .error .permission
      else pure (machine.files.children place)
  | .enter path =>
    let result := do
      let text ← pathText path
      let (place, file) ← machine.files.locateFile process.directory text true
      if !file.node.isDirectory then .error .notDirectory
      else if !file.allows .execute then .error .permission
      else pure (machine.setProcess number { process with directory := place })
    machine.attempted result
  | .create path node =>
    machine.attempted do
      let text ← pathText path
      let node := node.withMode (node.mode - (node.mode &&& process.mask))
      pure (machine.withFiles
        (← machine.files.create process.directory text node machine.clock))
  | .share source target follow =>
    machine.attempted do
      let source ← pathText source
      let target ← pathText target
      pure (machine.withFiles
        (← machine.files.share process.directory source target follow))
  | .remove path =>
    machine.attempted do
      pure (machine.withChange
        (← machine.files.removeFile process.directory (← pathText path)))
  | .removeDirectory path =>
    machine.attempted do
      pure (machine.withChange
        (← machine.files.removeDirectory process.directory (← pathText path)))
  | .rename source target fresh =>
    machine.attempted do
      let source ← pathText source
      let target ← pathText target
      pure (machine.withChange (← machine.files.rename process.directory source target fresh))
  | .changeMode path mode =>
    machine.attempted do
      let change := fun (file : File) => { file with node := file.node.withMode mode }
      pure (machine.withFiles (← machine.files.alter process.directory (← pathText path) true
        ownersOnly change))
  | .changeTime path time follow =>
    machine.attempted do
      let modified := time.getD machine.clock
      let change := fun (file : File) => { file with modified }
      pure (machine.withFiles (← machine.files.alter process.directory (← pathText path) follow
        (if time.isSome then ownersOnly else writersOnly) change))
  | .mask bits =>
    some (process.mask, machine.setProcess number { process with mask := bits })
  | .fileLimit => machine.keep process.fileLimit
  | .setFileLimit limit =>
    some ((), machine.setProcess number { process with fileLimit := limit })
  | .identity => machine.keep number
  | .parent => machine.keep process.parent
  | .whereabouts =>
    machine.keep
      (if FileSystem.isHidden process.directory then .error .noEntry else .ok process.directory)
  | .time => machine.keep machine.clock

/-- Lets a process go on with a behaviour, unless it is over. -/
def resume (machine : Machine) (number : Nat) (behaviour : Behaviour) : Machine :=
  machine.updateProcess number fun process =>
    if process.alive then { process with progress := .running behaviour } else process

/-- How often the other end of a pipe has been opened. -/
def otherOpenings (machine : Machine) (pipe : Nat) (reading : Bool) : Nat :=
  match machine.pipes[pipe]? with
  | some state => if reading then state.writings else state.readings
  | none => 0

/-- Lets a process go on that has opened something, as soon as it is not alone with it. -/
def resumeOpened (machine : Machine) (number : Nat) (opened : Except Errno Nat)
    (behaviour : Behaviour) : Machine :=
  let handle? := do (← machine.process? number).handle? (← opened.toOption)
  match handle? with
  | none => machine.resume number behaviour
  | some handle =>
    match handle.pipe? with
    | none => machine.resume number behaviour
    | some pipe =>
      -- The process goes on when the other end has been opened once more than now.
      if machine.isLonely handle && machine.fifos.any (fun entry => entry.2 = pipe) then
        let reading := handle.reads pipe
        machine.updateProcess number fun process => { process with
          progress := .meeting pipe reading (machine.otherOpenings pipe reading) behaviour }
      else machine.resume number behaviour

/-- The process as it becomes another program: what was put aside is given up, and signals are
caught no longer. -/
def renew (process : Process) : Process :=
  { process with
    handles := process.handles.filter fun entry => !process.aside.contains entry.1
    aside := []
    pending := []
    dispositions := process.dispositions.filter fun entry => entry.2 ≠ .caught }

/-- The next step of a process, if it can make one. -/
def stepProcess (machine : Machine) (number : Nat) : Option Machine :=
  match machine.process? number with
  | none => none
  | some process =>
    match process.progress with
    | .ended _ | .reaped => none
    | .sleeping wake behaviour =>
      if wake ≤ machine.clock then
        some (machine.setProcess number { process with progress := .running behaviour })
      else none
    | .meeting pipe reading count behaviour =>
      if machine.otherOpenings pipe reading ≠ count then
        some (machine.setProcess number { process with progress := .running behaviour })
      else none
    | .running (.exit code) => some (machine.conclude number (.ofCode code))
    | .running (.ask (.sleep duration) next) =>
      some (machine.setProcess number
        { process with progress := .sleeping (machine.clock + duration) (next ()) })
    | .running (.ask .pause next) =>
      some (machine.setProcess number
        { process with progress := .sleeping (machine.clock + pauseLength) (next ()) })
    | .running (.ask (.openFile path manner mode) next) =>
      match machine.serve number process (.openFile path manner mode) with
      | none => none
      | some (reply, machine) => some (machine.resumeOpened number reply (next reply))
    | .running (.ask request next) =>
      match machine.serve number process request with
      | none => none
      | some (reply, machine) => some (machine.resume number (next reply))
    | .running (.fork child next) =>
      -- Signals that wait for the one who forks do not wait for its copy.
      let copy := { process with progress := .running child, parent := number, pending := [] }
      let started := { machine with processes := machine.processes ++ [copy] }
      some (started.resume number (next started.processes.length))
    | .running (.exec path arguments environment next) =>
      match machine.load process.directory path arguments environment with
      | .error cause => some (machine.resume number (next cause))
      | .ok behaviour => some ((machine.updateProcess number renew).resume number behaviour)

/-- The next step of a task that waits for a process: it takes the status, and then it gives up
its handle. -/
def stepReaper (machine : Machine) (index : Nat) : Option Machine :=
  match machine.reapers[index]? with
  | none => none
  | some task =>
    match task.progress with
    | .finished _ => none
    | .closing status =>
      let held := match task.keeps with
        | none => machine.held
        | some handle => machine.held.erase handle
      let reapers := machine.reapers.set index { task with progress := .finished status }
      some { machine with held, reapers }
    | .waiting =>
      match machine.process? task.process with
      | none =>
        let reapers := machine.reapers.set index { task with progress := .closing none }
        some { machine with reapers }
      | some process =>
        match process.progress with
        | .running _ | .sleeping .. | .meeting .. => none
        | .reaped =>
          -- Someone else has got the status.
          let reapers := machine.reapers.set index { task with progress := .closing none }
          some { machine with reapers }
        | .ended status =>
          let reapers := machine.reapers.set index { task with progress := .closing (some status) }
          some ({ machine with reapers }.setProcess task.process
            { process with progress := .reaped })

/-- The next moment at which a sleeping process wakes. -/
def nextWake? (machine : Machine) : Option Nat :=
  (machine.processes.filterMap fun process =>
    match process.progress with
    | .sleeping wake _ => some wake
    | _ => none).min?

/-- Lets time pass until the next process wakes. -/
def stepClock (machine : Machine) : Option Machine :=
  match machine.nextWake? with
  | none => none
  | some wake => if machine.clock < wake then some { machine with clock := wake } else none

/-- Those that act beside the interpreter. -/
inductive Agent
  | process (number : Nat)
  | reaper (index : Nat)
  | clock
  deriving DecidableEq, Repr, Inhabited

/-- The next step of an agent, if it can make one. -/
def step (machine : Machine) : Agent → Option Machine
  | .process number => machine.stepProcess number
  | .reaper index => machine.stepReaper index
  | .clock => machine.stepClock

end LineShell.Machine
