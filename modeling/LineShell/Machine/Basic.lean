import LineShell.Flow
import LineShell.Machine.Behaviour
import LineShell.Search

/-! The machine: files, pipes and processes, with the handles by which they are reached. -/

namespace LineShell

/-- An open file: all who share it share its offset. -/
structure Opening where
  /-- The number of the file. -/
  file : Nat
  offset : Nat := 0
  readable : Bool := false
  writable : Bool := false
  /-- Always writes at the end of the file. -/
  appending : Bool := false
  deriving DecidableEq, Repr, Inhabited

/-- A pipe: the bytes that are on their way, and how often its ends have been opened by name. -/
structure Pipe where
  content : Bytes := []
  readings : Nat := 0
  writings : Nat := 0
  deriving DecidableEq, Repr, Inhabited

/-- How far a process has come. -/
inductive Progress
  | running (behaviour : Behaviour)
  | sleeping (wake : Nat) (behaviour : Behaviour)
  /-- Has opened one end of a named pipe, and waits until the other end, which had been opened so
  many times, is opened again. -/
  | meeting (pipe : Nat) (reading : Bool) (count : Nat) (behaviour : Behaviour)
  /-- Over, but its status has not been asked for. -/
  | ended (status : WaitStatus)
  /-- Over, and its status has been given away. -/
  | reaped
  deriving Inhabited

/-- A process. -/
structure Process where
  handles : List (Nat × Handle)
  /-- The descriptors that are given up when the process becomes another program. -/
  aside : List Nat := []
  directory : Location
  /-- What the process does about signals, as far as that is not the usual thing. -/
  dispositions : List (Nat × Disposition) := []
  /-- The signals that have been caught and not yet taken notice of. -/
  pending : List Nat := []
  /-- The permission bits that new files do not get. -/
  mask : Nat := 0
  /-- How long a file may become that the process writes. -/
  fileLimit : Option Nat := none
  /-- The process that started this one. -/
  parent : Nat := 0
  progress : Progress
  deriving Inhabited

namespace Process

/-- What a descriptor of the process reaches. -/
def handle? (process : Process) (descriptor : Nat) : Option Handle :=
  process.handles.lookup descriptor

/-- Whether the process is not over. -/
def alive (process : Process) : Bool :=
  match process.progress with
  | .running _ | .sleeping .. | .meeting .. => true
  | .ended _ | .reaped => false

/-- What the process does about a signal. -/
def disposition (process : Process) (signal : Nat) : Disposition :=
  (process.dispositions.lookup signal).getD .usual

/-- The process with a status instead of anything left to do; it loses its handles. -/
def finish (process : Process) (status : WaitStatus) : Process :=
  { process with handles := [], aside := [], progress := .ended status }

end Process

/-- How far a task that waits for a process has come. -/
inductive ReaperProgress
  | waiting
  /-- The status is known, and the handle is still held. -/
  | closing (status : Option WaitStatus)
  | finished (status : Option WaitStatus)
  deriving DecidableEq, Repr, Inhabited

/-- A task of the interpreter that waits for a process and then gives up a handle. -/
structure ReaperTask where
  process : Nat
  keeps : Option Handle
  progress : ReaperProgress := .waiting
  deriving DecidableEq, Repr, Inhabited

/-- The whole machine, seen from the interpreter. -/
structure Machine where
  files : FileSystem
  /-- The current directory of the interpreter. -/
  directory : Location
  environment : List (String × String)
  resolver : Resolver
  /-- What a file does that is not a script. -/
  image : Bytes → Option Program
  openings : List Opening := []
  pipes : List Pipe := []
  /-- The pipes of the named pipes, by the numbers of their files. -/
  fifos : List (Nat × Nat) := []
  /-- The processes, the first one being number one. -/
  processes : List Process := []
  /-- The handles of the interpreter beside its three standard ones. -/
  held : List Handle := []
  stdin : Handle := .file 0
  stdout : Handle := .file 1
  stderr : Handle := .file 2
  reapers : List ReaperTask := []
  /-- The time that has passed, in microseconds. -/
  clock : Nat := 0

namespace Machine

/-- The most bytes that can be on their way through a pipe. -/
def pipeCapacity : Nat := 65536

/-- The most bytes that are never torn apart when they are written to a pipe. -/
def pipeAtom : Nat := 4096

/-- The process of a number. -/
def process? (machine : Machine) : Nat → Option Process
  | 0 => none
  | number + 1 => machine.processes[number]?

/-- The machine with another process under a number. -/
def setProcess (machine : Machine) (number : Nat) (process : Process) : Machine :=
  { machine with processes := machine.processes.set (number - 1) process }

/-- Changes the process of a number. -/
def updateProcess (machine : Machine) (number : Nat) (change : Process → Process) : Machine :=
  match machine.process? number with
  | none => machine
  | some process => machine.setProcess number (change process)

/-- The machine with one more open file, and the handle that reaches it. -/
def addOpening (machine : Machine) (opening : Opening) : Handle × Machine :=
  (.file machine.openings.length, { machine with openings := machine.openings ++ [opening] })

/-- The machine with one more pipe, and the number of the pipe. -/
def addPipe (machine : Machine) : Nat × Machine :=
  (machine.pipes.length, { machine with pipes := machine.pipes ++ [{}] })

/-- Changes a pipe. -/
def updatePipe (machine : Machine) (number : Nat) (change : Pipe → Pipe) : Machine :=
  { machine with pipes := machine.pipes.modify number change }

/-- Whether the interpreter or a process has a handle of a kind. -/
def anyHandle (machine : Machine) (kind : Handle → Bool) : Bool :=
  kind machine.stdin || kind machine.stdout || kind machine.stderr ||
    machine.held.any kind || machine.processes.any fun process =>
      process.handles.any fun entry => kind entry.2

/-- Whether somebody can read a pipe. -/
def hasReader (machine : Machine) (pipe : Nat) : Bool :=
  machine.anyHandle (·.reads pipe)

/-- Whether somebody can write a pipe. -/
def hasWriter (machine : Machine) (pipe : Nat) : Bool :=
  machine.anyHandle (·.writes pipe)

/-- Whether a file is open for writing. -/
def isWritten (machine : Machine) (number : Nat) : Bool :=
  machine.anyHandle fun
    | .file opening =>
      match machine.openings[opening]? with
      | some state => state.writable && state.file = number
      | none => false
    | _ => false

/-- The pipe behind a named pipe. It is empty if nobody has it open. -/
def pipeOf (machine : Machine) (number : Nat) : Nat × Machine :=
  match machine.fifos.lookup number with
  | some pipe =>
    if machine.hasReader pipe || machine.hasWriter pipe then (pipe, machine)
    else (pipe, machine.updatePipe pipe fun state => { state with content := [] })
  | none =>
    let (pipe, machine) := machine.addPipe
    (pipe, { machine with fifos := (number, pipe) :: machine.fifos })

/-- Opens the ends of a pipe that somebody wants. -/
def openPipe (machine : Machine) (pipe : Nat) (manner : Manner) : Handle × Machine :=
  let opened := machine.updatePipe pipe fun state => { state with
    readings := state.readings + if manner.reads then 1 else 0
    writings := state.writings + if manner.writes then 1 else 0 }
  let handle : Handle := if !manner.writes then .reader pipe
    else if manner.reads then .both pipe else .writer pipe
  (handle, opened)

/-- Whether a handle is the end of a pipe whose other end nobody has. -/
def isLonely (machine : Machine) : Handle → Bool
  | .reader pipe => !machine.hasWriter pipe
  | .writer pipe => !machine.hasReader pipe
  | .file _ | .both _ => false

/-- What a descriptor of the interpreter reaches. -/
def ownHandle? (machine : Machine) : Nat → Option Handle
  | 0 => some machine.stdin
  | 1 => some machine.stdout
  | 2 => some machine.stderr
  | _ => none

/-- Opens once more what a handle reaches. -/
def reopen (machine : Machine) (handle : Handle) (manner : Manner) :
    Except Errno (Handle × Machine) :=
  match handle with
  | .file opening =>
    match machine.openings[opening]? with
    | none => .error .noEntry
    | some state =>
      match machine.files.file? state.file with
      | none => .error .noEntry
      | some file => do
        let files ← machine.files.openExisting state.file file manner machine.clock
        pure ({ machine with files }.addOpening {
          file := state.file
          readable := manner.reads
          writable := manner.writes
          appending := manner.appends })
  | .reader pipe | .writer pipe | .both pipe => pure (machine.openPipe pipe manner)

/-- Opens a path for somebody with a current directory and some descriptors. -/
def openFile (machine : Machine) (directory : Location) (handle? : Nat → Option Handle)
    (path : String) (manner : Manner) (mode : Nat) : Except Errno (Handle × Machine) := do
  let (number, files) ← machine.files.openPath directory path manner mode machine.clock
  match files.file? number with
  | some { node := .fifo _, .. } =>
    let (pipe, machine) := machine.pipeOf number
    pure (machine.openPipe pipe manner)
  | some { node := .device (.descriptor descriptor), .. } =>
    match handle? descriptor with
    | none => .error .noEntry
    | some handle => machine.reopen handle manner
  | _ =>
    pure ({ machine with files }.addOpening {
      file := number
      readable := manner.reads
      writable := manner.writes
      appending := manner.appends })

/-- Reads from a handle. There is no answer as long as a pipe is empty and can still be written. -/
def readHandle (machine : Machine) (handle : Handle) (limit : Nat) :
    Option (Except Errno Bytes × Machine) :=
  match handle with
  | .file number =>
    match machine.openings[number]? with
    | none => some (.error .badDescriptor, machine)
    | some opening =>
      if !opening.readable then some (.error .badDescriptor, machine)
      else match machine.files.readAt opening.file opening.offset limit with
        | .error number => some (.error number, machine)
        | .ok data =>
          let opening := { opening with offset := opening.offset + data.length }
          some (.ok data, { machine with openings := machine.openings.set number opening })
  | .reader number | .both number =>
    match machine.pipes[number]? with
    | none => some (.error .badDescriptor, machine)
    | some pipe =>
      match pipe.content with
      | [] => if machine.hasWriter number then none else some (.ok [], machine)
      | data =>
        some (.ok (data.take limit),
          { machine with pipes := machine.pipes.set number { pipe with
            content := data.drop limit } })
  | .writer _ => some (.error .badDescriptor, machine)

/-- How much of some bytes may be written at an offset. -/
def allowance (limit : Option Nat) (offset : Nat) (data : Bytes) : Except Errno Bytes :=
  match limit with
  | none => .ok data
  | some limit =>
    if data.isEmpty then .ok data
    else if offset < limit then .ok (data.take (limit - offset))
    else .error .fileTooLarge

/-- Writes to an open file, as long as the file does not become too long. -/
def writeFile (machine : Machine) (number : Nat) (opening : Opening) (data : Bytes)
    (limit : Option Nat) : Except Errno Nat × Machine :=
  let offset := if opening.appending then none else some opening.offset
  let isRegular := match machine.files.file? opening.file with
    | some { node := .regular .., .. } => true
    | _ => false
  let limit := if isRegular then limit else none
  match allowance limit (offset.getD (machine.files.sizeOf opening.file)) data with
  | .error cause => (.error cause, machine)
  | .ok data =>
    if data.isEmpty then (.ok 0, machine)
    else match machine.files.writeAt opening.file offset data machine.clock with
      | .error cause => (.error cause, machine)
      | .ok (offset, files) =>
        let openings := machine.openings.set number { opening with offset }
        (.ok data.length, { machine with files, openings })

/-- Writes to a handle. There is no answer as long as a pipe is full and can still be read. -/
def writeHandle (machine : Machine) (handle : Handle) (data : Bytes) (limit : Option Nat) :
    Option (Except Errno Nat × Machine) :=
  match handle with
  | .file number =>
    match machine.openings[number]? with
    | none => some (.error .badDescriptor, machine)
    | some opening =>
      if !opening.writable then some (.error .badDescriptor, machine)
      else some (machine.writeFile number opening data limit)
  | .writer number | .both number =>
    match machine.pipes[number]? with
    | none => some (.error .badDescriptor, machine)
    | some pipe =>
      let room := pipeCapacity - pipe.content.length
      if !machine.hasReader number then some (.error .brokenPipe, machine)
      else if data.isEmpty then some (.ok 0, machine)
      else if room = 0 || (data.length ≤ pipeAtom && room < data.length) then none
      else
        let taken := data.take room
        some (.ok taken.length,
          { machine with pipes := machine.pipes.set number { pipe with
            content := pipe.content ++ taken } })
  | .reader _ => some (.error .badDescriptor, machine)

end Machine

end LineShell
