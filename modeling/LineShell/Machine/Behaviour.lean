import LineShell.Files.Open
import LineShell.System.WaitStatus

/-! Behaviours: what a process does, as one request to the system after another. -/

namespace LineShell

/-- The variables a program is started with. -/
abbrev Environment := List (Bytes × Bytes)

/-- What a process does about a signal. -/
inductive Disposition
  /-- What the system has foreseen for the signal. -/
  | usual
  | ignored
  /-- The process takes notice of the signal and goes on. -/
  | caught
  deriving DecidableEq, Repr, Inhabited

/-- Where a distance in an open file is counted from. -/
inductive Origin
  | start
  | current
  | ending
  deriving DecidableEq, Repr, Inhabited

/-- What the system tells about a file. -/
structure Facts where
  file : File
  number : Nat
  /-- How many names the file has. -/
  names : Nat := 1
  deriving DecidableEq, Repr, Inhabited

/-- A request of a process to the system. -/
inductive Request
  | read (descriptor limit : Nat)
  | write (descriptor : Nat) (data : Bytes)
  /-- Moves in an open file, and gives the new offset. -/
  | seek (descriptor : Nat) (origin : Origin) (distance : Int)
  /-- Opens a path; a file that is created gets the given permission bits. -/
  | openFile (path : Bytes) (manner : Manner) (mode : Nat)
  | close (descriptor : Nat)
  /-- Makes one descriptor reach what another reaches. -/
  | duplicate (source target : Nat)
  /-- Makes the lowest free descriptor that is not below another number reach what a descriptor
  reaches, for as long as the process runs the same program. -/
  | keepAside (source least : Nat)
  | pipe
  /-- Waits for a process and gives its status. A wait that is not patient ends when a signal
  comes. -/
  | wait (process : Nat) (patient : Bool)
  /-- The status of a process, if it is over. -/
  | peek (process : Nat)
  | signal (process number : Nat)
  | dispose (number : Nat) (disposition : Disposition)
  /-- Takes the signals that have been caught. -/
  | collect
  /-- Does nothing for so many microseconds. -/
  | sleep (duration : Nat)
  /-- Lets the others go on first. -/
  | pause
  | examine (path : Bytes) (follow : Bool)
  /-- What a descriptor reaches; a pipe is no file. -/
  | inspect (descriptor : Nat)
  | list (path : Bytes)
  | enter (path : Bytes)
  /-- Creates a directory, a named pipe or a link. -/
  | create (path : Bytes) (node : Node)
  /-- Gives a file another name. -/
  | share (source target : Bytes) (follow : Bool)
  | remove (path : Bytes)
  | removeDirectory (path : Bytes)
  /-- Gives a file another name; one that is `fresh` must not be there yet. -/
  | rename (source target : Bytes) (fresh : Bool)
  | changeMode (path : Bytes) (mode : Nat)
  /-- Sets when a file was changed: a certain time, or now. -/
  | changeTime (path : Bytes) (time : Option Int) (follow : Bool)
  /-- Sets the permission bits that new files do not get, and gives those of before. -/
  | mask (bits : Nat)
  /-- How long a file may become that the process writes. -/
  | fileLimit
  | setFileLimit (limit : Option Nat)
  /-- The number of the process itself. -/
  | identity
  /-- The number of the process that started this one. -/
  | parent
  /-- The current directory. -/
  | whereabouts
  /-- The time, in microseconds. -/
  | time
  deriving DecidableEq, Repr, Inhabited

/-- What the system answers to a request of a process. -/
abbrev Request.Reply : Request → Type
  | .read .. => Except Errno Bytes
  | .write .. | .openFile .. | .seek .. | .keepAside .. => Except Errno Nat
  | .pipe => Except Errno (Nat × Nat)
  | .wait .. => Except Errno WaitStatus
  | .peek _ => Option WaitStatus
  | .examine .. => Except Errno Facts
  | .inspect _ => Except Errno (Option Facts)
  | .list _ => Except Errno (List String)
  | .whereabouts => Except Errno Location
  | .close _ | .duplicate .. | .signal .. | .enter _ | .create .. | .share .. | .remove _
  | .removeDirectory _ | .rename .. | .changeMode .. | .changeTime .. => Except Errno Unit
  | .collect => List Nat
  | .fileLimit => Option Nat
  | .dispose .. | .sleep _ | .pause | .setFileLimit _ => Unit
  | .identity | .parent | .mask _ | .time => Nat

/-- What a process does from now on. -/
inductive Behaviour
  | exit (code : UInt8)
  | ask (request : Request) (next : request.Reply → Behaviour)
  /-- Starts a copy of the process that goes on as `child`. -/
  | fork (child : Behaviour) (next : Nat → Behaviour)
  /-- Becomes another program; goes on only if that fails. -/
  | exec (path : Bytes) (arguments : List Bytes) (environment : Environment)
      (next : Errno → Behaviour)

instance : Inhabited Behaviour := ⟨.exit 0⟩

/-- What an executable file does with its arguments and variables. -/
abbrev Program := List Bytes → Environment → Behaviour

/-- A part of a behaviour that ends with a result; what follows is still open. -/
def Task (α : Type) : Type :=
  (α → Behaviour) → Behaviour

namespace Task

variable {α β σ : Type}

instance : Monad Task where
  pure result := fun next => next result
  bind task rest := fun next => task fun result => rest result next

/-- One request, for the sake of its answer. -/
def request (request : Request) : Task request.Reply :=
  fun next => .ask request next

/-- Ends the process. -/
def exit (code : UInt8) : Task α :=
  fun _ => .exit code

/-- Starts a copy of the process for another task and gives the number of the copy. -/
def fork (child : Task UInt8) : Task Nat :=
  fun next => .fork (child .exit) next

/-- Becomes another program; the result tells why that failed. -/
def exec (path : Bytes) (arguments : List Bytes) (environment : Environment) : Task Errno :=
  fun next => .exec path arguments environment next

/-- The behaviour of a process whose whole work is a task. -/
def toBehaviour (task : Task UInt8) : Behaviour :=
  task .exit

/-- The number of rounds after which a process that repeats itself is given up. -/
def mostRounds : Nat := 1000000000000

/-- Repeats a step, so many times at most, until it gives a result. -/
def repeatFor (step : σ → Task (σ ⊕ α)) : Nat → σ → Task α
  | 0, _ => exit 125
  | rounds + 1, state => fun next =>
    step state fun
      | .inl state => repeatFor step rounds state next
      | .inr result => next result

/-- Repeats a step until it gives a result. -/
def iterate (start : σ) (step : σ → Task (σ ⊕ α)) : Task α :=
  repeatFor step mostRounds start

/-- Writes all the bytes to a descriptor; the result tells why that failed. -/
def writeAll (descriptor : Nat) (data : Bytes) : Task (Except Errno Unit) :=
  iterate data fun data =>
    if data.isEmpty then pure (.inr (.ok ()))
    else do
      match ← request (.write descriptor data) with
      | .error number => pure (.inr (.error number))
      | .ok count => pure (.inl (data.drop count))

/-- Everything that can still be read from a descriptor. -/
def readAll (descriptor : Nat) : Task (Except Errno Bytes) :=
  iterate ([] : List Bytes) fun blocks => do
    match ← request (.read descriptor 65536) with
    | .error number => pure (.inr (.error number))
    | .ok [] => pure (.inr (.ok blocks.reverse.flatten))
    | .ok block => pure (.inl (block :: blocks))

end Task

end LineShell
