import LineShell.Pipeline.Builder
import LineShell.Pipeline.Reading

/-! Plans: what the stages of a line ask of the system, in which order, and what becomes of them by
the answers. -/

namespace LineShell

/-- A request that can be refused, as far as the tokens of a line tell it. -/
inductive Action
  | lookup (name : String)
  | openInput (path : String)
  | openOutput (path : String)
  | pipe
  /-- Starts a program under its command name and with its arguments. -/
  | spawn (arguments : List String)
  deriving DecidableEq, Repr, Inhabited

namespace Event

/-- The action behind an event, unless the event only gives up a handle or waits. -/
def action? (event : Event) : Option Action :=
  match event.call with
  | .lookup name => some (.lookup name)
  | .openInput path => some (.openInput path)
  | .openOutput path => some (.openOutput path)
  | .pipe => some .pipe
  | .spawn command => some (.spawn command.arguments)
  | .close _ | .reap .. | .wait _ | .join _ | .read _ | .write _ | .flush | .report _ => none

/-- The error that a refused action brings to its line. -/
def error? : Event → Option LineError
  | ⟨.lookup _, .error error⟩ => some (.lookup error)
  | ⟨.openInput path, .error cause⟩ => some (.redirectInput path cause)
  | ⟨.openOutput path, .error cause⟩ => some (.redirectOutput path cause)
  | ⟨.pipe, .error cause⟩ => some (.pipe cause)
  | ⟨.spawn command, .error cause⟩ => some (.spawn (command.arguments.headD "") cause)
  | _ => none

/-- Nothing is refused among some events and one more that is not refused. -/
theorem granted_append {past : List Event} {event : Event}
    (granted : ∀ earlier ∈ past, earlier.error? = none) (last : event.error? = none) :
    ∀ other ∈ past ++ [event], other.error? = none :=
  List.forall_mem_append.mpr ⟨granted, List.forall_mem_singleton.mpr last⟩

/-- What is told of some events and one more: the one more comes last, if it tells anything. -/
theorem filterMap_concat {β : Type} (told : Event → Option β) (past : List Event) (event : Event) :
    (past ++ [event]).filterMap told = past.filterMap told ++ (told event).toList := by
  rw [List.filterMap_append]
  cases found : told event <;> simp [found]

/-- The program that a look-up found. -/
def program? : Event → Option String
  | ⟨.lookup _, .ok program⟩ => some program
  | _ => none

/-- The source that the opening of a file gave. -/
def source? : Event → Option Source
  | ⟨.openInput path, .ok handle⟩ => some (.file path handle)
  | _ => none

/-- The sink that the opening of a file gave. -/
def sink? : Event → Option Sink
  | ⟨.openOutput path, .ok handle⟩ => some (.file path handle)
  | _ => none

/-- The reading and the writing end of a pipe that was made. -/
def ends? : Event → Option (Handle × Handle)
  | ⟨.pipe, .ok ends⟩ => some ends
  | _ => none

/-- The program that was to be started, and what came of it. -/
def start? : Event → Option (Command × Except IoError Nat)
  | ⟨.spawn command, reply⟩ => some (command, reply)
  | _ => none

/-- The command name and the arguments of a program that could be started. -/
def started? : Event → Option (List String)
  | ⟨.spawn command, .ok _⟩ => some command.arguments
  | _ => none

end Event

/-- The actions among some events. -/
def deeds (events : List Event) : List Event :=
  events.filter (·.action?.isSome)

/-- The action that an item asks for. -/
def Item.action? : Item → Option Action
  | .argument _ => none
  | .input path => some (.openInput path.text)
  | .output path => some (.openOutput path.text)

namespace Reading

/-- What is done for a stage before its program can be started. -/
def preparation (reading : Reading) : List Action :=
  .lookup reading.command.text :: reading.items.filterMap Item.action? ++
    if reading.closing = .pipe then [.pipe] else []

/-- Whether the line ends before the stage does. -/
def isDangling (reading : Reading) : Bool :=
  match reading.closing with
  | .dangling _ => true
  | .finish | .pipe => false

/-- All that is done for a stage; one that dangles is never started. -/
def actions (reading : Reading) : List Action :=
  reading.preparation ++ if reading.isDangling then [] else [.spawn reading.arguments]

/-- The stage that a reading becomes by its own events: the last file of each kind counts, and a
pipe counts more than a file that is to be written. -/
def stage (reading : Reading) (stdin : Source) (events : List Event) : Stage where
  program := ((events.filterMap Event.program?).getLast?).getD ""
  arguments := reading.arguments
  stdin := ((events.filterMap Event.source?).getLast?).getD stdin
  stdout :=
    match (events.filterMap Event.ends?).getLast? with
    | some (_, writer) => .pipe writer
    | none => ((events.filterMap Event.sink?).getLast?).getD .inherit
  terminal := reading.closing = .finish

/-- Where the stage after some events reads from, unless it is told otherwise. -/
def inherited (events : List Event) : Source :=
  match (events.filterMap Event.ends?).getLast? with
  | some (reader, _) => .pipe reader
  | none => .inherit

/-- What a reading comes to when nothing is refused to it: the stage that it becomes, unless the
line ends behind an operator that takes a token. -/
def step (reading : Reading) (stdin : Source) (events : List Event) : Except LineError Stage :=
  match reading.closing with
  | .dangling operator => .error (.missingOperand operator)
  | .finish | .pipe => .ok (reading.stage stdin events)

/-- What the readings of a line come to, each by its own events. -/
def steps : Source → List Reading → List (List Event) → List (Except LineError Stage)
  | stdin, reading :: readings, events :: parts =>
    reading.step stdin events :: steps (inherited events) readings parts
  | _, _, _ => []

end Reading

end LineShell
