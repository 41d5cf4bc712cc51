import LineShell.Pipeline.Stage

/-! Launching: a stage becomes a process. -/

namespace LineShell

/-- A process that has been started and not yet been waited for. -/
structure Launched where
  name : String
  process : Nat
  /-- The interpreter's own writing end of the pipe that the process writes. -/
  writer : Option Handle
  deriving DecidableEq, Repr, Inhabited

namespace Stage

/-- The writing end that the interpreter keeps: that of the error stream before that of the
output. -/
def keptWriter (stage : Stage) : Option Handle :=
  stage.stderr.pipe? <|> stage.stdout.pipe?

/-- The program to start for a stage. -/
def command (stage : Stage) : Command where
  program := stage.program
  arguments := stage.arguments
  stdin := stage.stdin.handle?
  stdout := stage.stdout.handle?
  stderr := stage.stderr.handle?

/-- Whether a text that the program is started with holds the character that ends texts inside
the system. -/
def holdsNul (stage : Stage) : Bool :=
  (stage.program :: stage.arguments).any fun text => text.toList.contains '\x00'

/-- What a stage gives up when its program has been started: every handle but the kept writer, of
which one is left even if both streams write the same pipe. -/
def released (stage : Stage) : List Handle :=
  stage.keptWriter.elim stage.handles stage.handles.erase

/-- Starts the program of a stage. Every handle of the stage is given up, except for the kept
writer of a stage that could be started. -/
def launch (stage : Stage) : Flow (Except LineError Launched) :=
  match stage.arguments with
  | [] => do
    -- Every stage that is built has its command name.
    Flow.release stage.handles
    pure (.error (.spawn stage.program .noArguments))
  | name :: _ => do
    match ← Flow.request (.spawn stage.command) with
    | .error cause =>
      Flow.release stage.handles
      pure (.error (.spawn name cause))
    | .ok process =>
      -- As long as the kept writer is open, the next stage does not see the end of its input.
      Flow.release stage.released
      pure (.ok ⟨name, process, stage.keptWriter⟩)

/-- A stage with a name asks for its program to be started, before anything is given up. -/
theorem launch_eq {stage : Stage} {name : String} {rest : List String}
    (named : stage.arguments = name :: rest) :
    stage.launch = .ask (.spawn stage.command) fun
      | .error cause => Flow.release stage.handles >>= fun _ => .done (.error (.spawn name cause))
      | .ok process =>
        Flow.release stage.released >>= fun _ =>
          .done (.ok ⟨name, process, stage.keptWriter⟩) := by
  rw [launch, named]
  rfl

end Stage

/-- A task that waits for a process in the background and then gives up its writing end. -/
structure Reaper where
  name : String
  process : Nat
  deriving DecidableEq, Repr, Inhabited

namespace Reaper

/-- Hands a started process to a task of its own. -/
def take (launched : Launched) : Flow Reaper := do
  Flow.request (.reap launched.process launched.writer)
  pure ⟨launched.name, launched.process⟩

/-- Waits for the task and gives the status of its process. -/
def join (reaper : Reaper) : Flow (Option WaitStatus) :=
  Flow.request (.join reaper.process)

end Reaper

end LineShell
