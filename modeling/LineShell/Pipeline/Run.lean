import LineShell.Pipeline.Builder
import LineShell.Pipeline.Launch

/-! Runs: the stages of a line are started from left to right, and the last one is waited for. -/

namespace LineShell

/-- How a line ended. -/
inductive Outcome
  /-- There was nothing to run. -/
  | empty
  /-- The last stage ended with this code. -/
  | exited (code : Int)
  /-- The stage of this number could not be built, started or waited for. -/
  | failed (stage : Nat) (error : LineError)
  deriving DecidableEq, Repr, Inhabited

/-- How a line ended whose last stage, of this number, has been waited for. -/
def Outcome.ofWait (number : Nat) : Except IoError WaitStatus → Outcome
  | .ok status => .exited status.exitCode
  | .error cause => .failed number (.wait cause)

/-- All that comes of running a line. -/
structure Run where
  /-- The number of processes started. -/
  spawned : Nat := 0
  /-- One for each stage that was started and is not the last. -/
  reapers : List Reaper := []
  outcome : Outcome := .empty
  deriving DecidableEq, Repr, Inhabited

namespace Run

/-- Ends a run for an error, giving up what the unbuilt part of its line owns. -/
def giveUp (run : Run) (number : Nat) (rest : Builder) (error : LineError) : Flow Run := do
  Flow.release rest.handles
  pure { run with outcome := .failed number error }

/-- Waits for a started process if it is that of the last stage, and hands it to a reaper if it is
not. -/
def attend (run : Run) (number : Nat) (terminal : Bool) (launched : Launched) : Flow Run :=
  if terminal then do
    -- Whatever the wait brings, the stage counts as started.
    let reply ← Flow.request (.wait launched.process)
    Flow.release launched.writer.toList
    pure { run with spawned := run.spawned + 1, outcome := .ofWait number reply }
  else do
    let reaper ← Reaper.take launched
    pure { run with spawned := run.spawned + 1, reapers := run.reapers ++ [reaper] }

/-- The process of the last stage is waited for. -/
theorem attend_last (run : Run) (number : Nat) (launched : Launched) :
    run.attend number true launched = .ask (.wait launched.process) fun reply =>
      Flow.release launched.writer.toList >>= fun _ =>
        .done { run with spawned := run.spawned + 1, outcome := .ofWait number reply } :=
  rfl

/-- The process of any other stage is handed to a reaper. -/
theorem attend_other (run : Run) (number : Nat) (launched : Launched) :
    run.attend number false launched = .ask (.reap launched.process launched.writer) fun _ =>
      .done { run with
        spawned := run.spawned + 1
        reapers := run.reapers ++ [⟨launched.name, launched.process⟩] } :=
  rfl

/-- Runs at most so many further stages, the first of which has the given number. -/
def stages : Nat → Nat → Builder → Run → Flow Run
  | 0, _, _, run => pure run
  | bound + 1, number, builder, run => do
    let (built, rest) ← builder.next
    match built with
    | none => pure run
    | some (.error error) => run.giveUp number rest error
    | some (.ok stage) => do
      match ← stage.launch with
      | .error error => run.giveUp number rest error
      | .ok launched => do
        let run ← run.attend number stage.terminal launched
        stages bound (number + 1) rest run

/-- With nothing left to build, a run is over. -/
theorem stages_of_none {builder : Builder} (empty : builder.pending = none) (bound number : Nat)
    (run : Run) : stages bound number builder run = .done run := by
  -- There may be steps left, but the next one finds the end.
  cases bound with
  | zero => rfl
  | succ bound => simp [stages, Builder.next_eq_none empty]

/-- With something left to build, a run builds, starts and attends to it. -/
theorem stages_of_pending {builder : Builder} {pending : Pending}
    (found : builder.pending = some pending) (bound number : Nat) (run : Run) :
    stages (bound + 1) number builder run =
      Builder.build pending builder.tokens >>= fun step =>
        match step.1 with
        | .error error => run.giveUp number step.2 error
        | .ok stage => stage.launch >>= fun
          | .error error => run.giveUp number step.2 error
          | .ok launched => run.attend number stage.terminal launched >>=
              stages bound (number + 1) step.2 := by
  rw [stages, Builder.next_eq_build found, bind_assoc]
  congr 1
  funext step
  obtain ⟨built | stage, rest⟩ := step <;> rfl

/-- Builds, starts and waits for the stages of a line. -/
def ofTokens (tokens : List Token) : Flow Run :=
  -- Each stage takes a token at least, and one more step finds the end.
  stages (tokens.length + 1) 0 (Builder.ofTokens tokens) {}

end Run

end LineShell
