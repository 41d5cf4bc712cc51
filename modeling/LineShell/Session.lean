import LineShell.Pipeline.Run

/-! Sessions: lines run one after another, each knowing the exit code of the one before. -/

namespace LineShell

/-- What one line leaves to the next. -/
structure Session where
  /-- The exit code of the last line that ran to its end. -/
  lastCode : Int := 0
  deriving DecidableEq, Repr, Inhabited

namespace Session

variable {α β : Type}

/-- The session after a line with the given outcome. -/
def after (session : Session) : Outcome → Session
  | .exited code => ⟨code⟩
  | .empty | .failed .. => session

/-- Runs one line. -/
def run (session : Session) (line : String) : Flow (Run × Session) := do
  let run ← Run.ofTokens (Token.ofLine line session.lastCode)
  pure (run, session.after run.outcome)

/-- Runs one line and leaves its reapers to themselves; the result is the error, if any. -/
def execute (session : Session) (line : String) : Flow (Except LineError Unit × Session) := do
  let (run, session) ← session.run line
  match run.outcome with
  | .failed _ error => pure (.error error, session)
  | .empty | .exited _ => pure (.ok (), session)

/-- A flow that runs lines, one after another, and has nothing else to do with files, pipes and
processes but that it waits for reapers. What it does next may depend on everything before. -/
inductive Drives : Flow α → Prop
  | done (result : α) : Drives (.done result)
  | aside {call : Call} {next : call.Reply → Flow α} (aside : call.isAside = true)
      (rest : ∀ reply, Drives (next reply)) : Drives (.ask call next)
  | run (session : Session) (line : String) {next : Run × Session → Flow α}
      (rest : ∀ result, Drives (next result)) : Drives (session.run line >>= next)

/-- Flows that run lines can follow one another. -/
theorem Drives.bind {flow : Flow α} (drives : Drives flow) {next : α → Flow β}
    (rest : ∀ result, Drives (next result)) : Drives (flow >>= next) := by
  -- The lines of the first come before those of the second.
  induction drives with
  | done result => exact rest result
  | aside aside _ ih => exact .aside aside ih
  | run session line _ ih =>
    rw [bind_assoc]
    exact .run session line ih

/-- Running lines without regard to their reapers is a way to run lines. -/
theorem Drives.execute (session : Session) (line : String)
    {next : Except LineError Unit × Session → Flow α} (rest : ∀ result, Drives (next result)) :
    Drives (session.execute line >>= next) := by
  rw [Session.execute, bind_assoc]
  -- Whatever the outcome of the line, nothing more is asked for.
  refine .run session line fun result => ?_
  cases ended : result.1.outcome <;>
    simp only [ended, Flow.pure_eq_done, Flow.done_bind] <;> exact rest _

end Session

end LineShell
