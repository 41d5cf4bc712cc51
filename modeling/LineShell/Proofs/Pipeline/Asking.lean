import LineShell.Proofs.Flow.Unfolding
import LineShell.Session

/-! Asking: which requests are made to build a stage, and which to run a line. -/

namespace LineShell

/-- Whether a request is one that a line itself makes. -/
abbrev Call.IsOfLine (call : Call) : Prop :=
  call.isAside = false

/-- Whether a request is made while a stage is built, or given up. -/
def Call.isForBuilding : Call → Bool
  | .lookup _ | .openInput _ | .openOutput _ | .pipe | .close _ => true
  | .spawn _ | .reap .. | .wait _ | .join _ | .read _ | .write _ | .flush | .report _ => false

/-- Whether a request is one by which a stage is built. -/
abbrev Call.IsForBuilding (call : Call) : Prop :=
  call.isForBuilding = true

/-- Whether a request only gives up a handle. -/
def Call.isClosing : Call → Bool
  | .close _ => true
  | .lookup _ | .openInput _ | .openOutput _ | .pipe | .spawn _ | .reap .. | .wait _ | .join _
  | .read _ | .write _ | .flush | .report _ => false

/-- Whether a request is one by which a handle is given up. -/
abbrev Call.IsClosing (call : Call) : Prop :=
  call.isClosing = true

/-- Handles are given up while stages are built. -/
theorem Call.IsClosing.isForBuilding {call : Call} (closing : call.IsClosing) :
    call.IsForBuilding := by
  cases call <;> first | rfl | cases closing

/-- A stage is built for a line. -/
theorem Call.IsForBuilding.isOfLine {call : Call} (building : call.IsForBuilding) :
    call.IsOfLine := by
  cases call <;> first | rfl | cases building

open LineShell.Flow (Asks asks_release)

/-- Giving up what is left is all that is asked for behind an error. -/
theorem Builder.asks_fail (error : LineError) (owned : List Handle) (rest : List Token) :
    (Builder.fail error owned rest).Asks Call.IsForBuilding :=
  (asks_release (fun _ => rfl) owned).bind fun _ => trivial

/-- Completing a stage asks for files and pipes. -/
theorem Builder.asks_complete (stage : Stage) (tokens : List Token) :
    (Builder.complete stage tokens).Asks Call.IsForBuilding := by
  -- A file that is opened, or an end of a pipe, may replace another one, which is given up.
  induction stage, tokens using Builder.complete.induct with
  | case1 stage => exact trivial
  | case2 stage word rest ih => rwa [Builder.complete]
  | case3 stage operator => exact Builder.asks_fail ..
  | case4 stage path rest ih =>
    rw [Builder.complete_input]
    refine ⟨rfl, fun reply => ?_⟩
    rcases reply with cause | handle
    · exact Builder.asks_fail ..
    · exact (asks_release (fun _ => rfl) _).bind fun _ => ih handle
  | case5 stage path rest ih =>
    rw [Builder.complete_output]
    refine ⟨rfl, fun reply => ?_⟩
    rcases reply with cause | handle
    · exact Builder.asks_fail ..
    · exact (asks_release (fun _ => rfl) _).bind fun _ => ih handle
  | case6 stage command rest =>
    rw [Builder.complete_pipe]
    refine ⟨rfl, fun reply => ?_⟩
    rcases reply with cause | ⟨reader, writer⟩
    · exact Builder.asks_fail ..
    · exact (asks_release (fun _ => rfl) _).bind fun _ => trivial

/-- Building a stage asks for its command first. -/
theorem Builder.asks_build (pending : Pending) (rest : List Token) :
    (Builder.build pending rest).Asks Call.IsForBuilding := by
  rw [Builder.build_eq]
  refine ⟨rfl, fun reply => ?_⟩
  cases reply with
  | error error => exact Builder.asks_fail ..
  | ok program => exact Builder.asks_complete ..

/-- Launching a stage asks for its process. -/
theorem Stage.asks_launch (stage : Stage) : stage.launch.Asks Call.IsOfLine := by
  cases named : stage.arguments with
  | nil =>
    rw [Stage.launch, named]
    exact (asks_release (fun _ => rfl) _).bind fun _ => trivial
  | cons name arguments =>
    rw [Stage.launch_eq named]
    refine ⟨rfl, fun reply => ?_⟩
    cases reply with
    | error cause => exact (asks_release (fun _ => rfl) _).bind fun _ => trivial
    | ok process => exact (asks_release (fun _ => rfl) _).bind fun _ => trivial

/-- Attending to a process waits for it or hands it on. -/
theorem Run.asks_attend (run : Run) (number : Nat) (terminal : Bool) (launched : Launched) :
    (run.attend number terminal launched).Asks Call.IsOfLine := by
  cases terminal with
  | true => exact ⟨rfl, fun _ => (asks_release (fun _ => rfl) _).bind fun _ => trivial⟩
  | false => exact ⟨rfl, fun _ => trivial⟩

/-- Running stages asks for what each of them asks for. -/
theorem Run.asks_stages (bound number : Nat) (builder : Builder) (run : Run) :
    (Run.stages bound number builder run).Asks Call.IsOfLine := by
  induction bound generalizing number builder run with
  | zero => exact trivial
  | succ bound ih =>
    -- Whatever fails, the input that is left is given up, and nothing else is asked for.
    have given (rest : Builder) (error : LineError) :
        (run.giveUp number rest error).Asks Call.IsOfLine :=
      (asks_release (fun _ => rfl) _).bind fun _ => trivial
    cases found : builder.pending with
    | none =>
      rw [Run.stages_of_none found]
      exact trivial
    | some pending =>
      rw [Run.stages_of_pending found]
      refine ((Builder.asks_build _ _).mono fun _ => Call.IsForBuilding.isOfLine).bind
        fun ⟨built, rest⟩ => ?_
      cases built with
      | error error => exact given rest error
      | ok stage =>
        refine stage.asks_launch.bind fun launched => ?_
        cases launched with
        | error error => exact given rest error
        | ok launched => exact (run.asks_attend ..).bind fun run => ih _ _ run

/-- Running a line asks for what its stages ask for. -/
theorem Session.asks_run (session : Session) (line : String) :
    (session.run line).Asks Call.IsOfLine :=
  (Run.asks_stages ..).bind fun _ => trivial

/-- Running a line and forgetting its reapers asks for no more than the line does. -/
theorem Session.asks_execute (session : Session) (line : String) :
    (session.execute line).Asks Call.IsOfLine := by
  refine (session.asks_run line).bind fun ⟨run, session⟩ => ?_
  cases ended : run.outcome <;> simp only [ended] <;> exact trivial

end LineShell
