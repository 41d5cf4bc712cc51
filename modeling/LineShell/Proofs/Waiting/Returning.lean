import LineShell.Proofs.Machine.Onward
import LineShell.Proofs.Waiting.Lines

/-! Returning: when a line can come to its end that waits for its last process. -/

namespace LineShell

variable {α : Type}

namespace Machine

variable {machine after : Machine} {number : Nat} {status : WaitStatus}

/-- Whether a process is over, with a status that has not been given away. -/
def HasEnded (machine : Machine) (number : Nat) (status : WaitStatus) : Prop :=
  ∃ process, machine.process? number = some process ∧ process.progress = .ended status

/-- Whoever is given a status by a wait gets that of a process that is over. -/
theorem hasEnded_of_answer (answered : machine.answer (.wait number) = some (.ok status, after)) :
    machine.HasEnded number status := by
  simp only [answer] at answered
  split at answered
  · cases answered
  · rename_i process found
    split at answered
    any_goals cases answered
    rename_i ended
    exact ⟨process, found, ended⟩

/-- With that the status is given away. -/
theorem isReaped_of_answer (answered : machine.answer (.wait number) = some (.ok status, after)) :
    after.IsReaped number := by
  simp only [answer] at answered
  split at answered
  · cases answered
  · rename_i process found
    split at answered
    any_goals cases answered
    exact ⟨{ process with progress := .reaped }, by rw [process?_setProcess found, if_pos rfl], rfl⟩

/-- The wait for a process that is over is answered at once. -/
theorem answer_of_hasEnded (ended : machine.HasEnded number status) :
    ∃ after, machine.answer (.wait number) = some (.ok status, after) := by
  obtain ⟨process, found, progress⟩ := ended
  exact ⟨machine.setProcess number { process with progress := .reaped },
    by simp [answer, found, progress]⟩

/-- Processes are over as long as they are left alone. -/
theorem HasEnded.congr (ended : machine.HasEnded number status)
    (same : after.processes = machine.processes) : after.HasEnded number status := by
  obtain ⟨process, found, progress⟩ := ended
  exact ⟨process, (process?_congr same number).trans found, progress⟩

end Machine

/-- Only the wait for a process tells of one. -/
theorem Event.exists_of_waited? {history : List Event} {process : Nat}
    {reply : Except IoError WaitStatus}
    (waited : (process, reply) ∈ history.filterMap Event.waited?) :
    ∃ earlier later, history = earlier ++ ⟨.wait process, reply⟩ :: later := by
  obtain ⟨event, member, same⟩ := List.mem_filterMap.mp waited
  unfold Event.waited? at same
  split at same
  · cases same
    exact List.mem_iff_append.mp member
  · cases same

namespace Flow

/-- A flow that has nothing to give up makes the request that comes next. -/
theorem eq_ask {flow : Flow α} {call : Call} (closings : flow.closings = [])
    (upcoming : flow.upcoming? = some call) : ∃ next, flow = .ask call next := by
  cases flow with
  | done result => cases upcoming
  | ask other next =>
    cases other with
    | close handle => cases closings
    | _ =>
      cases upcoming
      exact ⟨next, rfl⟩

/-- A flow that has nothing to give up and makes no request is at its end. -/
theorem eq_done {flow : Flow α} (closings : flow.closings = [])
    (upcoming : flow.upcoming? = none) : ∃ result, flow = .done result := by
  cases flow with
  | done result => exact ⟨result, rfl⟩
  | ask other next =>
    cases other with
    | close handle => cases closings
    | _ => cases upcoming

end Flow

namespace Scene

variable {first scene : Scene α} {turns : List (Option Machine.Agent)} {history : List Event}

/-- Whether a process is over with a status at some moment of a schedule. -/
def Exits (first : Scene α) (turns : List (Option Machine.Agent)) (process : Nat)
    (status : WaitStatus) : Prop :=
  ∃ earlier later history scene, turns = earlier ++ later ∧ Plays first earlier history scene ∧
    scene.machine.HasEnded process status

/-- Giving up handles takes as many turns of the interpreter, and no process notices. -/
theorem Plays.closings {flow : Flow α} {machine : Machine}
    (plays : Plays first turns history ⟨flow, machine⟩) :
    ∃ rest after, Plays first (turns ++ List.replicate flow.closings.length none)
        (history ++ flow.closings.map fun handle => ⟨.close handle, ()⟩) ⟨rest, after⟩ ∧
      after.processes = machine.processes ∧ rest.closings = [] ∧
      rest.upcoming? = flow.upcoming? := by
  induction flow generalizing turns history machine with
  | done result => exact ⟨_, machine, by simpa [Flow.closings] using plays, rfl, rfl, rfl⟩
  | ask call next ih =>
    cases call with
    | close handle =>
      -- The answer always comes at once.
      have closed : Plays first (turns ++ [none]) (history ++ [⟨.close handle, ()⟩])
          ⟨next (), { machine with held := machine.held.erase handle }⟩ := .answered plays rfl
      obtain ⟨rest, after, others, further⟩ := ih () closed
      exact ⟨rest, after, by simpa [Flow.closings, List.replicate_succ] using others, further⟩
    | _ => exact ⟨_, machine, by simpa [Flow.closings] using plays, rfl, rfl, rfl⟩

end Scene

namespace Session

open Scene (Plays)

variable {session : Session} {line : String} {machine : Machine} {scene : Scene (Run × Session)}
  {turns : List (Option Machine.Agent)} {history : List Event}

/-- How a line comes to its end by a wait. -/
structure Returns (first : Scene (Run × Session)) (turns : List (Option Machine.Agent))
    (history : List Event) (scene : Scene (Run × Session)) : Prop where
  /-- A line that tells an exit code tells that of the process that it has waited for, which has
  been over at some moment before. -/
  exited : ∀ run next code, scene.flow = .done (run, next) → run.outcome = .exited code →
    ∃ process status, history.filterMap Event.waited? = [(process, .ok status)] ∧
      first.Exits turns process status ∧ code = status.exitCode ∧ next.lastCode = code
  /-- As soon as the process is over that a line waits for, the line comes to its end by turns of
  the interpreter alone. -/
  returning : ∀ process status, scene.flow.upcoming? = some (.wait process) →
    scene.machine.HasEnded process status →
    ∃ count run next machine all,
      Plays first (turns ++ List.replicate count none) all ⟨.done (run, next), machine⟩ ∧
      run.outcome = .exited status.exitCode

/-- At every moment of a line its conduct tells what has been waited for. -/
theorem conduct_of_plays (plays : Plays ⟨session.run line, machine⟩ turns history scene) :
    ∃ conduct : Conduct, history.filterMap Event.waited? = conduct.waited.toList ∧
      scene.flow.Keeps Conduct.Step (fun left result =>
        left.Left result.1 ∧ result.2 = session.after result.1.outcome) conduct := by
  obtain ⟨conduct, leads, keeps⟩ :=
    (Scene.follows_iff.mpr ⟨_, plays⟩).unfolds.keeps (Conduct.keeps_run session line)
  exact ⟨conduct, (Conduct.tells_of_leads leads).waited, keeps⟩

/-- A line that tells an exit code tells that of the process that it has waited for. -/
theorem exits_of_exited (plays : Plays ⟨session.run line, machine⟩ turns history scene) {run : Run}
    {next : Session} {code : Int} (done : scene.flow = .done (run, next))
    (exited : run.outcome = .exited code) :
    ∃ process status, history.filterMap Event.waited? = [(process, .ok status)] ∧
      Scene.Exits ⟨session.run line, machine⟩ turns process status ∧ code = status.exitCode ∧
      next.lastCode = code := by
  obtain ⟨conduct, told, keeps⟩ := conduct_of_plays plays
  rw [done] at keeps
  obtain ⟨left, after⟩ := keeps
  cases waited : conduct.waited with
  | none => exact absurd exited (left.unwaited waited code)
  | some given =>
    obtain ⟨process, reply⟩ := given
    obtain ⟨number, outcome⟩ := left.waited process reply waited
    rw [exited] at outcome
    cases reply with
    | error cause => cases outcome
    | ok status =>
      cases outcome
      rw [waited] at told
      have lastCode : next = session.after run.outcome := after
      refine ⟨process, status, told, ?_, rfl, by rw [lastCode, exited]; rfl⟩
      -- The process was over at the turn at which the wait was answered.
      have member : (process, .ok status) ∈ history.filterMap Event.waited? := by simp [told]
      obtain ⟨earlier, later, rfl⟩ := Event.exists_of_waited? member
      obtain ⟨before, behind, _, _, _, same, moment, answered⟩ := plays.split
      exact ⟨before, none :: behind, _, _, same, moment, Machine.hasEnded_of_answer answered⟩

/-- A line that waits for a process which is over comes to its end by turns of the interpreter. -/
theorem plays_of_hasEnded (plays : Plays ⟨session.run line, machine⟩ turns history scene)
    {process : Nat} {status : WaitStatus} (waiting : scene.flow.upcoming? = some (.wait process))
    (ended : scene.machine.HasEnded process status) :
    ∃ count run next last all,
      Plays ⟨session.run line, machine⟩ (turns ++ List.replicate count none) all
        ⟨.done (run, next), last⟩ ∧
      run.outcome = .exited status.exitCode := by
  obtain ⟨flow, machine⟩ := scene
  -- First what is to be given up is given up, then the wait is answered.
  obtain ⟨rest, afterwards, closed, same, nothing, upcoming⟩ := plays.closings
  obtain ⟨next, rfl⟩ := Flow.eq_ask nothing (upcoming.trans waiting)
  obtain ⟨answered, found⟩ := Machine.answer_of_hasEnded (ended.congr same)
  have waited := Plays.answered closed found
  obtain ⟨conduct, told, keeps⟩ := conduct_of_plays waited
  have present : conduct.waited ≠ none := by
    intro absent
    rw [absent] at told
    simp [Event.waited?] at told
  -- Behind the wait there is nothing but handles to give up, and then the end.
  obtain ⟨last, final, ending, _, empty, silent⟩ := waited.closings
  obtain ⟨⟨run, further⟩, rfl⟩ := Flow.eq_done empty
    (silent.trans ((Conduct.pursues keeps fun left result post => post.1.launched).waited present))
  obtain ⟨conduct, told, left, _⟩ := conduct_of_plays ending
  have member : (process, .ok status) ∈ conduct.waited.toList := by
    rw [← told]
    simp [Event.waited?]
  obtain ⟨number, outcome⟩ := left.waited process _ (Option.mem_toList.mp member)
  have counted (first second : Nat) : turns ++ List.replicate first none ++ [none] ++
      List.replicate second none = turns ++ List.replicate (first + 1 + second) none := by
    rw [← List.replicate_append_replicate, ← List.replicate_append_replicate,
      ← List.append_assoc, ← List.append_assoc]
    rfl
  rw [counted] at ending
  exact ⟨_, run, further, final, _, ending, outcome⟩

/-- Every line comes to its end by the wait for its last process. -/
theorem returns_of_plays (plays : Plays ⟨session.run line, machine⟩ turns history scene) :
    Returns ⟨session.run line, machine⟩ turns history scene where
  exited _ _ _ := exits_of_exited plays
  returning _ _ := plays_of_hasEnded plays

end Session

end LineShell
