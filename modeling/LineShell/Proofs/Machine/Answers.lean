import LineShell.Proofs.Machine.Onward

/-! Answers: what stays as it is in the machine when a request of the interpreter is answered. -/

namespace LineShell

/-- Whether the answer to a request leaves the handles and the tasks of the interpreter alone. -/
def Call.leavesHandles : Call → Bool
  | .lookup _ | .spawn _ | .wait _ | .join _ | .read _ | .write _ | .flush | .report _ => true
  | .openInput _ | .openOutput _ | .pipe | .close _ | .reap .. => false

/-- The process that a request waits for. -/
def Call.waited? : Call → Option Nat
  | .wait process => some process
  | _ => none

namespace Machine

variable {machine after : Machine} {call : Call} {reply : call.Reply}

/-- The interpreter gets an error, or a handle that it holds from then on. -/
theorem opened_of_openHeld {path : String} {manner : Manner} {result : Except IoError Handle}
    (answered : machine.openHeld path manner = some (result, after)) :
    (∃ cause, result = .error cause ∧ after = machine) ∨
      ∃ handle middle, result = .ok handle ∧
        after = { middle with held := handle :: middle.held } ∧
        Opened machine (fun pipe => (∃ number, (number, pipe) ∈ middle.fifos) ∨
          ∃ descriptor handle, machine.ownHandle? descriptor = some handle ∧
            handle.pipe? = some pipe) handle middle := by
  -- An opening that has to wait gives no answer yet.
  unfold openHeld at answered
  split at answered
  · cases answered
    exact .inl ⟨_, rfl, rfl⟩
  · split at answered
    · cases answered
      exact .inl ⟨_, rfl, rfl⟩
    · rename_i opened
      split at answered
      · cases answered
      · cases answered
        exact .inr ⟨_, _, rfl, rfl, opened_of_openFile opened⟩

/-- The interpreter gets an error, or the number of a process that has not been there before. -/
theorem started_of_start {command : Command} {result : Except IoError Nat}
    (answered : machine.start command = (result, after)) :
    (∃ cause, result = .error cause ∧ after = machine) ∨
      ∃ process, result = .ok (machine.processes.length + 1) ∧
        after = { machine with processes := machine.processes ++ [process] } := by
  -- Numbers run from one on, so the new process has the next one.
  unfold start at answered
  split at answered
  · cases answered
    exact .inl ⟨_, rfl, rfl⟩
  · split at answered
    · cases answered
      exact .inl ⟨_, rfl, rfl⟩
    · cases answered
      exact .inr ⟨_, rfl, rfl⟩

/-- A process that has been started is the interpreter's own, and it is running. -/
theorem own_of_start {command : Command} {number : Nat}
    (answered : machine.start command = (.ok number, after)) :
    ∃ process behaviour, after.process? number = some process ∧ process.parent = 0 ∧
      process.progress = .running behaviour := by
  unfold start at answered
  split at answered
  · cases answered
  · split at answered
    · cases answered
    · cases answered
      exact ⟨_, _, by rw [process?, List.getElem?_concat_length], rfl, rfl⟩

/-- An answer that leaves the handles and the tasks of the interpreter alone. -/
theorem onward_of_answered (leaves : call.leavesHandles = true)
    (answered : machine.answer call = some (reply, after)) : Onward machine after := by
  -- Waiting reaps a process, starting adds one, and reading and writing move bytes.
  cases call with
  | lookup | flush => exact (beside_of_keep answered).toOnward
  | openInput | openOutput | pipe | close | reap => cases leaves
  | spawn command =>
    rcases started_of_start (Option.some.inj answered) with ⟨cause, rfl, rfl⟩ | ⟨process, rfl, rfl⟩
    · exact .refl _
    · exact (beside_addProcess machine process).toOnward
  | wait process =>
    simp only [answer] at answered
    split at answered
    · exact (beside_of_keep answered).toOnward
    · rename_i found
      split at answered
      any_goals cases answered
      · exact .refl machine
      · exact .setProcess found fun _ => rfl
  | join process =>
    simp only [answer] at answered
    split at answered
    · exact (beside_of_keep answered).toOnward
    · split at answered
      any_goals cases answered
      exact .refl machine
  | read limit =>
    obtain ⟨⟨result, middle⟩, found, same⟩ := Option.map_eq_some_iff.mp answered
    cases same
    exact (beside_of_readHandle found).toOnward
  | write data =>
    obtain ⟨⟨result, middle⟩, found, same⟩ := Option.map_eq_some_iff.mp answered
    cases same
    exact (beside_of_writeHandle found).toOnward
  | report data =>
    simp only [answer] at answered
    split at answered
    · cases answered
    · rename_i written
      cases answered
      exact (beside_of_writeHandle written).toOnward

/-- Opening a file goes on but for the handle that is held from then on. -/
theorem onward_of_openHeld {path : String} {manner : Manner} {result : Except IoError Handle}
    (answered : machine.openHeld path manner = some (result, after)) :
    Onward machine { after with held := machine.held } := by
  -- The handle is the only thing that the interpreter gets.
  rcases opened_of_openHeld answered with ⟨cause, rfl, rfl⟩ | ⟨handle, middle, rfl, rfl, opened⟩
  · exact .refl after
  · have onward := opened.around.onward opened.processes
    rw [← onward.held]
    exact onward

/-- Every answer goes on but for the handles and the tasks of the interpreter. -/
theorem onward_but_handles (answered : machine.answer call = some (reply, after)) :
    Onward machine { after with held := machine.held, reapers := machine.reapers } := by
  -- Only handing a process on concerns the tasks.
  have whole (onward : Onward machine { after with held := machine.held }) :
      Onward machine { after with held := machine.held, reapers := machine.reapers } := by
    rw [← onward.reapers]
    exact onward
  cases leaves : call.leavesHandles with
  | true =>
    have onward := onward_of_answered leaves answered
    refine whole ?_
    rw [← onward.held]
    exact onward
  | false =>
    cases call with
    | openInput | openOutput => exact whole (onward_of_openHeld answered)
    | pipe =>
      cases answered
      exact (around_addPipe machine).onward rfl
    | close | reap =>
      cases answered
      exact .refl machine
    | _ => cases leaves

/-- An answer spares the processes of the interpreter, but for the one that is waited for. -/
theorem spares_of_answered (answered : machine.answer call = some (reply, after)) :
    Spares call.waited? machine after := by
  -- Opening and closing leaves the processes alone.
  have opening {path : String} {manner : Manner} {result : Except IoError Handle}
      (answered : machine.openHeld path manner = some (result, after)) :
      Spares none machine after := by
    rcases opened_of_openHeld answered with ⟨cause, rfl, rfl⟩ | ⟨handle, middle, rfl, rfl, opened⟩
    · exact spares_of_same none rfl
    · exact spares_of_same none opened.processes
  cases call with
  | lookup | flush => exact (beside_of_keep answered).spares
  | openInput | openOutput => exact opening answered
  | pipe | close | reap =>
    cases answered
    exact spares_of_same none rfl
  | spawn command =>
    rcases started_of_start (Option.some.inj answered) with ⟨cause, rfl, rfl⟩ | ⟨process, rfl, rfl⟩
    · exact spares_of_same none rfl
    · exact (beside_addProcess machine process).spares
  | wait process =>
    simp only [answer] at answered
    split at answered
    · cases answered
      exact spares_of_same _ rfl
    · rename_i found
      split at answered
      any_goals cases answered
      · exact spares_of_same _ rfl
      · exact .setProcess found fun _ other => absurd rfl other
  | join process =>
    simp only [answer] at answered
    split at answered
    · exact (beside_of_keep answered).spares
    · split at answered
      any_goals cases answered
      exact spares_of_same none rfl
  | read limit =>
    obtain ⟨⟨result, middle⟩, found, same⟩ := Option.map_eq_some_iff.mp answered
    cases same
    exact (beside_of_readHandle found).spares
  | write data =>
    obtain ⟨⟨result, middle⟩, found, same⟩ := Option.map_eq_some_iff.mp answered
    cases same
    exact (beside_of_writeHandle found).spares
  | report data =>
    simp only [answer] at answered
    split at answered
    · cases answered
    · rename_i written
      cases answered
      exact (beside_of_writeHandle written).spares

end Machine

end LineShell
