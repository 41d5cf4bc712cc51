import LineShell.Proofs.Handles.Books
import LineShell.Proofs.Pipeline.Asking

/-! Conduct: what a line does about the processes that it starts, request by request. -/

namespace LineShell

namespace Event

/-- The process that a line waits for, and what comes of it. -/
def waited? : Event → Option (Nat × Except IoError WaitStatus)
  | ⟨.wait process, reply⟩ => some (process, reply)
  | _ => none

/-- The process that gets somebody who waits for it: the line itself, or a reaper. -/
def awaited? : Event → Option Nat
  | ⟨.wait process, _⟩ => some process
  | ⟨.reap process _, _⟩ => some process
  | _ => none

/-- Without a process that gets somebody to wait for it, none is waited for or handed on. -/
theorem quiet_of_awaited? {event : Event} (await : event.awaited? = none) :
    event.waited? = none ∧ event.reap? = none := by
  obtain ⟨call, reply⟩ := event
  cases call <;> first | exact ⟨rfl, rfl⟩ | cases await

end Event

/-- How far a line has come with the processes that it has started. -/
structure Conduct where
  /-- Those that have been handed to reapers, in order. -/
  handed : List Nat := []
  /-- One that has been started, and has still to be waited for or handed on. -/
  launched : Option Nat := none
  /-- The one that the line has waited for, and what has come of it. -/
  waited : Option (Nat × Except IoError WaitStatus) := none

namespace Conduct

/-- What becomes of a conduct by an event: every process is handed on or waited for before the next
one is started, and after the wait nothing but handles is given up. -/
inductive Step : Conduct → Event → Conduct → Prop
  | closed {conduct : Conduct} {handle : Handle} : Step conduct ⟨.close handle, ()⟩ conduct
  | quiet {conduct : Conduct} {event : Event}
      (going : conduct.launched = none ∧ conduct.waited = none) (start : event.process? = none)
      (await : event.awaited? = none) : Step conduct event conduct
  | started {handed : List Nat} {command : Command} {process : Nat} :
      Step ⟨handed, none, none⟩ ⟨.spawn command, .ok process⟩ ⟨handed, some process, none⟩
  | handed {handed : List Nat} {process : Nat} {keeps : Option Handle} :
      Step ⟨handed, some process, none⟩ ⟨.reap process keeps, ()⟩ ⟨handed ++ [process], none, none⟩
  | waited {handed : List Nat} {process : Nat} {reply : Except IoError WaitStatus} :
      Step ⟨handed, some process, none⟩ ⟨.wait process, reply⟩ ⟨handed, none, some (process, reply)⟩

/-- What a run is left with: a reaper for each process that has been handed on, and an outcome that
tells of the wait if there has been one. -/
structure Left (conduct : Conduct) (run : Run) : Prop where
  launched : conduct.launched = none
  reapers : run.reapers.map (·.process) = conduct.handed
  spawned : run.spawned = conduct.handed.length + conduct.waited.toList.length
  unwaited : conduct.waited = none → ∀ code, run.outcome ≠ .exited code
  waited : ∀ process reply, conduct.waited = some (process, reply) →
    ∃ number, run.outcome = .ofWait number reply

variable {α : Type} {conduct : Conduct} {handed : List Nat}

/-- Building a stage starts nothing and waits for nothing. -/
theorem keeps_of_asks {flow : Flow α} (asks : flow.Asks Call.IsForBuilding)
    (going : conduct.launched = none ∧ conduct.waited = none) :
    flow.Keeps Step (fun left _ => left = conduct) conduct := by
  induction flow with
  | done result => exact rfl
  | ask call next ih =>
    refine fun reply => ⟨conduct, ?_, ih reply (asks.2 reply)⟩
    have building := asks.1
    cases call <;> first | exact .quiet going rfl rfl | cases building

/-- Handles can be given up at any time. -/
theorem keeps_release (handles : List Handle) :
    (Flow.release handles).Keeps Step (fun left _ => left = conduct) conduct := by
  induction handles with
  | nil => exact rfl
  | cons handle rest ih => exact fun _ => ⟨conduct, .closed, ih⟩

/-- Giving a run up leaves its processes as they are. -/
theorem keeps_giveUp (run : Run) (number : Nat) (rest : Builder) (error : LineError) :
    (run.giveUp number rest error).Keeps Step
      (fun left result => left = conduct ∧ result = { run with outcome := .failed number error })
      conduct :=
  Flow.keeps_bind.mpr ((keeps_release _).mono fun _ _ same => ⟨same, rfl⟩)

/-- Building a stage leaves the processes as they are, and nothing is left of a line behind its last
stage. -/
theorem keeps_build (pending : Pending) (tokens : List Token)
    (going : conduct.launched = none ∧ conduct.waited = none) :
    (Builder.build pending tokens).Keeps Step
      (fun left step => left = conduct ∧
        ∀ stage, step.1 = .ok stage → stage.terminal = true → step.2.pending = none) conduct := by
  have ledger := @Builder.keeps_build pending tokens (.idle pending.stdin.handle?) rfl _
    (Nat.le_refl _)
  refine (keeps_of_asks (Builder.asks_build pending tokens) going).strengthen ledger
    fun left step ready => ?_
  -- Of all steps only that of the last stage gives a terminal one.
  cases ready with
  | failed => exact fun _ absent => nomatch absent
  | last _ _ _ _ ended => exact fun _ _ _ => ended
  | piped _ _ unended =>
    rintro stage ⟨⟩ terminal
    rw [unended] at terminal
    cases terminal

/-- Launching a stage may start its process. -/
theorem keeps_launch (stage : Stage) :
    stage.launch.Keeps Step
      (fun left launched => left = ⟨handed, launched.toOption.map (·.process), none⟩)
      ⟨handed, none, none⟩ := by
  cases named : stage.arguments with
  | nil =>
    rw [Stage.launch, named]
    exact Flow.keeps_bind.mpr ((keeps_release _).mono fun _ _ same => same)
  | cons name rest =>
    rw [Stage.launch_eq named]
    rintro (cause | process)
    · exact ⟨_, .quiet ⟨rfl, rfl⟩ rfl rfl,
        Flow.keeps_bind.mpr ((keeps_release _).mono fun _ _ same => same)⟩
    · exact ⟨_, .started, Flow.keeps_bind.mpr ((keeps_release _).mono fun _ _ same => same)⟩

/-- The process of the last stage is waited for. -/
theorem keeps_attend_last (run : Run) (number : Nat) (launched : Launched) :
    (run.attend number true launched).Keeps Step
      (fun left result => ∃ reply, left = ⟨handed, none, some (launched.process, reply)⟩ ∧
        result = { run with spawned := run.spawned + 1, outcome := .ofWait number reply })
      ⟨handed, some launched.process, none⟩ := by
  rw [Run.attend_last]
  exact fun reply => ⟨_, .waited, Flow.keeps_bind.mpr
    ((keeps_release _).mono fun _ _ same => ⟨reply, same, rfl⟩)⟩

/-- The process of any other stage is handed on. -/
theorem keeps_attend_other (run : Run) (number : Nat) (launched : Launched) :
    (run.attend number false launched).Keeps Step
      (fun left result => left = ⟨handed ++ [launched.process], none, none⟩ ∧
        result = { run with
          spawned := run.spawned + 1
          reapers := run.reapers ++ [⟨launched.name, launched.process⟩] })
      ⟨handed, some launched.process, none⟩ :=
  fun _ => ⟨_, .handed, rfl, rfl⟩

/-- A run of which no stage has been waited for is left as it is. -/
theorem left_of_unwaited {run : Run} (reapers : run.reapers.map (·.process) = handed)
    (spawned : run.spawned = handed.length) (unended : ∀ code, run.outcome ≠ .exited code) :
    Left ⟨handed, none, none⟩ run :=
  ⟨rfl, reapers, spawned, fun _ => unended, nofun⟩

/-- The stages of a line are dealt with one after another. -/
theorem keeps_stages (bound number : Nat) (builder : Builder) (run : Run)
    (reapers : run.reapers.map (·.process) = handed) (spawned : run.spawned = handed.length)
    (unended : ∀ code, run.outcome ≠ .exited code) :
    (Run.stages bound number builder run).Keeps Step Left ⟨handed, none, none⟩ := by
  -- Each stage but the last adds one to those that have been handed on.
  induction bound generalizing number builder run handed with
  | zero => exact left_of_unwaited reapers spawned unended
  | succ bound ih =>
    cases found : builder.pending with
    | none =>
      rw [Run.stages_of_none found]
      exact left_of_unwaited reapers spawned unended
    | some pending =>
      have given (rest : Builder) (error : LineError) :
          (run.giveUp number rest error).Keeps Step Left ⟨handed, none, none⟩ := by
        refine (keeps_giveUp run number rest error).mono fun left result same => ?_
        obtain ⟨rfl, rfl⟩ := same
        exact left_of_unwaited reapers spawned fun code => Outcome.noConfusion
      rw [Run.stages_of_pending found]
      refine Flow.keeps_bind.mpr ((keeps_build pending _ ⟨rfl, rfl⟩).mono fun left step same => ?_)
      obtain ⟨rfl, ends⟩ := same
      obtain ⟨error | stage, rest⟩ := step
      · exact given rest error
      · refine Flow.keeps_bind.mpr ((keeps_launch stage).mono fun left launched same => ?_)
        subst same
        rcases launched with error | launched
        · exact given rest error
        · cases terminal : stage.terminal with
          | true =>
            -- Nothing is left to be built behind the last stage.
            refine Flow.keeps_bind.mpr
              ((keeps_attend_last run number launched).mono fun left result same => ?_)
            obtain ⟨reply, rfl, rfl⟩ := same
            rw [Run.stages_of_none (ends stage rfl terminal)]
            exact ⟨rfl, reapers, by simp [spawned], nofun,
              by rintro process reply ⟨⟩; exact ⟨number, rfl⟩⟩
          | false =>
            refine Flow.keeps_bind.mpr
              ((keeps_attend_other run number launched).mono fun left result same => ?_)
            obtain ⟨rfl, rfl⟩ := same
            exact ih (number + 1) rest _ (by simp [reapers]) (by simp [spawned]) unended

/-- A line deals with its processes one after another. -/
theorem keeps_run (session : Session) (line : String) :
    (session.run line).Keeps Step
      (fun left result => left.Left result.1 ∧ result.2 = session.after result.1.outcome) {} :=
  Flow.keeps_bind.mpr ((keeps_stages _ 0 _ {} rfl rfl fun _ => Outcome.noConfusion).mono
    fun _ _ left => ⟨left, rfl⟩)

/-- What has been started, handed on and waited for by some events. -/
structure Tells (conduct : Conduct) (events : List Event) : Prop where
  started : events.filterMap Event.process? =
    conduct.handed ++ conduct.launched.toList ++ (conduct.waited.map (·.1)).toList
  handed : Ledger.handedOn events = conduct.handed
  waited : events.filterMap Event.waited? = conduct.waited.toList

/-- A conduct tells what the events have been. -/
theorem tells_of_leads {events : List Event} (leads : Flow.Leads Step {} events conduct) :
    conduct.Tells events := by
  induction leads with
  | refl => exact ⟨rfl, rfl, rfl⟩
  | @append events event middle last _ taken ih =>
    obtain ⟨started, handed, waited⟩ := ih
    have reaps : Ledger.handedOn (events ++ [event]) =
        middle.handed ++ (event.reap?.map (·.1)).toList := by
      rw [← handed, Ledger.handedOn, Event.filterMap_concat, List.map_append]
      cases event.reap? <;> rfl
    -- Each event adds at most one process to one of the three.
    refine ⟨?_, reaps.trans ?_, ?_⟩
    · rw [Event.filterMap_concat, started]
      cases taken with
      | quiet _ start _ => simp [start]
      | _ => simp [Event.process?]
    · cases taken with
      | quiet _ _ await => simp [Event.quiet_of_awaited? await]
      | _ => simp [Event.reap?]
    · rw [Event.filterMap_concat, waited]
      cases taken with
      | quiet _ _ await => simp [Event.quiet_of_awaited? await]
      | _ => simp [Event.waited?]

end Conduct

end LineShell
