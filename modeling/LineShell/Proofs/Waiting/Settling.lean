import LineShell.Proofs.Handles.Accounts
import LineShell.Proofs.Waiting.Errands
import LineShell.Proofs.Waiting.Owners

/-! Settling: every process of a session is waited for once, and what comes of a session does not
depend on the order in which everything happens. -/

namespace LineShell

namespace Scene

variable {α : Type} {first scene : Scene α} {turns : List (Option Machine.Agent)}
  {history : List Event} {ledger : Ledger}

/-- Who waits for the processes of a session, at a moment of a schedule. -/
structure Attended (first : Scene α) (turns : List (Option Machine.Agent)) (history : List Event)
    (scene : Scene α) : Prop where
  /-- Each process that has been started has been waited for by its line, or has been handed to a
  reaper, and only once; or one of both happens to it next. -/
  owners : (history.filterMap Event.process?).Nodup ∧ ∃ launched : Option Nat,
    (Ledger.waitedFor history ++ Ledger.handedOn history ++ launched.toList).Perm
      (history.filterMap Event.process?) ∧
    ∀ process, launched = some process ↔ scene.flow.upcoming? = some (.wait process) ∨
      ∃ keeps, scene.flow.upcoming? = some (.reap process keeps)
  /-- Each process that has been handed on has its own reaper. -/
  reapers : scene.machine.reapers.map (·.process) = Ledger.handedOn history
  /-- For a process that has been waited for, nobody waits again. -/
  once : ∀ process ∈ history.filterMap Event.process?, scene.machine.IsReaped process →
    scene.flow.upcoming? ≠ some (.wait process) ∧
    (∀ keeps, scene.flow.upcoming? ≠ some (.reap process keeps)) ∧
    ∀ task ∈ scene.machine.reapers, task.process = process → task.progress ≠ .waiting
  /-- Whoever has waited for a process has got the status with which it has ended. -/
  statuses : Tended first turns history scene.machine

/-- Where everything is sound, all processes are attended to. -/
theorem Tended.attended (tended : Tended first turns history scene.machine)
    (sound : Sound history ledger scene) : Attended first turns history scene := by
  obtain ⟨nodup, perm⟩ := sound.books.owners
  have next := sound.keeps.process?_iff fun _ _ rests => rests
  have reapers := congrArg (List.map Prod.fst) sound.reapers
  rw [List.map_map] at reapers
  refine ⟨⟨nodup, ledger.process?, perm, next⟩, reapers, fun process started reaped => ?_, tended⟩
  -- A process whose status is gone has been given away, so it is not what comes next.
  have taken := tended.taken process started reaped
  have unlaunched : ledger.process? ≠ some process := fun launched =>
    sound.not_taken_of_launched launched taken
  refine ⟨fun waiting => unlaunched ((next process).mpr (.inl waiting)),
    fun keeps handing => unlaunched ((next process).mpr (.inr ⟨keeps, handing⟩)), ?_⟩
  rintro task there rfl waiting
  exact sound.not_taken there waiting taken

end Scene

namespace Session

open Scene (Plays)

/-- The errands of a session that are all done, on some machine and in some order of steps. -/
structure Execution (lines : List String) where
  errands : List Errand
  ofLines : errands.filterMap Errand.line? = lines
  machine : Machine
  fresh : machine.IsFresh
  turns : List (Option Machine.Agent)
  history : List Event
  record : Record
  last : Machine
  plays : Plays ⟨perform errands {} [], machine⟩ turns history ⟨.done record, last⟩

namespace Execution

variable {lines : List String} (execution other : Execution lines)

/-- What the execution begins with. -/
abbrev first : Scene Record :=
  ⟨perform execution.errands {} [], execution.machine⟩

/-- The processes that have been started, in order. -/
abbrev started : List Nat :=
  execution.history.filterMap Event.process?

/-- Whether the processes of two executions that have been started at the same place end alike, as
far as they end. -/
def EndsAlike : Prop :=
  ∀ (place process counterpart : Nat) (status answer : WaitStatus),
    execution.started[place]? = some process → other.started[place]? = some counterpart →
    execution.first.Exits execution.turns process status →
    other.first.Exits other.turns counterpart answer → status = answer

/-- Whether in two executions the same is found, opened and started, and the same refused. -/
def JudgedAlike : Prop :=
  Agree (verdicts (deeds execution.history)) (verdicts (deeds other.history))

/-- What is told of a line's own events only is told of all the events of its session. -/
theorem filterMap_isOfLine {β : Type} (told : Event → Option β)
    (own : ∀ event : Event, event.call.isAside = true → told event = none) (history : List Event) :
    (history.filter Event.isOfLine).filterMap told = history.filterMap told := by
  induction history with
  | nil => rfl
  | cons event rest ih =>
    cases aside : event.call.isAside with
    | true => simp [Event.isOfLine, aside, own event aside, ih]
    | false =>
      rw [List.filter_cons_of_pos (by simp [Event.isOfLine, aside]), List.filterMap_cons, ih,
        List.filterMap_cons]

/-- Deeds are done for lines. -/
theorem deeds_isOfLine (history : List Event) :
    deeds (history.filter Event.isOfLine) = deeds history := by
  rw [deeds, List.filter_filter]
  refine List.filter_congr fun event _ => ?_
  obtain ⟨call, reply⟩ := event
  cases call <;> rfl

/-- The lines of an execution have been run one after another. -/
theorem exists_parts : ∃ parts, Lines {} lines parts execution.record.runs ∧
    deeds execution.history = deeds parts.flatten ∧
    execution.started = parts.flatten.filterMap Event.process? ∧
    execution.history.filterMap Event.waited? = parts.flatten.filterMap Event.waited? := by
  have unfolds := (Scene.follows_iff.mpr ⟨_, execution.plays⟩).unfolds
  obtain ⟨⟨parts, all, same⟩, _⟩ := exists_lines unfolds
  rw [execution.ofLines] at all
  refine ⟨parts, all, ?_, ?_, ?_⟩ <;> rw [← same]
  · exact (deeds_isOfLine _).symm
  · exact (filterMap_isOfLine _ (fun event aside => (Event.still_of_isAside aside).1) _).symm
  · exact (filterMap_isOfLine _ (fun event aside => (Event.still_of_isAside aside).2) _).symm

/-- The processes of an execution are looked after. -/
theorem tended : execution.first.Tended execution.turns execution.history execution.last := by
  obtain ⟨_, _, tended⟩ := execution.plays.tended
    (Scene.sound_of_drives (drives_perform execution.errands {} []) execution.fresh)
  exact tended

/-- Every reaper that has been joined has given the status of its own process, which has been
started at its own place. -/
theorem joined {number : Nat} {result : Option WaitStatus}
    (joined : (number, result) ∈ execution.record.joined) :
    ∃ reaper place status, execution.record.reapers[number]? = some reaper ∧
      (places (execution.record.runs.map (·.1.report)))[number]? = some place ∧
      execution.started[place]? = some reaper.process ∧
      result = some status ∧ execution.first.Exits execution.turns reaper.process status := by
  have unfolds := (Scene.follows_iff.mpr ⟨_, execution.plays⟩).unfolds
  obtain ⟨_, joins⟩ := exists_lines unfolds
  obtain ⟨reaper, earlier, later, found, split, handed⟩ := joins number result joined
  obtain ⟨status, same, exits⟩ := execution.tended.joins _ _ _ _ split handed
  obtain ⟨parts, all, _, started, _⟩ := execution.exists_parts
  obtain ⟨place, at_number, process⟩ := all.process_of_reaper found
  exact ⟨reaper, place, status, found, at_number, started ▸ process, same, exits⟩

variable {execution other}

/-- Where processes end alike, the waits of the lines give the same. -/
theorem EndsAlike.waitsAgree (ends : execution.EndsAlike other) :
    WaitsAgree execution.history other.history := by
  intro place process counterpart reply answer found there waited waitedThere
  obtain ⟨status, rfl, exits⟩ := execution.tended.waits process reply waited
  obtain ⟨other, rfl, exits'⟩ := other.tended.waits counterpart answer waitedThere
  rw [ends place process counterpart status other found there exits exits']

/-- Executions of the same lines in which the same is granted, and processes end alike, have the
same reports, and their reapers give the same. -/
theorem determined (judged : execution.JudgedAlike other) (ends : execution.EndsAlike other) :
    execution.record.runs.map (fun result => (result.1.report, result.2)) =
        other.record.runs.map (fun result => (result.1.report, result.2)) ∧
      ∀ number result answer, (number, result) ∈ execution.record.joined →
        (number, answer) ∈ other.record.joined → result = answer := by
  obtain ⟨parts, all, deedsOf, startedOf, waitedOf⟩ := execution.exists_parts
  obtain ⟨parts', all', deedsOf', startedOf', waitedOf'⟩ := other.exists_parts
  have waits := ends.waitsAgree
  have same := all.determined all' (by rwa [← deedsOf, ← deedsOf']) (by
    unfold WaitsAgree at waits ⊢
    rwa [← startedOf, ← startedOf', ← waitedOf, ← waitedOf'])
  refine ⟨same, fun number result answer given givenThere => ?_⟩
  obtain ⟨reaper, place, status, _, at_number, started, rfl, exits⟩ := execution.joined given
  obtain ⟨reaper', place', status', _, there, started', rfl, exits'⟩ := other.joined givenThere
  -- Reapers of one number have processes that have been started at one place.
  have reports := congrArg (List.map Prod.fst) same
  rw [List.map_map, List.map_map] at reports
  obtain rfl : place = place' :=
    Option.some.inj (at_number.symm.trans ((congrArg (fun all => (places all)[number]?)
      reports).trans there))
  rw [ends place _ _ status status' started started' exits exits']

end Execution

/-- In every order of steps, and whenever reapers are joined, or never: every process of a session
is waited for by one owner, its reaper or its line, as its stage tells, and only once; what comes of
the errands is the same in any other execution of the same lines in which the same is granted and
processes end alike; and a line comes to its end by the wait for its last process, as soon as that
is over, without anyone else making a step. -/
theorem perform_settled (errands : List Errand) {machine : Machine} (fresh : machine.IsFresh)
    {turns : List (Option Machine.Agent)} {history : List Event} {scene : Scene Record}
    (plays : Plays ⟨perform errands {} [], machine⟩ turns history scene) :
    Scene.Attended ⟨perform errands {} [], machine⟩ turns history scene ∧
    (∀ execution other : Execution (errands.filterMap Errand.line?),
      (∀ number result, (number, result) ∈ execution.record.joined →
        ∃ reaper place status, execution.record.reapers[number]? = some reaper ∧
          (places (execution.record.runs.map (·.1.report)))[number]? = some place ∧
          execution.started[place]? = some reaper.process ∧ result = some status ∧
          execution.first.Exits execution.turns reaper.process status) ∧
      (execution.JudgedAlike other → execution.EndsAlike other →
        execution.record.runs.map (fun result => (result.1.report, result.2)) =
            other.record.runs.map (fun result => (result.1.report, result.2)) ∧
          ∀ number result answer, (number, result) ∈ execution.record.joined →
            (number, answer) ∈ other.record.joined → result = answer)) ∧
    ∀ (session : Session) (line : String) (machine : Machine) (turns : List (Option Machine.Agent))
      (history : List Event) (scene : Scene (Run × Session)),
      Plays ⟨session.run line, machine⟩ turns history scene →
        Attends (session.readings line) history scene.flow ∧
        Returns ⟨session.run line, machine⟩ turns history scene := by
  refine ⟨?_, fun execution other => ⟨fun number result => execution.joined,
    Execution.determined⟩, ?_⟩
  · obtain ⟨ledger, sound, tended⟩ :=
      plays.tended (Scene.sound_of_drives (drives_perform errands {} []) fresh)
    exact tended.attended sound
  · intro session line machine turns history scene plays
    exact ⟨attends_of_unfolds (Scene.follows_iff.mpr ⟨_, plays⟩).unfolds, returns_of_plays plays⟩

end Session

/-- The result of a flow that is at its end. -/
def Flow.result? {α : Type} : Flow α → Option α
  | .done result => some result
  | .ask .. => none

/-- A machine with one program, which ends with the number of its arguments as its code. -/
def Machine.pair : Machine :=
  { Machine.relay with image := fun _ => some fun arguments _ => .exit (.ofNat arguments.length) }

/-- The interpreter comes as far as to wait for the second process, which is over before the first;
the line ends before that, too. -/
def Machine.pairTurns : List (Option Agent) :=
  List.replicate 7 none ++ [some (.process 2), none, some (.process 1), some (.reaper 0),
    some (.reaper 0), none]

theorem Session.perform_settled_pair : ∃ history record last,
    (⟨perform [.run "a x | b", .join 0] {} [], .pair⟩ : Scene Record).play Machine.pairTurns [] =
      some (history, ⟨.done record, last⟩) ∧
    record.runs.map (·.1.outcome) = [.exited 1] ∧ record.joined = [(0, some (.ofCode 2))] ∧
    Scene.Attended ⟨perform [.run "a x | b", .join 0] {} [], .pair⟩ Machine.pairTurns history
      ⟨.done record, last⟩ := by
  -- The run is carried out, and what comes of it is read off.
  have played : ((⟨perform [.run "a x | b", .join 0] {} [], .pair⟩ : Scene Record).play
      Machine.pairTurns []).map (fun result => result.2.flow.result?.map fun record =>
        (record.runs.map (·.1.outcome), record.joined)) =
      some (some ([.exited 1], [(0, some (.ofCode 2))])) := by decide +kernel
  obtain ⟨⟨history, flow, last⟩, reached, told⟩ := Option.map_eq_some_iff.mp played
  cases flow with
  | ask => cases told
  | done record =>
    obtain ⟨outcomes, joined⟩ := Prod.mk.inj (Option.some.inj told)
    exact ⟨history, record, last, reached, outcomes, joined,
      (perform_settled [.run "a x | b", .join 0] (Machine.isFresh_relay _)
        (.play .refl reached)).1⟩

end LineShell
