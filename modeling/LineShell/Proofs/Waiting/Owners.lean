import LineShell.Proofs.Handles.Moments
import LineShell.Proofs.Waiting.Returning
import Mathlib.Data.List.Nodup

/-! Owners: every process that is started gets one who waits for it, and nobody else does. -/

namespace LineShell

variable {α : Type}

namespace Event

/-- What has nothing to do with a line starts nothing and waits for nothing. -/
theorem still_of_isAside {event : Event} (aside : event.call.isAside = true) :
    event.process? = none ∧ event.waited? = none := by
  obtain ⟨call, reply⟩ := event
  cases call <;> first | exact ⟨rfl, rfl⟩ | cases aside

/-- What is refused starts nothing and waits for nothing. -/
theorem still_of_error? {event : Event} {error : LineError} (refused : event.error? = some error) :
    event.process? = none ∧ event.waited? = none := by
  unfold error? at refused
  split at refused <;> first | exact ⟨rfl, rfl⟩ | cases refused

end Event

namespace Ledger

variable {history : List Event} {ledger before after : Ledger} {event : Event}

/-- The processes that lines have waited for themselves. -/
def waitedFor (history : List Event) : List Nat :=
  (history.filterMap Event.waited?).map (·.1)

/-- A step starts a process, or brings the one that is there to its owner. -/
theorem Step.owners (step : before.Step event after) :
    (waitedFor [event] ++ handedOn [event] ++ after.process?.toList).Perm
      (event.process?.toList ++ before.process?.toList) := by
  -- Only a start, a hand-over and an answered wait count, and each moves its one process.
  cases step with
  | found awaits | unfound awaits =>
    rw [process?_of_awaits awaits]
    exact .refl _
  | refused refused known =>
    simp [handedOn, waitedFor, Event.reap?_of_error? refused, Event.still_of_error? refused,
      process?]
  | aside awaits aside =>
    simp [handedOn, waitedFor, Event.reap?_of_isAside aside, Event.still_of_isAside aside,
      process?_of_awaits awaits]
  | closed | input | output | pipe | abandoned | unstarted | last | started | reaped | waited =>
    exact .refl _

/-- Every process that has been started has got one owner, or is about to. -/
theorem Books.owners (books : Books history ledger) :
    (history.filterMap Event.process?).Nodup ∧
      (waitedFor history ++ handedOn history ++ ledger.process?.toList).Perm
        (history.filterMap Event.process?) := by
  induction books with
  | start => exact ⟨.nil, .refl _⟩
  | @next history before after event books isNew step ih =>
    obtain ⟨nodup, perm⟩ := ih
    constructor
    · rw [Event.filterMap_concat]
      refine List.nodup_append.mpr ⟨nodup, by cases event.process? <;> simp, ?_⟩
      rintro process old other started rfl
      exact isNew.process process (Option.mem_toList.mp started) old
    · -- What the step moves is added to what had been moved before.
      refine List.perm_iff_count.mpr fun process => ?_
      have moved := step.owners.count_eq process
      have known := perm.count_eq process
      have waited : waitedFor (history ++ [event]) = waitedFor history ++ waitedFor [event] := by
        simp [waitedFor]
      have handed : handedOn (history ++ [event]) = handedOn history ++ handedOn [event] := by
        simp [handedOn]
      simp only [waited, handed, Event.filterMap_concat, List.count_append] at moved known ⊢
      omega

/-- The process that a ledger has launched is what its flow sees to next. -/
theorem Keeps.process?_iff {post : Ledger → α → Prop} {flow : Flow α} (keeps : ledger.Keeps post flow)
    (rests : ∀ left result, post left result → left.Rests) (process : Nat) :
    ledger.process? = some process ↔
      flow.upcoming? = some (.wait process) ∨
        ∃ keeps, flow.upcoming? = some (.reap process keeps) := by
  -- There must be a step for every answer, so a refusal shows which requests are possible.
  induction flow generalizing ledger with
  | done result =>
    rw [process?_of_awaits (rests _ _ keeps).2]
    simp [Flow.upcoming?]
  | ask call next ih =>
    obtain ⟨after, step, keeps⟩ := keeps (Machine.refuse call)
    have further := ih _ keeps
    generalize Machine.refuse call = reply at step further
    cases step with
    | closed => exact further
    | abandoned => exact further
    | found awaits | unfound awaits =>
      rw [process?_of_awaits awaits]
      simp [Flow.upcoming?]
    | input | output | pipe | last | started | unstarted => simp [process?, Flow.upcoming?]
    | reaped => simp [process?, Flow.upcoming?, eq_comm]
    | waited => simp [process?, Flow.upcoming?, eq_comm]
    | refused refused known =>
      have within := Event.isWithinStage_of_error? refused known
      rw [Flow.upcoming?_of_isWithinStage within]
      cases call with
      | openInput | openOutput | pipe | spawn => simp [process?]
      | _ => cases within
    | aside awaits aside =>
      rw [process?_of_awaits awaits]
      cases call with
      | join | read | write | flush | report => simp [Flow.upcoming?]
      | _ => cases aside

end Ledger

namespace Machine

variable {machine after : Machine}

/-- A process that is spared is not reaped. -/
theorem Spares.isReaped {taken : Option Nat} (spares : Spares taken machine after) {number : Nat}
    {process : Process} (found : machine.process? number = some process)
    (own : process.parent = 0) (untaken : some number ≠ taken) (reaped : after.IsReaped number) :
    machine.IsReaped number := by
  obtain ⟨other, there, _, continues⟩ := spares number process found own untaken
  obtain ⟨same, at_number, progress⟩ := reaped
  cases there.symm.trans at_number
  refine ⟨process, found, ?_⟩
  cases alive : process.alive with
  | true => exact absurd progress (continues.alive alive)
  | false => exact (continues.ended alive).symm.trans progress

/-- A join is answered with what a task for the process has finished with, if there is one. -/
theorem cases_of_join {number : Nat} {result : Option WaitStatus}
    (answered : machine.answer (.join number) = some (result, after)) :
    (∃ task ∈ machine.reapers, task.process = number ∧ task.progress = .finished result) ∨
      ∀ task ∈ machine.reapers, task.process ≠ number := by
  simp only [answer] at answered
  split at answered
  · rename_i absent
    exact .inr fun task there same => List.find?_eq_none.mp absent task there (decide_eq_true same)
  · rename_i task found
    split at answered
    any_goals cases answered
    rename_i finished
    exact .inl ⟨task, List.mem_of_find?_eq_some found,
      of_decide_eq_true (List.find?_some found :), finished⟩

/-- A process that an answer has started is the interpreter's own, and runs. -/
theorem own_of_answered {call : Call} {reply : call.Reply} {number : Nat}
    (answered : machine.answer call = some (reply, after))
    (started : (⟨call, reply⟩ : Event).process? = some number) :
    ∃ process behaviour, after.process? number = some process ∧ process.parent = 0 ∧
      process.progress = .running behaviour := by
  cases call with
  | spawn command =>
    cases reply with
    | error cause => cases started
    | ok process =>
      cases started
      exact own_of_start (Option.some.inj answered)
  | _ => cases started

end Machine

namespace Scene

variable {first : Scene α} {turns : List (Option Machine.Agent)} {history : List Event}
  {ledger : Ledger} {scene : Scene α} {machine after : Machine} {number : Nat}

/-- What has been over at some moment has been over at some moment of any longer schedule. -/
theorem Exits.append {status : WaitStatus} (exits : first.Exits turns number status)
    (later : List (Option Machine.Agent)) : first.Exits (turns ++ later) number status := by
  obtain ⟨earlier, others, history, scene, rfl, moment⟩ := exits
  exact ⟨earlier, others ++ later, history, scene, List.append_assoc .., moment⟩

/-- Whether the wait for a process has been answered: to a line, or to a reaper. -/
def Taken (history : List Event) (machine : Machine) (process : Nat) : Prop :=
  process ∈ Ledger.waitedFor history ∨
    ∃ task ∈ machine.reapers, task.process = process ∧ task.progress ≠ .waiting

/-- What has been given away stays so after further events, as long as all tasks stay. -/
theorem Taken.append (taken : Taken history machine number)
    (reapers : machine.reapers ⊆ after.reapers) (later : List Event) :
    Taken (history ++ later) after number := by
  refine taken.imp (fun waited => ?_) ?_
  · rw [Ledger.waitedFor, List.filterMap_append, List.map_append]
    exact List.mem_append_left _ waited
  · rintro ⟨task, there, rest⟩
    exact ⟨task, reapers there, rest⟩

/-- How the processes of a session are looked after: each is the interpreter's own, and is reaped
only by its owner, who gets the status with which it has ended. -/
structure Tended (first : Scene α) (turns : List (Option Machine.Agent)) (history : List Event)
    (machine : Machine) : Prop where
  own : ∀ number ∈ history.filterMap Event.process?,
    ∃ process, machine.process? number = some process ∧ process.parent = 0
  taken : ∀ number ∈ history.filterMap Event.process?,
    machine.IsReaped number → Taken history machine number
  tasks : ∀ task ∈ machine.reapers, ∀ result,
    task.progress = .closing result ∨ task.progress = .finished result →
      ∃ status, result = some status ∧ first.Exits turns task.process status
  waits : ∀ number reply, (number, reply) ∈ history.filterMap Event.waited? →
    ∃ status, reply = .ok status ∧ first.Exits turns number status
  joins : ∀ earlier number reply later, history = earlier ++ ⟨.join number, reply⟩ :: later →
    number ∈ Ledger.handedOn earlier →
      ∃ status, reply = some status ∧ first.Exits turns number status

/-- What the tasks have come to is still what it has to be in a longer schedule. -/
theorem Tended.tasks_later (tended : Tended first turns history machine)
    (later : List (Option Machine.Agent)) :
    ∀ task ∈ machine.reapers, ∀ result,
      task.progress = .closing result ∨ task.progress = .finished result →
        ∃ status, result = some status ∧ first.Exits (turns ++ later) task.process status := by
  intro task there result progress
  obtain ⟨status, same, exits⟩ := tended.tasks task there result progress
  exact ⟨status, same, exits.append later⟩

/-- What has come of waits and joins stays so in a longer schedule. -/
theorem Tended.onto (tended : Tended first turns history machine)
    (later : List (Option Machine.Agent))
    (own : ∀ number ∈ history.filterMap Event.process?,
      ∃ process, after.process? number = some process ∧ process.parent = 0)
    (taken : ∀ number ∈ history.filterMap Event.process?,
      after.IsReaped number → Taken history after number)
    (tasks : ∀ task ∈ after.reapers, ∀ result,
      task.progress = .closing result ∨ task.progress = .finished result →
        ∃ status, result = some status ∧ first.Exits (turns ++ later) task.process status) :
    Tended first (turns ++ later) history after where
  own := own
  taken := taken
  tasks := tasks
  waits number reply waited := by
    obtain ⟨status, same, exits⟩ := tended.waits number reply waited
    exact ⟨status, same, exits.append later⟩
  joins earlier number reply others split handed := by
    obtain ⟨status, same, exits⟩ := tended.joins earlier number reply others split handed
    exact ⟨status, same, exits.append later⟩

/-- What happens beside the interpreter is no concern of its processes' owners. -/
theorem Tended.beside (tended : Tended first turns history machine)
    (beside : machine.Beside after) (later : List (Option Machine.Agent)) :
    Tended first (turns ++ later) history after := by
  -- Beside the interpreter no process changes hands, and none is reaped that is its own.
  refine tended.onto later ?_ ?_ (beside.reapers ▸ tended.tasks_later later)
  · intro number started
    obtain ⟨process, found, own⟩ := tended.own number started
    obtain ⟨other, there, still, _⟩ := beside.spares number process found own nofun
    exact ⟨other, there, still⟩
  · intro number started reaped
    obtain ⟨process, found, own⟩ := tended.own number started
    have before := tended.taken number started (beside.spares.isReaped found own nofun reaped)
    rwa [Taken, beside.reapers]

/-- The process of a task has been handed on. -/
theorem Sound.handed_of_task (sound : Sound history ledger scene) {task : ReaperTask}
    (there : task ∈ scene.machine.reapers) : task.process ∈ Ledger.handedOn history := by
  rw [Ledger.handedOn, ← sound.reapers]
  simpa using ⟨task, there, rfl⟩

/-- A process for which a reaper waits has not been given away. -/
theorem Sound.not_taken (sound : Sound history ledger scene) {task : ReaperTask}
    (there : task ∈ scene.machine.reapers) (waiting : task.progress = .waiting) :
    ¬ Taken history scene.machine task.process := by
  have handed := sound.handed_of_task there
  obtain ⟨nodup, perm⟩ := sound.books.owners
  have owners := perm.nodup_iff.mpr nodup
  rintro (waited | ⟨other, present, same, progress⟩)
  · -- Nobody is handed on for whom a line has waited.
    exact (List.nodup_append.mp (List.nodup_append.mp owners).1).2.2 _ waited _ handed rfl
  · -- No process is handed on twice.
    have once := (List.nodup_append.mp (List.nodup_append.mp owners).1).2.1
    rw [Ledger.handedOn, ← sound.reapers, List.map_map] at once
    obtain rfl := List.inj_on_of_nodup_map once present there same
    exact progress waiting

/-- A process that has just been launched has not been given away. -/
theorem Sound.not_taken_of_launched (sound : Sound history ledger scene)
    (launched : ledger.process? = some number) : ¬ Taken history scene.machine number := by
  obtain ⟨nodup, perm⟩ := sound.books.owners
  have owners := perm.nodup_iff.mpr nodup
  have apart := (List.nodup_append.mp owners).2.2
  have here : number ∈ ledger.process?.toList := by simp [launched]
  rintro (waited | ⟨task, there, rfl, _⟩)
  · exact apart _ (List.mem_append_left _ waited) _ here rfl
  · exact apart _ (List.mem_append_right _ (sound.handed_of_task there)) _ here rfl

/-- What has been given away stays so while a task goes on. -/
theorem Taken.set {index : Nat} {task other : ReaperTask} (taken : Taken history machine number)
    (found : machine.reapers[index]? = some task)
    (reapers : after.reapers = machine.reapers.set index other)
    (same : other.process = task.process) (progress : other.progress ≠ .waiting) :
    Taken history after number := by
  refine taken.imp_right ?_
  rintro ⟨owner, there, rfl, past⟩
  rw [reapers]
  obtain ⟨inside, rfl⟩ := List.getElem?_eq_some_iff.mp found
  -- The owner is another task, or the one that goes on.
  obtain ⟨place, within, rfl⟩ := List.mem_iff_getElem.mp there
  by_cases at_index : index = place
  · subst at_index
    exact ⟨other, List.mem_set inside other, same, progress⟩
  · exact ⟨machine.reapers[place], List.mem_iff_getElem.mpr
      ⟨place, by simpa using within, by simp [at_index]⟩, rfl, past⟩

/-- A task that goes on with the status of its process leaves all tasks with theirs. -/
theorem Tended.tasks_set (tended : Tended first turns history machine) {index : Nat}
    {task other : ReaperTask} {status : WaitStatus} {later : List (Option Machine.Agent)}
    (same : other.process = task.process)
    (exits : first.Exits (turns ++ later) task.process status)
    (progress : ∀ result, other.progress = .closing result ∨ other.progress = .finished result →
      result = some status) :
    ∀ next ∈ machine.reapers.set index other, ∀ result,
      next.progress = .closing result ∨ next.progress = .finished result →
        ∃ status, result = some status ∧ first.Exits (turns ++ later) next.process status := by
  intro next member result known
  rcases List.mem_or_eq_of_mem_set member with old | rfl
  · exact tended.tasks_later later next old result known
  · exact ⟨status, progress result known, same ▸ exits⟩

/-- A task that makes a step gets the status of its own process. -/
theorem Tended.stepReaper {flow : Flow α} (tended : Tended first turns history machine)
    (sound : Sound history ledger ⟨flow, machine⟩)
    (plays : Plays first turns history ⟨flow, machine⟩) {index : Nat}
    (stepped : machine.stepReaper index = some after) :
    Tended first (turns ++ [some (.reaper index)]) history after := by
  obtain ⟨task, found, step⟩ := Machine.cases_of_stepReaper stepped
  have there : task ∈ machine.reapers := List.mem_of_getElem? found
  have handed := sound.handed_of_task there
  have started : task.process ∈ history.filterMap Event.process? :=
    sound.books.owners.2.subset (List.mem_append_left _ (List.mem_append_right _ handed))
  cases step with
  | misses waiting missing =>
    -- The process is there, and nobody else has got its status.
    exact absurd (tended.taken _ started (missing (sound.isSome_of_task there)))
      (sound.not_taken there waiting)
  | @collects process status waiting at_number ended =>
    -- The process is reaped from now on, and given away to this task. All others are as before.
    have exits : first.Exits (turns ++ [some (.reaper index)]) task.process status :=
      ⟨turns, _, history, _, rfl, plays, process, at_number, ended⟩
    have spares : machine.Spares (some task.process)
        (machine.setProcess task.process { process with progress := .reaped }) :=
      .setProcess at_number fun _ other => absurd rfl other
    have now (number : Nat) :=
      Machine.process?_setProcess at_number { process with progress := .reaped } number
    obtain ⟨same, at_same, own⟩ := tended.own _ started
    cases at_number.symm.trans at_same
    refine tended.onto _ (fun number given => ?_) (fun number given reaped => ?_)
      (tended.tasks_set rfl exits ?_)
    · by_cases here : number = task.process
      · exact ⟨_, (now number).trans (if_pos here), own⟩
      · obtain ⟨before, at_before, parent⟩ := tended.own number given
        exact ⟨before, ((now number).trans (if_neg here)).trans at_before, parent⟩
    · by_cases here : number = task.process
      · exact .inr ⟨_, List.mem_set (List.getElem?_eq_some_iff.mp found).1 _, here.symm,
          ReaperProgress.noConfusion⟩
      · obtain ⟨before, at_before, parent⟩ := tended.own number given
        have earlier := spares.isReaped at_before parent (by simpa using here) reaped
        exact (tended.taken number given earlier).set found rfl rfl ReaperProgress.noConfusion
    · rintro result (closing | finished)
      · cases closing
        rfl
      · cases finished
  | @closes status closing =>
    -- The status has been got before, and what is given up is no process.
    obtain ⟨given, rfl, exits⟩ := tended.tasks task there status (.inl closing)
    refine tended.onto _ tended.own (fun number given reaped => ?_)
      (tended.tasks_set rfl (exits.append _) ?_)
    · exact (tended.taken number given reaped).set found rfl rfl ReaperProgress.noConfusion
    · rintro result (closing | finished)
      · cases closing
      · cases finished
        rfl

/-- What has come of waits and joins is known after one more event if it is known of that. -/
theorem Tended.extend (tended : Tended first turns history machine)
    (later : List (Option Machine.Agent)) {event : Event}
    (own : ∀ number ∈ (history ++ [event]).filterMap Event.process?,
      ∃ process, after.process? number = some process ∧ process.parent = 0)
    (taken : ∀ number ∈ (history ++ [event]).filterMap Event.process?,
      after.IsReaped number → Taken (history ++ [event]) after number)
    (tasks : ∀ task ∈ after.reapers, ∀ result,
      task.progress = .closing result ∨ task.progress = .finished result →
        ∃ status, result = some status ∧ first.Exits (turns ++ later) task.process status)
    (wait : ∀ number reply, event.waited? = some (number, reply) →
      ∃ status, reply = .ok status ∧ first.Exits (turns ++ later) number status)
    (join : ∀ number reply, event = ⟨.join number, reply⟩ → number ∈ Ledger.handedOn history →
      ∃ status, reply = some status ∧ first.Exits (turns ++ later) number status) :
    Tended first (turns ++ later) (history ++ [event]) after where
  own := own
  taken := taken
  tasks := tasks
  waits number reply waited := by
    rw [Event.filterMap_concat, List.mem_append] at waited
    rcases waited with old | new
    · obtain ⟨status, same, exits⟩ := tended.waits number reply old
      exact ⟨status, same, exits.append later⟩
    · exact wait number reply (Option.mem_toList.mp new)
  joins earlier number reply others split handed := by
    -- The join is the new event, or it has been answered before.
    rcases List.eq_nil_or_concat others with rfl | ⟨others, last, rfl⟩
    · obtain ⟨rfl, same⟩ := List.append_inj' split rfl
      exact join number reply (List.singleton_inj.mp same) handed
    · rw [List.concat_eq_append, ← List.cons_append, ← List.append_assoc] at split
      obtain ⟨old, _⟩ := List.append_inj' split rfl
      obtain ⟨status, same, exits⟩ := tended.joins earlier number reply others old handed
      exact ⟨status, same, exits.append later⟩

/-- A line that waits for a process is answered when that is over, and gets its status. -/
theorem Tended.ended_of_wait {next : Except IoError WaitStatus → Flow α}
    {reply : Except IoError WaitStatus} (tended : Tended first turns history machine)
    (sound : Sound history ledger ⟨.ask (.wait number) next, machine⟩)
    (found : machine.answer (.wait number) = some (reply, after)) :
    number ∈ history.filterMap Event.process? ∧ ∃ process status,
      machine.process? number = some process ∧ process.progress = .ended status ∧
      reply = .ok status ∧ after = machine.setProcess number { process with progress := .reaped } := by
  -- The process has just been launched, so nobody else can have got its status.
  have launched : ledger.process? = some number :=
    (sound.keeps.process?_iff (fun _ _ rests => rests) number).mpr (.inl rfl)
  have started : number ∈ history.filterMap Event.process? :=
    sound.books.owners.2.subset (List.mem_append_right _ (by simp [launched]))
  obtain ⟨process, there, _⟩ := tended.own number started
  refine ⟨started, process, ?_⟩
  simp only [Machine.answer, there] at found
  split at found
  any_goals cases found
  · rename_i reaped
    exact absurd (tended.taken number started ⟨process, there, reaped⟩)
      (sound.not_taken_of_launched launched)
  · rename_i status ended
    exact ⟨status, there, ended, rfl, rfl⟩

/-- An answer to a wait gives a process to the line that has waited for it. -/
theorem Tended.waited {next : Except IoError WaitStatus → Flow α}
    {reply : Except IoError WaitStatus} (tended : Tended first turns history machine)
    (sound : Sound history ledger ⟨.ask (.wait number) next, machine⟩)
    (plays : Plays first turns history ⟨.ask (.wait number) next, machine⟩)
    (found : machine.answer (.wait number) = some (reply, after)) :
    Tended first (turns ++ [none]) (history ++ [⟨.wait number, reply⟩]) after := by
  obtain ⟨_, process, status, there, ended, rfl, rfl⟩ := tended.ended_of_wait sound found
  have exits : first.Exits (turns ++ [none]) number status :=
    ⟨turns, _, history, _, rfl, plays, process, there, ended⟩
  -- Nothing changes but that the process which has been waited for is reaped.
  have now (other : Nat) :=
    Machine.process?_setProcess there { process with progress := .reaped } other
  have same : (history ++ [(⟨.wait number, .ok status⟩ : Event)]).filterMap Event.process? =
      history.filterMap Event.process? := by
    simp [Event.process?]
  -- The processes are still the interpreter's own, and each that is reaped has been given away.
  refine tended.extend [none] ?_ ?_ (tended.tasks_later [none]) ?_ ?_
  · intro other started
    rw [same] at started
    obtain ⟨before, at_before, parent⟩ := tended.own other started
    by_cases here : other = number
    · subst here
      cases there.symm.trans at_before
      exact ⟨_, (now other).trans (if_pos rfl), parent⟩
    · exact ⟨before, ((now other).trans (if_neg here)).trans at_before, parent⟩
  · intro other started reaped
    rw [same] at started
    by_cases here : other = number
    · exact .inl (by simp [Ledger.waitedFor, Event.waited?, here])
    · obtain ⟨state, at_other, progress⟩ := reaped
      rw [now other, if_neg here] at at_other
      exact (tended.taken other started ⟨state, at_other, progress⟩).append
        (List.Subset.refl _) _
  · rintro other reply ⟨⟩
    exact ⟨status, rfl, exits⟩
  · intro other reply joined
    cases joined

/-- An answer to anything else gives no process away. -/
theorem Tended.answered {call : Call} {next : call.Reply → Flow α} {reply : call.Reply}
    (tended : Tended first turns history machine)
    (sound : Sound history ledger ⟨.ask call next, machine⟩) (other : call.waited? = none)
    (found : machine.answer call = some (reply, after)) :
    Tended first (turns ++ [none]) (history ++ [⟨call, reply⟩]) after := by
  have spares := Machine.spares_of_answered found
  rw [other] at spares
  obtain ⟨effect, _, _⟩ := sound.places.answered found
  refine tended.extend [none] ?_ ?_ ?_ ?_ ?_
  · intro number started
    rw [Event.filterMap_concat, List.mem_append] at started
    rcases started with old | new
    · obtain ⟨process, at_number, own⟩ := tended.own number old
      obtain ⟨later, there, still, _⟩ := spares number process at_number own nofun
      exact ⟨later, there, still⟩
    · obtain ⟨process, _, there, own, _⟩ :=
        Machine.own_of_answered found (Option.mem_toList.mp new)
      exact ⟨process, there, own⟩
  · intro number started reaped
    rw [Event.filterMap_concat, List.mem_append] at started
    rcases started with old | new
    · obtain ⟨process, at_number, own⟩ := tended.own number old
      refine (tended.taken number old (spares.isReaped at_number own nofun reaped)).append ?_ _
      rw [effect.reapers]
      exact List.subset_append_left ..
    · -- Who has just been started runs, so nobody can have reaped it yet.
      obtain ⟨process, _, there, _, running⟩ :=
        Machine.own_of_answered found (Option.mem_toList.mp new)
      obtain ⟨same, at_number, progress⟩ := reaped
      cases there.symm.trans at_number
      cases running.symm.trans progress
  · intro task member result progress
    rw [effect.reapers] at member
    rcases List.mem_append.mp member with old | new
    · exact tended.tasks_later [none] task old result progress
    · -- A task that has just been given its process is still waiting for it.
      obtain ⟨reap, _, rfl⟩ := Option.map_eq_some_iff.mp (Option.mem_toList.mp new)
      rcases progress with closing | finished
      · cases closing
      · cases finished
  · intro number result waited
    cases call with
    | wait => cases other
    | _ => cases waited
  · intro number result joined handed
    cases joined
    obtain ⟨task, there, rfl, finished⟩ | absent := Machine.cases_of_join found
    · exact tended.tasks_later [none] task there result (.inr finished)
    · -- Who has been handed on has a task.
      rw [Ledger.handedOn, ← sound.reapers, List.map_map] at handed
      obtain ⟨task, there, same⟩ := List.mem_map.mp handed
      exact absurd same (absent task there)

/-- At every moment of a session all its processes are looked after. -/
theorem Plays.tended (plays : Plays first turns history scene) (start : Sound [] {} first) :
    ∃ ledger, Sound history ledger scene ∧ Tended first turns history scene.machine := by
  -- By induction on the schedule. Soundness goes along, as who owns what is read off its ledger.
  induction plays with
  | refl =>
    have none_left : first.machine.reapers = [] := List.map_eq_nil_iff.mp start.reapers
    refine ⟨{}, start, nofun, nofun, ?_, nofun, ?_⟩
    · rw [none_left]
      exact nofun
    · intro earlier number reply later split
      simp at split
  | @answered turns history call next machine after reply plays found ih =>
    obtain ⟨ledger, sound, tended⟩ := ih
    obtain ⟨later, goes_on⟩ := sound.answered found
    refine ⟨later, goes_on, ?_⟩
    cases waited : call.waited? with
    | none => exact tended.answered sound waited found
    | some number =>
      obtain rfl : call = .wait number := by
        cases call <;> cases waited
        rfl
      exact tended.waited sound plays found
  | @moved turns history flow machine after plays agent found ih =>
    obtain ⟨ledger, sound, tended⟩ := ih
    cases agent with
    | process number =>
      have beside := Machine.beside_of_stepProcess found
      exact ⟨ledger, sound.onward beside.toOnward, tended.beside beside _⟩
    | reaper index =>
      exact ⟨ledger, sound.stepReaper found, tended.stepReaper sound plays found⟩
    | clock =>
      have beside := Machine.beside_of_stepClock found
      exact ⟨ledger, sound.onward beside.toOnward, tended.beside beside _⟩

end Scene

end LineShell
