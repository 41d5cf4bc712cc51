import LineShell.Proofs.Streams.Running

/-! Stalling: a plain line to which everything is granted stops only when it is done. -/

namespace LineShell

namespace Machine

variable {machine : Machine} {number : Nat}

/-- Reading a pipe has to wait when nothing is on its way, but may still come. -/
theorem blocked_of_readHandle {limit : Nat} (there : number < machine.pipes.length)
    (blocked : machine.readHandle (.reader number) limit = none) :
    machine.transit number = [] ∧ machine.hasWriter number = true := by
  have found := List.getElem?_eq_getElem there
  simp only [readHandle, found] at blocked
  split at blocked
  · rename_i empty
    split at blocked
    · rename_i writer
      exact ⟨by simp [transit, found, empty], writer⟩
    · cases blocked
  · cases blocked

/-- Writing a pipe has to wait only when something is on its way. -/
theorem blocked_of_writeHandle {data : Bytes} {limit : Option Nat}
    (there : number < machine.pipes.length)
    (blocked : machine.writeHandle (.writer number) data limit = none) :
    machine.transit number ≠ [] := by
  have found := List.getElem?_eq_getElem there
  intro empty
  have content : machine.pipes[number].content = [] := by simpa [transit, found] using empty
  simp only [writeHandle, found, content, List.length_nil, Nat.sub_zero] at blocked
  split at blocked
  · cases blocked
  split at blocked
  · cases blocked
  split at blocked
  · rename_i full
    -- There is room for more than is ever written as a whole.
    simp only [Bool.or_eq_true, decide_eq_true_eq, Bool.and_eq_true] at full
    unfold pipeCapacity pipeAtom at full
    omega
  · cases blocked

/-- A process has to wait with its writing only for what it writes. -/
theorem blocked_of_serve {process : Process} {descriptor : Nat} {handle : Handle} {data : Bytes}
    (reached : process.handle? descriptor = some handle)
    (blocked : machine.serve number process (.write descriptor data) = none) :
    machine.writeHandle handle data process.fileLimit = none := by
  simp only [serve, reached] at blocked
  split at blocked
  · cases blocked
  · exact blocked

end Machine

namespace Chain

variable {chain : Chain} {machine : Machine} {unsent : Nat → Bytes}

/-- A stage that cannot go on waits for the pipe before it, which is empty but may still be written,
or it has read everything and waits for the pipe behind it, which is not empty. -/
theorem Passing.blocked (passing : chain.Passing machine unsent) {place : Nat} {process : Process}
    (found : machine.processes[place]? = some process) (alive : process.alive = true)
    (stuck : machine.stepProcess (place + 1) = none) :
    (∃ before, place = before + 1 ∧ machine.transit (chain.pipe + before) = [] ∧
        machine.hasWriter (chain.pipe + before) = true) ∨
      place + 1 < chain.filters.length ∧ machine.transit (chain.pipe + place) ≠ [] ∧
        chain.unread machine unsent place = [] := by
  have inside : place < machine.processes.length := (List.getElem?_eq_some_iff.mp found).1
  have among := Nat.lt_of_lt_of_le inside passing.few
  have does := passing.stages place _ (List.getElem?_eq_getElem among)
  have owns := passing.owns place process found
  have known : machine.process? (place + 1) = some process := found
  rw [found, Option.map_some] at does
  generalize running : process.progress = progress at does
  generalize finished : chain.unread machine unsent place = unread at does ⊢
  generalize pending : unsent place = rest at does
  cases does with
  | ended | reaped => simp [Process.alive, running] at alive
  | gathering gathers =>
    left
    cases gathers with
    | read asked further closing =>
      rw [Machine.stepProcess_read known running, Option.map_eq_none_iff, Machine.serve,
        (owns.handle? alive).1] at stuck
      cases place with
      | zero =>
        -- A file can always be read.
        have fed := passing.fed (Nat.lt_of_le_of_lt (Nat.zero_le _) inside)
        have opening := List.getElem?_eq_getElem fed
        obtain ⟨file, readable⟩ := passing.ports.feed _ opening
        have text := passing.ports.source
        rw [← file] at text
        simp [inlet, Machine.readHandle_file opening readable text] at stuck
      | succ before =>
        have there := passing.made before (Nat.lt_of_succ_lt inside) among
        exact ⟨before, rfl, Machine.blocked_of_readHandle there stuck⟩
  | writing writes =>
    right
    cases writes with
    | exit => simp [Machine.stepProcess_exit known running] at stuck
    | @write _ data _ filled =>
      rw [Machine.stepProcess_write known running, Option.map_eq_none_iff] at stuck
      have blocked := Machine.blocked_of_serve (owns.handle? alive).2 stuck
      rw [owns.unlimited, outlet] at blocked
      by_cases last : place + 1 = chain.filters.length
      · -- A file can always be written.
        have all := Nat.le_antisymm passing.few (last ▸ inside)
        have opening := List.getElem?_eq_getElem (passing.drained all)
        obtain ⟨file, writable, content, there, ending, _⟩ := passing.ports.drain _ opening
        rw [← file] at there
        obtain ⟨_, written, _⟩ := Machine.writeHandle_ending opening writable there ending filled
        simp [last, written] at blocked
      · have inner : place + 1 < chain.filters.length := Nat.lt_of_le_of_ne among last
        rw [if_neg last] at blocked
        exact ⟨inner, Machine.blocked_of_writeHandle (passing.made place inside inner) blocked, rfl⟩

/-- When all stages have been started and none can go on, one that is not over waits for input that
may still come. -/
theorem Passing.starved (passing : chain.Passing machine unsent)
    (all : machine.processes.length = chain.filters.length)
    (stuck : ∀ number, machine.stepProcess number = none) {place : Nat} {process : Process}
    (found : machine.processes[place]? = some process) (alive : process.alive = true) :
    ∃ before, place = before + 1 ∧ machine.hasWriter (chain.pipe + before) = true := by
  rcases passing.blocked found alive (stuck _) with
    ⟨before, rfl, _, writer⟩ | ⟨inner, filled, _⟩
  · exact ⟨before, rfl, writer⟩
  · -- The stage behind it has something to read, so it is not over, and it can go on.
    have reading := List.getElem?_eq_getElem (Nat.lt_of_lt_of_eq inner all.symm)
    have does := passing.stages (place + 1) _ (List.getElem?_eq_getElem inner)
    rw [reading, Option.map_some] at does
    have unfinished : chain.unread machine unsent (place + 1) ≠ [] := by
      rw [unread_succ]
      exact List.append_ne_nil_of_left_ne_nil filled _
    have goes_on : machine.processes[place + 1].alive = true := by
      cases gone : machine.processes[place + 1].alive with
      | true => rfl
      | false => exact absurd (does.exhausted gone).1 unfinished
    rcases passing.blocked reading goes_on (stuck _) with ⟨_, same, empty, _⟩ | ⟨_, _, finished⟩
    · cases same
      exact absurd empty filled
    · exact absurd finished unfinished

/-- When all stages have been started and none can go on, all are over, if pipes can no longer be
written when the stages before them are over. -/
theorem Passing.ended (passing : chain.Passing machine unsent)
    (all : machine.processes.length = chain.filters.length)
    (stuck : ∀ number, machine.stepProcess number = none)
    (alone : ∀ place, place + 1 < chain.filters.length →
      (∀ process, machine.processes[place]? = some process → process.alive = false) →
        machine.hasWriter (chain.pipe + place) = false)
    {place : Nat} {process : Process} (found : machine.processes[place]? = some process) :
    process.alive = false := by
  -- By induction on the place: with all stages before it over, a stage can only see the end.
  induction place generalizing process with
  | zero =>
    refine Bool.eq_false_iff.mpr fun alive => ?_
    obtain ⟨_, absurd, _⟩ := passing.starved all stuck found alive
    cases absurd
  | succ place ih =>
    refine Bool.eq_false_iff.mpr fun alive => ?_
    obtain ⟨_, same, writer⟩ := passing.starved all stuck found alive
    cases same
    have inner : place + 1 < chain.filters.length :=
      all ▸ (List.getElem?_eq_some_iff.mp found).1
    rw [alone place inner fun _ => ih] at writer
    cases writer

/-- A pipe whose stage is over can no longer be written, unless the interpreter can write it. -/
theorem Passing.hasWriter_eq_false (passing : chain.Passing machine unsent) {place : Nat}
    (gone : ∀ process, machine.processes[place]? = some process → process.alive = false)
    (own : ∀ handle ∈ [machine.stdin, machine.stdout, machine.stderr],
      handle.writes (chain.pipe + place) = false)
    (held : ∀ handle ∈ machine.held, handle.writes (chain.pipe + place) = false) :
    machine.hasWriter (chain.pipe + place) = false := by
  have stages : machine.processes.any (fun process =>
      process.handles.any fun entry => entry.2.writes (chain.pipe + place)) = false := by
    rw [List.any_eq_false]
    intro process member
    obtain ⟨other, found⟩ := List.mem_iff_getElem?.mp member
    rw [(passing.owns other process found).handles]
    cases alive : process.alive with
    | false => simp
    | true =>
      -- A stage that is alive writes its own outlet only, which is another pipe.
      have apart : other ≠ place := by
        rintro rfl
        rw [gone process found] at alive
        cases alive
      have inlet : (chain.inlet other).writes (chain.pipe + place) = false := by
        cases other <;> simp [Chain.inlet, Handle.writes]
      have outlet : (chain.outlet other).writes (chain.pipe + place) = false := by
        unfold Chain.outlet
        split <;> simp [Handle.writes, apart]
      have stderr := own machine.stderr (by simp)
      simp [inlet, outlet, stderr]
  have none_held : machine.held.any (·.writes (chain.pipe + place)) = false :=
    List.any_eq_false.mpr fun handle member => by simp [held handle member]
  simp only [Machine.hasWriter, Machine.anyHandle, own _ (List.mem_cons_self ..),
    own machine.stdout (by simp), own machine.stderr (by simp), none_held, stages, Bool.or_false]

end Chain

namespace Scene

variable {α : Type}

/-- Whether nothing more can happen. -/
def Stalls (scene : Scene α) : Prop :=
  ∀ other, ¬ scene.Next other

/-- Nothing that the interpreter asks for is answered any more. -/
theorem Stalls.answer_eq_none {call : Call} {next : call.Reply → Flow α} {machine : Machine}
    (stalls : Stalls ⟨.ask call next, machine⟩) : machine.answer call = none := by
  cases found : machine.answer call with
  | none => rfl
  | some answer => exact absurd (.answered found) (stalls ⟨next answer.1, answer.2⟩)

/-- No agent makes a step any more. -/
theorem Stalls.step_eq_none {scene : Scene α} (stalls : scene.Stalls) (agent : Machine.Agent) :
    scene.machine.step agent = none := by
  cases found : scene.machine.step agent with
  | none => rfl
  | some after => exact absurd (.moved agent found) (stalls ⟨scene.flow, after⟩)

end Scene

/-- A task that cannot go on is done, if its process is over. -/
theorem Machine.finished_of_stuck {machine : Machine} {index : Nat} {task : ReaperTask}
    (found : machine.reapers[index]? = some task)
    (gone : ∀ process, machine.process? task.process = some process → process.alive = false)
    (stuck : machine.stepReaper index = none) : ∃ status, task.progress = .finished status := by
  simp only [stepReaper, found] at stuck
  split at stuck
  · exact ⟨_, by assumption⟩
  · cases stuck
  · split at stuck
    · cases stuck
    · -- Only for a process that is alive there is no answer.
      rename_i process at_number
      split at stuck
      any_goals cases stuck
      all_goals
        rename_i progress
        have ended := gone process at_number
        simp [Process.alive, progress] at ended

/-- The wait for a process that is over is answered. -/
theorem Machine.answer_wait_ne_none {machine : Machine} {number : Nat}
    (gone : ∀ process, machine.process? number = some process → process.alive = false) :
    machine.answer (.wait number) ≠ none := by
  simp only [answer]
  split
  · exact Option.some_ne_none _
  · rename_i process found
    have ended := gone process found
    split
    -- Only for a process that is alive the wait would be left unanswered.
    any_goals exact Option.some_ne_none _
    all_goals
      rename_i progress
      simp [Process.alive, progress] at ended

/-- The wait for a task is answered when all tasks are done. -/
theorem Machine.answer_join_ne_none {machine : Machine} {number : Nat}
    (finished : ∀ task ∈ machine.reapers, ∃ status, task.progress = .finished status) :
    machine.answer (.join number) ≠ none := by
  simp only [answer]
  split
  · exact Option.some_ne_none _
  · rename_i task found
    obtain ⟨status, progress⟩ := finished task (List.mem_of_find?_eq_some found)
    rw [progress]
    exact Option.some_ne_none _

/-- Whoever writes a pipe leads to it. -/
theorem Handle.pipe?_of_writes {handle : Handle} {pipe : Nat} (writes : handle.writes pipe = true) :
    handle.pipe? = some pipe := by
  cases handle <;> simp_all [Handle.writes, Handle.pipe?]

/-- Only the first stage can have nothing to read from. -/
theorem Wiring.eq_zero_of_source? {wiring : Wiring} {place : Nat}
    (unread : wiring.source? place = none) : place = 0 := by
  cases place with
  | zero => rfl
  | succ place => cases unread

namespace Chain

variable {chain : Chain} {wiring : Wiring} {first machine : Machine} {session : Session}
  {line : String} {errands : List Errand} {history : List Event} {ledger : Ledger} {call : Call}
  {next : call.Reply → Flow Record}

section

variable (serves : chain.Serves wiring session line errands first)
  (moment : chain.Moment wiring first history ledger ⟨.ask call next, machine⟩)
  (follows : Scene.Follows ⟨session.perform errands [], first⟩ history ⟨.ask call next, machine⟩)
  (granted : ∀ event ∈ history, event.error? = none)

include serves moment follows granted

/-- While the interpreter waits for a process or a reaper, all stages have been started, or none,
and only reapers hold anything. -/
theorem Serves.rests (waits : ∃ process, call = .wait process ∨ call = .join process) :
    ledger.handles = [] ∧ ((Tally.of history).starts = chain.filters.length ∨
      (Tally.of history).starts = 0) := by
  -- Any answer will do to see where the ledger is: a refusal is one that every request has.
  obtain ⟨later, step, _⟩ := moment.sound.keeps (Machine.refuse call)
  have fits := moment.fits
  rw [serves.counted]
  obtain ⟨process, rfl | rfl⟩ := waits
  · -- A wait comes behind the start of the last stage.
    cases step with
    | waited =>
      cases fits with
      | last all => exact ⟨rfl, .inl all⟩
    | refused refused => cases refused
    | aside _ aside => cases aside
  · -- A join stands beside the line: it comes before the first stage, or behind the last one.
    cases step with
    | refused refused => cases refused
    | aside awaits =>
      refine ⟨by simp [Ledger.handles, Phase.handles_of_awaits awaits], ?_⟩
      rcases Phase.cases_of_awaits awaits with rfl | ⟨rfl, _⟩
      · cases fits with
        | finished all => exact .inl all
        | lost begun => exact absurd begun (Session.not_lost serves.single serves.readings
            serves.plain follows.unfolds granted moment.sound.keeps rfl)
        | between _ _ source =>
          by_cases none_yet : (Tally.of history).starts = 0
          · exact .inr none_yet
          · rw [if_neg none_yet] at source
            exact .inr (Wiring.eq_zero_of_source? source.symm)
      · cases fits with
        | building _ _ _ source =>
          by_cases none_yet : (Tally.of history).starts = 0
          · exact .inr none_yet
          · rw [if_neg fun both => none_yet both.1] at source
            exact .inr (Wiring.eq_zero_of_source? source.symm)

/-- What the interpreter asks for is granted at once, unless it waits for a process or a reaper. -/
theorem Serves.waits_of_unanswered (unanswered : machine.answer call = none) :
    ∃ process, call = .wait process ∨ call = .join process := by
  -- What is due leads to files that can be opened, whatever the answer would be.
  have due := serves.isDue follows.unfolds granted (Machine.refuse call)
  have unfolds := follows.unfolds.append (Machine.refuse call)
  have kind := (session.asks_perform errands []).of_unfolds unfolds ⟨call, Machine.refuse call⟩
    (by simp)
  cases call with
  | wait process => exact ⟨process, .inl rfl⟩
  | join process => exact ⟨process, .inr rfl⟩
  | openInput path =>
    obtain ⟨_, _, _, found, known⟩ := moment.carries.findsInput serves.toSuits (due _ rfl)
    exact absurd unanswered (Machine.openHeld_ne_none found known)
  | openOutput path =>
    obtain ⟨_, _, _, _, found, _, known⟩ := moment.carries.findsOutput serves.toSuits (due _ rfl)
    exact absurd unanswered (Machine.openHeld_ne_none found known)
  | lookup | pipe | close | spawn | reap => cases unanswered
  | read | write | flush | report =>
    rcases kind with ofLine | ⟨_, join⟩
    · cases ofLine
    · cases join

omit moment granted in
/-- The interpreter itself has been there before all pipes of the line. -/
theorem Serves.own_writes (place : Nat) :
    ∀ handle ∈ [machine.stdin, machine.stdout, machine.stderr],
      handle.writes (chain.pipe + place) = false := by
  intro handle member
  refine Bool.eq_false_iff.mpr fun writes => ?_
  have outlook := follows.outlook
  rw [outlook.stdin, outlook.stdout, outlook.stderr] at member
  obtain ⟨descriptor, own⟩ : ∃ descriptor, first.ownHandle? descriptor = some handle := by
    simp only [List.mem_cons, List.not_mem_nil, or_false] at member
    rcases member with rfl | rfl | rfl
    · exact ⟨0, rfl⟩
    · exact ⟨1, rfl⟩
    · exact ⟨2, rfl⟩
  -- Its own pipes are there from the beginning, and those of the line lie behind them.
  have before := serves.fresh.own descriptor handle _ own (Handle.pipe?_of_writes writes)
  rw [serves.same, serves.pipe] at before
  omega

omit follows granted in
/-- When nothing more can happen, and a stage is over, its reaper has given up the end of
its pipe. -/
theorem Serves.held_writes (stalls : Scene.Stalls ⟨.ask call next, machine⟩)
    (resting : ledger.handles = []) {place : Nat}
    (gone : ∀ process, machine.processes[place]? = some process → process.alive = false) :
    ∀ handle ∈ machine.held, handle.writes (chain.pipe + place) = false := by
  intro handle held
  have kept := moment.sound.held.mem_iff.mp held
  rw [resting, List.nil_append] at kept
  obtain ⟨task, there, holds, keeps⟩ := Machine.exists_of_kept kept
  obtain ⟨other, same⟩ := moment.handed _ (moment.sound.reap_of_task there)
  obtain ⟨number, kept⟩ := Prod.mk.inj same
  cases keeps.symm.trans kept
  refine Bool.eq_false_iff.mpr fun writes => ?_
  obtain rfl : other = place := by simpa [Handle.writes, serves.same] using writes
  -- A task that still holds something is not done, but its process is over.
  obtain ⟨index, found⟩ := List.mem_iff_getElem?.mp there
  obtain ⟨status, finished⟩ := Machine.finished_of_stuck found (number ▸ gone)
    (stalls.step_eq_none (.reaper index))
  simp [ReaperTask.held?, finished] at holds

/-- When nothing more can happen, the processes of all stages are over. -/
theorem Serves.over_of_stalls (stalls : Scene.Stalls ⟨.ask call next, machine⟩) (number : Nat)
    (process : Process) (found : machine.process? number = some process) :
    process.alive = false := by
  have waits := serves.waits_of_unanswered moment follows granted stalls.answer_eq_none
  obtain ⟨resting, count⟩ := serves.rests moment follows granted waits
  obtain ⟨⟨unsent, passing⟩, grown⟩ := moment.carries
  cases number with
  | zero => cases found
  | succ place =>
    have inside : place < machine.processes.length := (List.getElem?_eq_some_iff.mp found).1
    -- The interpreter waits when all stages have been started, or before the first one is. Once
    -- they are, each stage in turn sees the end of its input, since nobody can write its pipe any
    -- more.
    rcases count with all | none_yet
    · refine passing.ended (grown.processes.trans all)
        (fun number => stalls.step_eq_none (.process number)) (fun place inner gone => ?_) found
      exact passing.hasWriter_eq_false gone (serves.own_writes follows place)
        (serves.held_writes moment stalls resting gone)
    · rw [grown.processes, none_yet] at inside
      exact absurd inside (Nat.not_lt_zero _)

end

/-- A plain line to which everything is granted stops only when it is done. -/
theorem Serves.done_of_stalls (serves : chain.Serves wiring session line errands first)
    {scene : Scene Record}
    (follows : Scene.Follows ⟨session.perform errands [], first⟩ history scene)
    (granted : ∀ event ∈ history, event.error? = none) (stalls : scene.Stalls) :
    ∃ record, scene.flow = .done record := by
  obtain ⟨flow, machine⟩ := scene
  cases flow with
  | done record => exact ⟨record, rfl⟩
  | ask call next =>
    obtain ⟨ledger, moment⟩ := serves.moments follows granted
    have unanswered := stalls.answer_eq_none
    have gone := serves.over_of_stalls moment follows granted stalls
    -- As all processes are over and all reapers are done, neither wait would be left unanswered.
    obtain ⟨process, rfl | rfl⟩ := serves.waits_of_unanswered moment follows granted unanswered
    · exact absurd unanswered (Machine.answer_wait_ne_none (gone process))
    · refine absurd unanswered (Machine.answer_join_ne_none fun task there => ?_)
      obtain ⟨index, found⟩ := List.mem_iff_getElem?.mp there
      exact Machine.finished_of_stuck found (gone task.process) (stalls.step_eq_none (.reaper index))

end Chain

end LineShell
