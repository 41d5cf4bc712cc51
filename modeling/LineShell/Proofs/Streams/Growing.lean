import LineShell.Proofs.Machine.Following
import LineShell.Proofs.Streams.Passing

/-! Growing: what is opened, made and started for a line becomes part of its chain. -/

namespace LineShell

/-- A stage that has still to be started does what it has to when it runs a program that does. -/
theorem Filter.Does.start {filter : Filter} {input unread unsent : Bytes} {behaviour : Behaviour}
    (does : filter.Does input unread unsent none) (acts : filter.Acts input behaviour) :
    filter.Does input unread unsent (some (.running behaviour)) := by
  cases does
  exact .gathering acts

/-- All that it is to write has still to be written. -/
theorem Filter.Does.unsent_eq {filter : Filter} {input unread unsent : Bytes}
    (does : filter.Does input unread unsent none) : unsent = filter.apply input := by
  cases does
  rfl

/-- What a stage does takes no time. -/
theorem Filter.Does.awake {filter : Filter} {input unread unsent : Bytes} {wake : Nat}
    {behaviour : Behaviour} :
    ¬ filter.Does input unread unsent (some (.sleeping wake behaviour)) :=
  nofun

/-- A stage that has ended has done so with its own code, and giving its status away leaves it with
nothing to do. -/
theorem Filter.Does.reap {filter : Filter} {input unread unsent : Bytes} {status : WaitStatus}
    (does : filter.Does input unread unsent (some (.ended status))) :
    status = .ofCode filter.code ∧ filter.Does input unread unsent (some .reaped) := by
  cases does
  exact ⟨rfl, .reaped⟩

namespace Chain

variable {chain : Chain} {machine after : Machine} {unsent : Nat → Bytes}

/-- What the interpreter opens and makes is one more, and all that is on its way stays. -/
theorem Passing.grow (passing : chain.Passing machine unsent) (stderr : after.stderr = machine.stderr)
    (processes : after.processes = machine.processes)
    (transit : ∀ pipe, after.transit pipe = machine.transit pipe)
    (unread : chain.unread after unsent 0 = chain.unread machine unsent 0)
    (pipes : machine.pipes.length ≤ after.pipes.length)
    (openings : machine.openings.length ≤ after.openings.length)
    (ports : chain.Ports after.files after.openings (unsent (chain.filters.length - 1))) :
    chain.Passing after unsent where
  few := processes ▸ passing.few
  -- The first stage reads the file as before, and each other one what is in its pipe.
  stages place filter at_place := by
    have same : chain.unread after unsent place = chain.unread machine unsent place := by
      cases place with
      | zero => exact unread
      | succ place => rw [unread_succ, unread_succ, transit]
    rw [same, processes]
    exact passing.stages place filter at_place
  owns place process found := stderr ▸ passing.owns place process (processes ▸ found)
  made place started inner := Nat.lt_of_lt_of_le (passing.made place (processes ▸ started) inner) pipes
  fed started := Nat.lt_of_lt_of_le (passing.fed (processes ▸ started)) openings
  drained all := Nat.lt_of_lt_of_le (passing.drained (processes ▸ all)) openings
  ports := ports

/-- The handles and tasks of the interpreter are no part of the chain. -/
theorem Passing.own_same (passing : chain.Passing machine unsent) (held : List Handle)
    (reapers : List ReaperTask) : chain.Passing { machine with held, reapers } unsent :=
  passing.grow rfl rfl (fun _ => rfl) rfl (Nat.le_refl _) (Nat.le_refl _) passing.ports

/-- A list with one more at its end is the same elsewhere. -/
theorem getElem?_concat_of_ne {β : Type} {list : List β} {last : β} {index : Nat}
    (apart : index ≠ list.length) : (list ++ [last])[index]? = list[index]? := by
  -- Before the end it is one of the old entries, and behind it there is none.
  rcases Nat.lt_or_gt_of_ne apart with less | more
  · exact List.getElem?_append_left less
  · rw [List.getElem?_eq_none (by simp; omega), List.getElem?_eq_none (Nat.le_of_lt more)]

/-- A new pipe is empty. -/
theorem Passing.addPipe (passing : chain.Passing machine unsent) :
    chain.Passing machine.addPipe.2 unsent := by
  refine passing.grow rfl rfl (fun pipe => ?_) rfl ?_ (Nat.le_refl _) passing.ports
  · -- Nothing is on its way through the new pipe, as if it were not there.
    simp only [Machine.transit, Machine.addPipe]
    by_cases last : pipe = machine.pipes.length
    · simp [last]
    · rw [getElem?_concat_of_ne last]
  · simp [Machine.addPipe]

/-- The first file is read from its beginning on when it has just been opened. -/
theorem Passing.opensFeed (passing : chain.Passing machine unsent)
    (feed : chain.feed = machine.openings.length) (whole : chain.input = chain.text)
    (apart : chain.drain ≠ chain.feed) {opening : Opening} (file : opening.file = chain.source)
    (readable : opening.readable = true) (start : opening.offset = 0) :
    chain.Passing { machine with openings := machine.openings ++ [opening] } unsent := by
  have here : (machine.openings ++ [opening])[chain.feed]? = some opening := by simp [feed]
  refine passing.grow rfl rfl (fun _ => rfl) ?_ (Nat.le_refl _) (by simp) ⟨passing.ports.source, ?_, ?_⟩
  · -- Nothing has been read of the file before, and it is opened at its beginning.
    have absent : machine.openings[chain.feed]? = none := by simp [feed]
    simp [unread, here, absent, start, whole]
  · intro other there
    cases here.symm.trans there
    exact ⟨file, readable⟩
  · intro other there
    rw [getElem?_concat_of_ne (feed ▸ apart)] at there
    exact passing.ports.drain other there

/-- A stage that has not been started has all of its output still to write. -/
theorem Passing.unsent_of_unstarted (passing : chain.Passing machine unsent) {place : Nat}
    (unstarted : machine.processes.length ≤ place) (inside : place < chain.filters.length) :
    unsent place = chain.stream (place + 1) := by
  -- Its place has no process, and that leaves only one thing that it can be doing.
  have at_place := List.getElem?_eq_getElem inside
  have does := passing.stages place _ at_place
  rw [List.getElem?_eq_none unstarted, Option.map_none] at does
  rw [stream, Filter.stream_succ at_place, does.unsent_eq]

/-- The second file is written from its beginning on when it has just been opened and emptied. -/
theorem Passing.opensDrain (passing : chain.Passing machine unsent)
    (drain : chain.drain = machine.openings.length) (empty : chain.before = [])
    (apart : chain.drain ≠ chain.feed) (unended : machine.processes.length < chain.filters.length)
    {files : FileSystem} (source : files.content? chain.source = some chain.text)
    (sink : files.content? chain.sink = some []) {opening : Opening}
    (file : opening.file = chain.sink) (writable : opening.writable = true)
    (start : opening.offset = 0) :
    chain.Passing { machine with files, openings := machine.openings ++ [opening] } unsent := by
  have here : (machine.openings ++ [opening])[chain.drain]? = some opening := by simp [drain]
  have elsewhere := @getElem?_concat_of_ne _ machine.openings opening _ (drain ▸ apart.symm)
  refine passing.grow rfl rfl (fun _ => rfl) ?_ (Nat.le_refl _) (by simp) ⟨source, ?_, ?_⟩
  · simp only [unread, elsewhere]
  · intro other there
    rw [elsewhere] at there
    exact passing.ports.feed other there
  · -- The last stage has not been started, so that the whole result is still to be written.
    intro other there
    cases here.symm.trans there
    refine ⟨file, writable, [], sink, .inr start, ?_⟩
    have last : unsent (chain.filters.length - 1) = chain.stream (chain.filters.length - 1 + 1) :=
      passing.unsent_of_unstarted (by omega) (by omega)
    rw [empty, last, Nat.sub_add_cancel (by omega)]

/-- The next stage is started, and has its input to read and its output to write. -/
theorem Passing.start (passing : chain.Passing machine unsent) {place : Nat}
    (counted : machine.processes.length = place) {filter : Filter}
    (at_place : chain.filters[place]? = some filter) {process : Process} {behaviour : Behaviour}
    (owns : chain.Owns machine.stderr place process) (running : process.progress = .running behaviour)
    (acts : filter.Acts (chain.stream place) behaviour)
    (made : place + 1 < chain.filters.length → chain.pipe + place < machine.pipes.length)
    (fed : chain.feed < machine.openings.length)
    (drained : place + 1 = chain.filters.length → chain.drain < machine.openings.length) :
    chain.Passing { machine with processes := machine.processes ++ [process] } unsent where
  few := by
    rw [List.length_append, counted]
    exact (List.getElem?_eq_some_iff.mp at_place).1
  stages next other there := by
    have does := passing.stages next other there
    change other.Does _ (chain.unread machine unsent next) _
      (((machine.processes ++ [process])[next]?).map (·.progress))
    -- The new process is that of the stage at the end of the line so far.
    by_cases last : next = machine.processes.length
    · obtain rfl := last.trans counted
      cases at_place.symm.trans there
      rw [List.getElem?_eq_none (Nat.le_of_eq counted)] at does
      have here : (machine.processes ++ [process])[next]? = some process := by simp [last]
      rw [here, Option.map_some, running]
      exact does.start acts
    · rw [getElem?_concat_of_ne last]
      exact does
  owns next other there := by
    by_cases last : next = machine.processes.length
    · rw [last, List.getElem?_concat_length] at there
      cases there
      exact last.trans counted ▸ owns
    · rw [getElem?_concat_of_ne last] at there
      exact passing.owns next other there
  made next started inner := by
    rw [List.length_append, List.length_singleton, counted] at started
    rcases Nat.lt_succ_iff_lt_or_eq.mp started with old | rfl
    · exact passing.made next (counted ▸ old) inner
    · exact made inner
  fed _ := fed
  drained all := drained (by simpa [counted] using all)
  ports := passing.ports

/-- A stage that is over leaves everything as it is when its status is given away. -/
theorem Passing.reap (passing : chain.Passing machine unsent) {place : Nat} {process : Process}
    {status : WaitStatus} (found : machine.processes[place]? = some process)
    (ended : process.progress = .ended status) :
    chain.Passing (machine.setProcess (place + 1) { process with progress := .reaped })
      unsent := by
  have inside : place < machine.processes.length := (List.getElem?_eq_some_iff.mp found).1
  have at_place := List.getElem?_eq_getElem (Nat.lt_of_lt_of_le inside passing.few)
  have does := passing.stages place _ at_place
  rw [found, Option.map_some, ended] at does
  have owns := passing.owns place process found
  -- It has given up its handles already, and neither reads nor writes any more.
  refine (@Passing.update chain machine unsent passing place _ at_place process
    { process with progress := .reaped } found ⟨owns.parent, owns.unlimited, ?_⟩ unsent
    (fun _ _ => rfl) machine.files machine.pipes machine.openings (fun _ => rfl) rfl rfl
    does.reap.2 (fun _ _ _ => rfl) passing.ports).1
  rw [owns.handles]
  simp [Process.alive, ended]

/-- No stage waits for time to pass. -/
theorem Passing.stepClock_eq_none (passing : chain.Passing machine unsent) :
    machine.stepClock = none := by
  have awake : machine.nextWake? = none := by
    rw [Machine.nextWake?, List.min?_eq_none_iff, List.filterMap_eq_nil_iff]
    -- Each process is that of a stage, and no stage sleeps.
    intro process member
    obtain ⟨place, inside, rfl⟩ := List.mem_iff_getElem.mp member
    have does := passing.stages place _
      (List.getElem?_eq_getElem (Nat.lt_of_lt_of_le inside passing.few))
    rw [List.getElem?_eq_getElem inside, Option.map_some] at does
    split
    · rename_i sleeping
      rw [sleeping] at does
      exact absurd does Filter.Does.awake
    · rfl
  simp [Machine.stepClock, awake]

/-- The step of any agent passes bytes on. -/
theorem Passing.step (passing : chain.Passing machine unsent)
    (held : ∀ place, place + 1 < chain.filters.length → machine.processes.length = place + 1 →
      .reader (chain.pipe + place) ∈ machine.held)
    {agent : Machine.Agent} (stepped : machine.step agent = some after) :
    ∃ left, chain.Passing after left ∧ chain.Steady machine after := by
  cases agent with
  | process number => exact passing.stepProcess held stepped
  | clock => simp [Machine.step, passing.stepClock_eq_none] at stepped
  | reaper index =>
    -- A task gives away the status of a stage that is over, or does something of its own.
    obtain ⟨task, _, step⟩ := Machine.cases_of_stepReaper stepped
    cases step with
    | @collects process status waiting found ended =>
      cases number : task.process with
      | zero => simp [number, Machine.process?] at found
      | succ place =>
        rw [number] at found
        have reaped := (passing.own_same machine.held
          (machine.reapers.set index { task with progress := .closing (some status) })).reap found
            ended
        exact ⟨unsent, number ▸ reaped, List.length_set .., rfl, rfl, rfl, fun _ => rfl⟩
    | misses | closes => exact ⟨unsent, passing.own_same _ _, rfl, rfl, rfl, rfl, fun _ => rfl⟩

end Chain

end LineShell
