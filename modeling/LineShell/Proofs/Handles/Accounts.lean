import LineShell.Proofs.Handles.Moments
import LineShell.Repl
import Mathlib.Data.List.Nodup

/-! Accounts: how long the interpreter holds the pipes and the files of its lines. -/

namespace LineShell

variable {α : Type}

/-- A machine in which the interpreter has just begun: it holds nothing beside its three standard
handles, and waits for nothing. -/
structure Machine.IsFresh (machine : Machine) : Prop where
  held : machine.held = []
  reapers : machine.reapers = []
  /-- The pipes that the interpreter itself has got are there. -/
  own : ∀ descriptor handle pipe, machine.ownHandle? descriptor = some handle →
    handle.pipe? = some pipe → pipe < machine.pipes.length
  fifos : ∀ entry ∈ machine.fifos, entry.2 < machine.pipes.length

namespace Machine

variable {machine after : Machine} {handle : Handle}

/-- The end of a stream is read only when nobody can write any more. -/
theorem notMem_held_of_end {pipe limit : Nat} (asked : 0 < limit)
    (ended : machine.readHandle (.reader pipe) limit = some (.ok [], after)) :
    .writer pipe ∉ machine.held := by
  -- As long as the interpreter holds a writing end, the pipe has a writer, and a reader waits.
  intro held
  have written : machine.hasWriter pipe = true := by
    have any : machine.held.any (·.writes pipe) = true :=
      List.any_eq_true.mpr ⟨_, held, by simp [Handle.writes]⟩
    simp [hasWriter, anyHandle, any]
  unfold readHandle at ended
  dsimp only at ended
  split at ended
  · cases ended
  · split at ended
    · simp [written] at ended
    · rename_i present
      simp only [Option.some.injEq, Prod.mk.injEq, Except.ok.injEq, List.take_eq_nil_iff] at ended
      exact ended.1.elim (fun zero => Nat.ne_of_gt asked zero) present

/-- What is still kept is what a task has been given. -/
theorem exists_of_kept (kept : handle ∈ machine.kept) :
    ∃ task ∈ machine.reapers, task.held? = some handle ∧ task.keeps = some handle := by
  obtain ⟨task, there, held⟩ := List.mem_filterMap.mp kept
  refine ⟨task, there, held, ?_⟩
  -- A task that is done holds nothing, and any other holds what it keeps.
  unfold ReaperTask.held? at held
  split at held
  · exact held
  · exact held
  · cases held

end Machine

/-- What may be held as the next stage begins may be held for one look-up more. -/
theorem Untaken.succ {later : List Event} (untaken : Untaken 0 later) : Untaken 1 later :=
  ⟨untaken.granted, untaken.starts, Nat.le_succ_of_le untaken.lookups, untaken.files⟩

/-- A reading end that is held has not been taken, and where it waits for the next stage, the
command of that has not been looked up. -/
theorem Phase.Owes.untaken {phase : Phase} {reader : Handle} {later : List Event}
    (owes : phase.Owes reader later) (held : reader ∈ phase.handles) :
    Untaken 1 later ∧ ∀ next, phase = .idle next → Untaken 0 later := by
  -- In each phase the reading end can only be what the stage at hand, or the next one, reads from.
  cases phase with
  | idle next =>
    have untaken := owes (Option.mem_toList.mp held)
    exact ⟨untaken.succ, fun _ _ => untaken⟩
  | building stdin stdout =>
    refine ⟨?_, fun _ other => Phase.noConfusion other⟩
    rcases List.mem_append.mp held with read | written
    · exact owes.1 (Option.mem_toList.mp read)
    · exact absurd (Option.mem_toList.mp written) owes.2
  | piped stdin next writer =>
    refine ⟨?_, fun _ other => Phase.noConfusion other⟩
    obtain ⟨first, second, apart⟩ := owes
    simp only [Phase.handles, List.mem_append, Option.mem_toList, List.mem_cons,
      List.not_mem_nil, or_false] at held
    rcases held with read | written | left
    · exact first read
    · exact absurd written.symm apart
    · exact (second left.symm).1.succ
  | launched process keeps next =>
    refine ⟨?_, fun _ other => Phase.noConfusion other⟩
    rcases List.mem_append.mp held with kept | left
    · exact absurd (Option.mem_toList.mp kept) owes.1
    · exact (owes.2 (Option.mem_toList.mp left)).succ

namespace Ledger

/-- Whatever follows while anything is held is done for a stage. -/
theorem isForStage_of_continues {phase : Phase} {call : Call} (continues : Continues phase call) :
    call.isForStage = true := by
  -- Each phase has requests of its own, and all of them belong to a stage.
  cases phase with
  | idle =>
    obtain ⟨name, rfl⟩ := continues
    rfl
  | launched =>
    obtain ⟨process, keeps, rfl⟩ := continues
    rfl
  | building | piped => cases call <;> first | rfl | cases continues

/-- A command is looked up between two stages. -/
theorem idle_of_continues {phase : Phase} {name : String}
    (continues : Continues phase (.lookup name)) : ∃ next, phase = .idle next := by
  cases phase with
  | idle next => exact ⟨next, rfl⟩
  | launched =>
    obtain ⟨_, _, same⟩ := continues
    cases same
  | building | piped => cases continues

/-- What is held is an end of a pipe, or a file of the stage that is being built. -/
theorem cases_of_sourced {history : List Event} {phase : Phase} {call : Call} {handle : Handle}
    (sourced : Sourced history phase) (continues : Continues phase call)
    (held : handle ∈ phase.handles) :
    Event.IsEnd history handle ∨ Recent history handle ∧ call.isWithinStage = true := by
  -- Files are found only where a stage has been begun and not yet been started.
  cases phase with
  | idle next => exact .inl (sourced handle (Option.mem_toList.mp held))
  | building stdin stdout =>
    have own := List.mem_append.mp held
    simp only [Option.mem_toList] at own
    exact (sourced handle own).imp_right fun recent => ⟨recent, continues⟩
  | piped stdin reader writer =>
    obtain ⟨read, made⟩ := sourced
    simp only [Phase.handles, List.mem_append, Option.mem_toList, List.mem_cons,
      List.not_mem_nil, or_false] at held
    rcases held with own | rfl | rfl
    · exact (read handle own).imp_right fun recent => ⟨recent, continues⟩
    · exact .inl ⟨_, made, .inr rfl⟩
    · exact .inl ⟨_, made, .inl rfl⟩
  | launched process keeps next =>
    rcases List.mem_append.mp held with kept | left
    · obtain ⟨reader, made⟩ := sourced.1 handle (Option.mem_toList.mp kept)
      exact .inl ⟨_, made, .inr rfl⟩
    · exact .inl (sourced.2 handle (Option.mem_toList.mp left))

end Ledger

namespace Scene

/-- How long the two ends of a pipe are held that a line has made, by what has happened since. The
first stage to be started after that is the one that writes the pipe. -/
structure Accounts (scene : Scene α) (reader writer : Handle) (later : List Event) : Prop where
  /-- The writing end is held until the stage that writes it has been launched. -/
  building : later.filterMap Event.start? = [] → writer ∈ scene.machine.held
  /-- From then on it is held for as long as the reaper of its process is not done. -/
  started : ∀ command process others,
    later.filterMap Event.start? = (command, .ok process) :: others →
      command.stdout = some writer ∧
        (writer ∈ scene.machine.held ↔ ¬ scene.machine.IsDone process)
  /-- If that stage could not be started, it is given up before anything else is done. -/
  refused : ∀ command cause others,
    later.filterMap Event.start? = (command, .error cause) :: others →
      writer ∈ scene.machine.held → writer ∈ scene.flow.closings
  /-- The reading end is given up before anything else is done, or the next stage has still to be
  launched: nothing has been refused and no file has taken the place of the pipe, no command but
  that of the next stage has been looked up, and what the interpreter does next is done for it. -/
  reading : reader ∈ scene.machine.held → reader ∈ scene.flow.closings ∨
    Untaken 1 later ∧ ∃ call, scene.flow.upcoming? = some call ∧ call.isForStage = true ∧
      ∀ name, call = .lookup name → Untaken 0 later
  /-- Whoever reads the end of the stream does so after the stage that writes it has been launched,
  and if it has been started, after its process is over and has been waited for. -/
  ended : ∀ limit after, 0 < limit →
    scene.machine.readHandle reader limit = some (.ok [], after) →
      later.filterMap Event.start? ≠ [] ∧
      ∀ command process others,
        later.filterMap Event.start? = (command, .ok process) :: others →
          scene.machine.IsDone process ∧ scene.machine.IsReaped process
  /-- When no stage is being dealt with, neither end is left of a pipe whose writing stage has been
  waited for or was never started. -/
  settled : (∀ call, scene.flow.upcoming? = some call → call.isForStage = false) →
    (∀ command process others,
      later.filterMap Event.start? = (command, .ok process) :: others →
        scene.machine.IsDone process) →
    ∀ handle ∈ [reader, writer], handle ∈ scene.machine.held → handle ∈ scene.flow.closings

/-- All that is held for the lines of a session, by what has happened so far. -/
structure Accounted (history : List Event) (scene : Scene α) : Prop where
  pipes : ∀ earlier reader writer later,
    history = earlier ++ ⟨.pipe, .ok (reader, writer)⟩ :: later →
      scene.Accounts reader writer later
  /-- What is no end of such a pipe is a file that is given up before anything else is done, or one
  of a stage that is being built. -/
  files : ∀ handle ∈ scene.machine.held, handle ∈ scene.flow.closings ∨
    Event.IsEnd history handle ∨ Ledger.Recent history handle ∧
      ∃ call, scene.flow.upcoming? = some call ∧ call.isWithinStage = true
  /-- When no stage is being dealt with, as while the last one of a line is waited for and between
  lines, only tasks that wait for processes keep anything. -/
  resting : (∀ call, scene.flow.upcoming? = some call → call.isForStage = false) →
    ∀ handle ∈ scene.machine.held, handle ∈ scene.flow.closings ∨
      ∃ task ∈ scene.machine.reapers, task.held? = some handle
  /-- While the last stage of a line is waited for, no pipe can be read by way of the
  interpreter. -/
  awaiting : ∀ process next, scene.flow = .ask (.wait process) next →
    ∀ pipe, .reader pipe ∉ scene.machine.held
  /-- When no stage is being dealt with and all tasks are done, nothing is left. -/
  settled : (∀ call, scene.flow.upcoming? = some call → call.isForStage = false) →
    (∀ task ∈ scene.machine.reapers, ∃ status, task.progress = .finished status) →
      scene.machine.held ⊆ scene.flow.closings

variable {history later : List Event} {ledger : Ledger} {scene : Scene α} {handle : Handle}

/-- What is held is held in the phase at hand, about to be given up, or kept by a task. -/
theorem Sound.cases_of_held (sound : Sound history ledger scene)
    (held : handle ∈ scene.machine.held) :
    handle ∈ ledger.phase.handles ∨ handle ∈ scene.flow.closings ∨
      handle ∈ scene.machine.kept := by
  -- What is stray is given up at once, since the flow keeps to the ledger.
  have stray := sound.keeps.pursues.1
  rcases List.mem_append.mp (sound.held.mem_iff.mp held) with there | kept
  · rcases List.mem_append.mp there with phase | given
    · exact .inl phase
    · exact .inr (.inl (stray given))
  · exact .inr (.inr kept)

/-- What a task keeps has been handed to it. -/
theorem Sound.reap_of_task (sound : Sound history ledger scene) {task : ReaperTask}
    (there : task ∈ scene.machine.reapers) :
    (task.process, task.keeps) ∈ history.filterMap Event.reap? := by
  rw [← sound.reapers]
  exact List.mem_map.mpr ⟨task, there, rfl⟩

/-- What a task keeps is an end of a pipe that is written. -/
theorem Sound.writer_of_kept (sound : Sound history ledger scene)
    (kept : handle ∈ scene.machine.kept) :
    ∃ pipe, (.reader pipe, handle) ∈ history.filterMap Event.ends? ∧ handle = .writer pipe := by
  obtain ⟨task, there, _, keeps⟩ := Machine.exists_of_kept kept
  -- The books tell where everything comes from that has been handed on.
  obtain ⟨ends, made, same⟩ := sound.books.sourced.2 _ _ (sound.reap_of_task there)
  rw [keeps] at same
  obtain ⟨pipe, rfl, _⟩ := sound.places.made ends made
  cases same
  exact ⟨pipe, made, rfl⟩

/-- A task has given up what it keeps, or has not. -/
theorem count_keeps (tasks : List ReaperTask) (handle : Handle) :
    (tasks.filterMap ReaperTask.held?).count handle +
      (tasks.filterMap ReaperTask.released?).count handle =
        (tasks.filterMap (·.keeps)).count handle := by
  induction tasks with
  | nil => rfl
  | cons task rest ih =>
    obtain ⟨process, keeps, progress⟩ := task
    -- A task that is done has released what it keeps, and any other still holds it.
    cases keeps <;> cases progress <;>
      simp [ReaperTask.held?, ReaperTask.released?, List.filterMap_cons, List.count_cons] <;> omega

/-- What is handed on is taken from a line. -/
theorem count_reap_le (history : List Event) (handle : Handle) :
    ((history.filterMap Event.reap?).filterMap (·.2)).count handle ≤
      (history.flatMap Event.lost).count handle := by
  induction history with
  | nil => exact Nat.le_refl 0
  | cons event rest ih =>
    rw [List.flatMap_cons, List.count_append, List.filterMap_cons]
    -- Only what is handed on counts on the left, and it counts once on the right as well.
    cases reap : event.reap? with
    | none => exact Nat.le_trans ih (Nat.le_add_left ..)
    | some pair =>
      have lost : event.lost = pair.2.toList := by
        unfold Event.reap? at reap
        split at reap <;> cases reap
        rfl
      rw [lost, List.filterMap_cons]
      cases pair.2 with
      | none => simpa using ih
      | some kept => simp only [Option.toList_some, List.count_cons, List.count_nil]; omega

/-- An end of a pipe is held for a line or has been handed to one task. -/
theorem Sound.once (sound : Sound history ledger scene) (isEnd : Event.IsEnd history handle) :
    (scene.machine.reapers.filterMap (·.keeps)).count handle +
      ledger.handles.count handle ≤ 1 := by
  -- What has been handed on has been taken from the line, and cannot be held for it.
  have handed := count_reap_le history handle
  rw [← sound.reapers, List.filterMap_map] at handed
  exact Nat.le_trans (Nat.add_le_add_right handed _) (sound.books.once isEnd)

/-- As long as a process has not been handed on, no task has waited for it. -/
theorem Sound.not_isDone (sound : Sound history ledger scene) {process : Nat}
    (launched : ledger.process? = some process) : ¬ scene.machine.IsDone process := by
  rintro ⟨task, there, rfl, _⟩
  -- A process is handed on once, and it cannot be handed on and at hand.
  have apart := (List.nodup_append.mp sound.books.processes.1).2.2
  refine apart task.process ?_ task.process (by simp [launched]) rfl
  exact List.mem_map.mpr ⟨_, sound.reap_of_task there, rfl⟩

/-- An end of a pipe that has been handed on is held until the task is done. -/
theorem Sound.mem_held_iff (sound : Sound history ledger scene)
    (isEnd : Event.IsEnd history handle) {process : Nat}
    (handed : (process, some handle) ∈ history.filterMap Event.reap?) :
    handle ∈ scene.machine.held ↔ ¬ scene.machine.IsDone process := by
  -- The end counts once at most: in the ledger, for a task that holds it, or for one that is done.
  have once := sound.once isEnd
  rw [← count_keeps] at once
  constructor
  · rintro held ⟨task, there, rfl, status, finished⟩
    -- The task that is done is the one that the handle has been given to.
    have nodup := (List.nodup_append.mp sound.books.processes.1).1
    have same := List.inj_on_of_nodup_map nodup (sound.reap_of_task there) handed rfl
    have released : handle ∈ scene.machine.reapers.filterMap ReaperTask.released? :=
      List.mem_filterMap.mpr ⟨task, there, by simpa [ReaperTask.released?, finished] using same⟩
    have gone := List.count_pos_iff.mpr released
    rcases List.mem_append.mp (sound.held.mem_iff.mp held) with own | kept
    · have still := List.count_pos_iff.mpr own
      omega
    · have still := List.count_pos_iff.mpr kept
      rw [Machine.kept] at still
      omega
  · intro undone
    -- As long as the task is not done, it has not given up what it keeps.
    rw [← sound.reapers] at handed
    obtain ⟨task, there, same⟩ := List.mem_map.mp handed
    obtain ⟨rfl, keeps⟩ := Prod.mk.inj same
    refine sound.held.mem_iff.mpr (List.mem_append_right _ ?_)
    refine List.mem_filterMap.mpr ⟨task, there, ?_⟩
    cases progress : task.progress with
    | waiting | closing => simpa [ReaperTask.held?, progress] using keeps
    | finished status => exact absurd ⟨task, there, rfl, status, progress⟩ undone

/-- The reading end of a pipe is held as long as it may be. -/
theorem Sound.reading (sound : Sound history ledger scene) {pipe : Nat}
    (owes : ledger.phase.Owes (.reader pipe) later) (held : .reader pipe ∈ scene.machine.held) :
    .reader pipe ∈ scene.flow.closings ∨
      Untaken 1 later ∧ ∃ call, scene.flow.upcoming? = some call ∧ call.isForStage = true ∧
        ∀ name, call = .lookup name → Untaken 0 later := by
  -- Held for the stage at hand, given up at once, or kept by a task: tasks keep writing ends only.
  rcases sound.cases_of_held held with phase | given | kept
  · rcases sound.keeps.pursues.2 with given | ⟨call, upcoming, continues⟩
    · exact .inl (given phase)
    · obtain ⟨untaken, idle⟩ := owes.untaken phase
      refine .inr ⟨untaken, call, upcoming, Ledger.isForStage_of_continues continues, ?_⟩
      rintro name rfl
      obtain ⟨next, same⟩ := Ledger.idle_of_continues continues
      exact idle next same
  · exact .inl given
  · obtain ⟨_, _, same⟩ := sound.writer_of_kept kept
    cases same

/-- When no stage is being dealt with, what the phase holds is about to be given up. -/
theorem Sound.given_of_resting (sound : Sound history ledger scene)
    (idle : ∀ call, scene.flow.upcoming? = some call → call.isForStage = false)
    (held : handle ∈ ledger.phase.handles) : handle ∈ scene.flow.closings := by
  -- Anything else that could follow on what is held would be done for a stage.
  rcases sound.keeps.pursues.2 with given | ⟨call, upcoming, continues⟩
  · exact given held
  · have dealing := Ledger.isForStage_of_continues continues
    rw [idle call upcoming] at dealing
    cases dealing

/-- When no stage is being dealt with, what is held is about to be given up or kept by a task. -/
theorem Sound.kept_of_resting (sound : Sound history ledger scene)
    (idle : ∀ call, scene.flow.upcoming? = some call → call.isForStage = false)
    (held : handle ∈ scene.machine.held) :
    handle ∈ scene.flow.closings ∨ handle ∈ scene.machine.kept := by
  rcases sound.cases_of_held held with phase | rest
  · exact .inl (sound.given_of_resting idle phase)
  · exact rest

/-- Every pipe of a line is accounted for. -/
theorem Sound.accounts (sound : Sound history ledger scene) {earlier : List Event}
    {reader writer : Handle}
    (split : history = earlier ++ ⟨.pipe, .ok (reader, writer)⟩ :: later) :
    scene.Accounts reader writer later := by
  obtain ⟨fate, owes⟩ := sound.books.fate split
  have made : (reader, writer) ∈ history.filterMap Event.ends? := by
    rw [split, List.filterMap_append]
    exact List.mem_append_right _ List.mem_cons_self
  obtain ⟨pipe, same, _⟩ := sound.places.made _ made
  cases same
  have isEnd : Event.IsEnd history (.writer pipe) := ⟨_, made, .inr rfl⟩
  -- Until the stage is started, the ledger has the end in its phase.
  have building (unstarted : later.filterMap Event.start? = []) :
      .writer pipe ∈ scene.machine.held := by
    obtain ⟨stdin, piped⟩ := fate.unstarted unstarted
    refine sound.held.mem_iff.mpr (List.mem_append_left _ ?_)
    simp [Ledger.handles, piped, Phase.handles]
  -- Then it is kept for the process, first by the line and later by its task.
  have started (command : Command) (process : Nat) (others : List (Command × Except IoError Nat))
      (starts : later.filterMap Event.start? = (command, .ok process) :: others) :
      command.stdout = some (.writer pipe) ∧
        (.writer pipe ∈ scene.machine.held ↔ ¬ scene.machine.IsDone process) := by
    obtain ⟨output, launched | handed⟩ := fate.started _ _ _ starts
    · refine ⟨output, iff_of_true ?_ (sound.not_isDone (by simp [Ledger.process?, launched]))⟩
      refine sound.held.mem_iff.mpr (List.mem_append_left _ ?_)
      simp [Ledger.handles, launched, Phase.handles]
    · exact ⟨output, sound.mem_held_iff isEnd handed⟩
  -- A stage that could not be started leaves the end to nobody.
  have refused (command : Command) (cause : IoError)
      (others : List (Command × Except IoError Nat))
      (starts : later.filterMap Event.start? = (command, .error cause) :: others)
      (held : .writer pipe ∈ scene.machine.held) : .writer pipe ∈ scene.flow.closings := by
    obtain ⟨free, unhanded⟩ := fate.refused _ _ _ starts
    rcases sound.cases_of_held held with phase | given | kept
    · exact absurd phase free
    · exact given
    · obtain ⟨task, there, _, keeps⟩ := Machine.exists_of_kept kept
      exact absurd (keeps ▸ sound.reap_of_task there) (unhanded task.process)
  refine ⟨building, started, refused, sound.reading owes, ?_, ?_⟩
  · intro limit after asked ended
    -- Whoever sees the end of the stream sees that the interpreter has given up the writing end.
    have released := Machine.notMem_held_of_end asked ended
    refine ⟨fun unstarted => released (building unstarted), ?_⟩
    intro command process others starts
    have done : scene.machine.IsDone process := by
      have still := (started _ _ _ starts).2
      exact Classical.byContradiction fun undone => released (still.mpr undone)
    refine ⟨done, ?_⟩
    obtain ⟨task, there, rfl, status, finished⟩ := done
    exact sound.waited task there (by simp [finished])
  · intro idle finished handle own held
    simp only [List.mem_cons, List.not_mem_nil, or_false] at own
    rcases own with rfl | rfl
    · refine (sound.reading owes held).resolve_right ?_
      rintro ⟨_, call, upcoming, dealing, _⟩
      rw [idle call upcoming] at dealing
      cases dealing
    · cases starts : later.filterMap Event.start? with
      | nil =>
        -- The writing end would still belong to a stage that is being launched.
        obtain ⟨stdin, piped⟩ := fate.unstarted starts
        exact sound.given_of_resting idle (by simp [piped, Phase.handles])
      | cons first others =>
        obtain ⟨command, cause | process⟩ := first
        · exact refused _ _ _ starts held
        · exact absurd (finished _ _ _ starts) ((started _ _ _ starts).2.mp held)

/-- Everything that is held is accounted for. -/
theorem Sound.toAccounted (sound : Sound history ledger scene) : scene.Accounted history where
  pipes earlier reader writer later := sound.accounts
  files handle held := by
    -- A handle is in the ledger's phase, about to be given up, or kept by a reaper.
    rcases sound.cases_of_held held with phase | given | kept
    · rcases sound.keeps.pursues.2 with given | ⟨call, upcoming, continues⟩
      · exact .inl (given phase)
      · rcases Ledger.cases_of_sourced sound.books.sourced.1 continues phase with isEnd | recent
        · exact .inr (.inl isEnd)
        · exact .inr (.inr ⟨recent.1, call, upcoming, recent.2⟩)
    · exact .inl given
    · obtain ⟨_, made, _⟩ := sound.writer_of_kept kept
      exact .inr (.inl ⟨_, made, .inr rfl⟩)
  resting idle handle held := by
    refine (sound.kept_of_resting idle held).imp_right fun kept => ?_
    obtain ⟨task, there, still, _⟩ := Machine.exists_of_kept kept
    exact ⟨task, there, still⟩
  awaiting process next waits pipe held := by
    -- A line that waits is not building, so what it holds is a reaper's, and that is no reading
    -- end.
    have idle (call : Call) (upcoming : scene.flow.upcoming? = some call) :
        call.isForStage = false := by
      rw [waits] at upcoming
      cases upcoming
      rfl
    rcases sound.kept_of_resting idle held with given | kept
    · rw [waits] at given
      cases given
    · obtain ⟨_, _, same⟩ := sound.writer_of_kept kept
      cases same
  settled idle finished handle held := by
    refine (sound.kept_of_resting idle held).resolve_right fun kept => ?_
    obtain ⟨task, there, still, _⟩ := Machine.exists_of_kept kept
    -- A reaper that is done has given up what it kept.
    obtain ⟨status, ended⟩ := finished task there
    simp [ReaperTask.held?, ended] at still

/-- At first nothing is held, and the ledger is empty. -/
theorem sound_of_drives {flow : Flow α} (drives : Session.Drives flow) {machine : Machine}
    (fresh : machine.IsFresh) : Sound [] {} (⟨flow, machine⟩ : Scene α) where
  keeps := drives.keeps ⟨rfl, rfl⟩
  books := .start
  places := ⟨fresh.own, fresh.fifos, nofun, nofun, nofun⟩
  held := by simp [fresh.held, fresh.reapers, Machine.kept, Ledger.handles, Phase.handles]
  reapers := by simp [fresh.reapers]
  waited := by simp [fresh.reapers]

end Scene

/-- At every moment of a session, in every order of steps, and whatever is refused, the interpreter
holds the pipes and files of its lines as long as they are needed and no longer. -/
theorem Session.Drives.accounted {flow : Flow α} (drives : Session.Drives flow) {machine : Machine}
    (fresh : machine.IsFresh) {history : List Event} {scene : Scene α}
    (follows : Scene.Follows ⟨flow, machine⟩ history scene) : scene.Accounted history := by
  obtain ⟨ledger, sound⟩ := follows.sound (Scene.sound_of_drives drives fresh)
  exact sound.toAccounted

/-- A machine whose only program ends at once, with a line of two stages as the input. -/
def Machine.relay : Machine where
  files := {
    names := [([], 0), (["relay"], 1), (["input"], 2), (["output"], 3)]
    files := [{ node := .directory 0o755 }, { node := .regular 0o755 [] },
      { node := .regular 0o644 (Utf8.ofString "a | b\n") }, { node := .regular 0o644 [] }] }
  directory := []
  environment := []
  resolver := fun _ _ _ => .ok "/relay"
  image := fun _ => some fun _ _ => .exit 0
  openings := [{ file := 2, readable := true }, { file := 3, writable := true },
    { file := 3, writable := true }]

/-- The interpreter of this machine has files for its standard handles, and no pipes, whatever its
programs do. -/
theorem Machine.isFresh_relay (image : Bytes → Option Program) :
    ({ Machine.relay with image } : Machine).IsFresh where
  held := rfl
  reapers := rfl
  own := by
    intro descriptor handle pipe found named
    unfold Machine.ownHandle? at found
    split at found <;> cases found <;> cases named
  fifos := nofun

/-- The interpreter comes as far as to wait for the second stage; both end, and the first has been
waited for. -/
def Machine.relayTurns : List (Option Agent) :=
  List.replicate 12 none ++ [some (.process 1), some (.process 2), some (.reaper 0)]

theorem Session.Drives.accounted_relay : ∃ history scene,
    (⟨Repl.start {} false 10, .relay⟩ : Scene UInt8).play Machine.relayTurns [] =
      some (history, scene) ∧
    scene.machine.held = [.writer 0] ∧ scene.Accounted history := by
  -- The run is carried out, and what it holds in the end is read off.
  have played : ((⟨Repl.start {} false 10, .relay⟩ : Scene UInt8).play Machine.relayTurns []).map
      (·.2.machine.held) = some [.writer 0] := by decide +kernel
  obtain ⟨⟨history, scene⟩, reached, held⟩ := Option.map_eq_some_iff.mp played
  exact ⟨history, scene, reached, held,
    Session.Drives.accounted (Repl.drives_start {} false 10)
      (Machine.isFresh_relay Machine.relay.image) (.play .refl reached)⟩

end LineShell
