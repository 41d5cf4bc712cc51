import LineShell.Machine.Serve

/-! Onward: what stays as it is in the machine, whoever makes a step beside the interpreter. -/

namespace LineShell.Machine

/-- Whether the status of a process has been given away. -/
def IsReaped (machine : Machine) (number : Nat) : Prop :=
  ∃ process, machine.process? number = some process ∧ process.progress = .reaped

/-- What the interpreter has and knows stays as it is, pipes only ever become more, and named pipes
get new ones. -/
structure Around (before after : Machine) : Prop where
  held : after.held = before.held
  reapers : after.reapers = before.reapers
  stdin : after.stdin = before.stdin
  stdout : after.stdout = before.stdout
  stderr : after.stderr = before.stderr
  directory : after.directory = before.directory
  environment : after.environment = before.environment
  resolver : after.resolver = before.resolver
  image : after.image = before.image
  pipes : before.pipes.length ≤ after.pipes.length
  fifos : ∀ entry ∈ after.fifos, entry ∈ before.fifos ∨
    (before.pipes.length ≤ entry.2 ∧ entry.2 < after.pipes.length)

/-- The interpreter is left alone, and no process comes back. -/
structure Onward (before after : Machine) : Prop extends Around before after where
  processes : before.processes.length ≤ after.processes.length
  reaped : ∀ number, before.IsReaped number → after.IsReaped number

/-- How a process goes on for which nobody waits: when it is over it stays as it is, and its status
is not given away. -/
structure Continues (before after : Process) : Prop where
  ended : before.alive = false → after.progress = before.progress
  alive : before.alive = true → after.progress ≠ .reaped

/-- The processes that the interpreter has started go on, but for one that it waits for itself. -/
def Spares (taken : Option Nat) (before after : Machine) : Prop :=
  ∀ number process, before.process? number = some process → process.parent = 0 →
    some number ≠ taken → ∃ other, after.process? number = some other ∧ other.parent = 0 ∧
      Continues process other

/-- What a step beside the interpreter leaves alone. -/
structure Beside (before after : Machine) : Prop extends Onward before after where
  spares : Spares none before after

variable {first middle last machine after : Machine}

/-- Files, open files, processes and time are not the interpreter's own. -/
theorem Around.others (machine : Machine) (files : FileSystem) (openings : List Opening)
    (processes : List Process) (clock : Nat) :
    Around machine { machine with files, openings, processes, clock } :=
  ⟨rfl, rfl, rfl, rfl, rfl, rfl, rfl, rfl, rfl, Nat.le_refl _, fun _ => .inl⟩

theorem Around.refl (machine : Machine) : Around machine machine :=
  .others machine machine.files machine.openings machine.processes machine.clock

theorem Around.trans (start : Around first middle) (rest : Around middle last) :
    Around first last where
  held := rest.held.trans start.held
  reapers := rest.reapers.trans start.reapers
  stdin := rest.stdin.trans start.stdin
  stdout := rest.stdout.trans start.stdout
  stderr := rest.stderr.trans start.stderr
  directory := rest.directory.trans start.directory
  environment := rest.environment.trans start.environment
  resolver := rest.resolver.trans start.resolver
  image := rest.image.trans start.image
  pipes := Nat.le_trans start.pipes rest.pipes
  fifos := by
    intro entry member
    -- A pipe that one of the changes has named lies behind all that were there before both.
    rcases rest.fifos entry member with old | ⟨least, most⟩
    · rcases start.fifos entry old with older | ⟨least, most⟩
      · exact .inl older
      · exact .inr ⟨least, Nat.lt_of_lt_of_le most rest.pipes⟩
    · exact .inr ⟨Nat.le_trans start.pipes least, most⟩

/-- Processes are found where they are. -/
theorem process?_congr (same : after.processes = machine.processes) (number : Nat) :
    after.process? number = machine.process? number := by
  cases number with
  | zero => rfl
  | succ index => simp only [process?, same]

/-- A step that leaves the processes alone brings none back. -/
theorem Around.onward (around : Around machine after) (same : after.processes = machine.processes) :
    Onward machine after where
  toAround := around
  processes := Nat.le_of_eq (congrArg List.length same.symm)
  reaped := by
    rintro number ⟨process, found, reaped⟩
    exact ⟨process, (process?_congr same number).trans found, reaped⟩

theorem Onward.refl (machine : Machine) : Onward machine machine :=
  (Around.refl machine).onward rfl

theorem Onward.trans (start : Onward first middle) (rest : Onward middle last) :
    Onward first last where
  toAround := start.toAround.trans rest.toAround
  processes := Nat.le_trans start.processes rest.processes
  reaped number := rest.reaped number ∘ start.reaped number

/-- A process that is changed is the only one to change. -/
theorem process?_setProcess {number : Nat} {old : Process}
    (found : machine.process? number = some old) (process : Process) (other : Nat) :
    (machine.setProcess number process).process? other =
      if other = number then some process else machine.process? other := by
  -- Processes are numbered from one on, and listed from zero on.
  cases number with
  | zero => cases found
  | succ index =>
    cases other with
    | zero => simp [process?]
    | succ place =>
      have inside : index < machine.processes.length := (List.getElem?_eq_some_iff.mp found).1
      simp only [process?, setProcess, Nat.add_sub_cancel, List.getElem?_set, inside, if_true,
        Nat.add_right_cancel_iff]
      by_cases same : index = place
      · simp [same]
      · simp [same, Ne.symm same]

/-- A process that makes no progress goes on. -/
theorem Continues.of_eq {before after : Process} (same : after.progress = before.progress) :
    Continues before after := by
  refine ⟨fun _ => same, fun alive reaped => ?_⟩
  rw [same] at reaped
  simp [Process.alive, reaped] at alive

/-- So does one that is not over, unless it is reaped. -/
theorem Continues.of_alive {before after : Process} (alive : before.alive = true)
    (unreaped : after.progress ≠ .reaped) : Continues before after :=
  ⟨fun gone => by simp [alive] at gone, fun _ => unreaped⟩

theorem Continues.trans {first middle last : Process} (start : Continues first middle)
    (rest : Continues middle last) : Continues first last := by
  constructor
  · intro gone
    -- One that is over at first is over in between, and has not changed at all.
    have middleOver : middle.alive = false := by
      rw [Process.alive, start.ended gone]
      exact gone
    rw [rest.ended middleOver, start.ended gone]
  · intro alive reaped
    have unreaped := start.alive alive
    cases ended : middle.alive with
    | true => exact rest.alive ended reaped
    | false => exact unreaped ((rest.ended ended).symm.trans reaped)

/-- Whoever leaves the processes alone spares them. -/
theorem spares_of_same (taken : Option Nat) (same : after.processes = machine.processes) :
    Spares taken machine after :=
  fun number process found parent _ =>
    ⟨process, (process?_congr same number).trans found, parent, .of_eq rfl⟩

theorem Spares.trans {taken : Option Nat} (start : Spares taken first middle)
    (rest : Spares taken middle last) : Spares taken first last := by
  intro number process found parent other
  obtain ⟨next, foundNext, parentNext, continues⟩ := start number process found parent other
  obtain ⟨final, foundFinal, parentFinal, further⟩ := rest number next foundNext parentNext other
  exact ⟨final, foundFinal, parentFinal, continues.trans further⟩

/-- One process changes, and only if it is the interpreter's it has to go on. -/
theorem Spares.setProcess {taken : Option Nat} {number : Nat} {old process : Process}
    (found : machine.process? number = some old)
    (own : old.parent = 0 → some number ≠ taken → process.parent = 0 ∧ Continues old process) :
    Spares taken machine (machine.setProcess number process) := by
  intro other before at_other parent untaken
  by_cases same : other = number
  · subst same
    rw [found] at at_other
    cases at_other
    obtain ⟨still, continues⟩ := own parent untaken
    exact ⟨process, by rw [process?_setProcess found, if_pos rfl], still, continues⟩
  · exact ⟨before, by rw [process?_setProcess found, if_neg same, at_other], parent, .of_eq rfl⟩

/-- A process may change that has not been reaped, and any process to one that has. -/
theorem Onward.setProcess {number : Nat} {old process : Process}
    (found : machine.process? number = some old)
    (kept : old.progress = .reaped → process.progress = .reaped) :
    Onward machine (machine.setProcess number process) where
  toAround := .others machine machine.files machine.openings _ machine.clock
  processes := by simp [Machine.setProcess]
  reaped := by
    rintro other ⟨before, at_other, reaped⟩
    -- A process that had been reaped is the changed one, or another one that stays as it was.
    by_cases same : other = number
    · subst same
      rw [found] at at_other
      cases at_other
      exact ⟨process, by rw [process?_setProcess found, if_pos rfl], kept reaped⟩
    · exact ⟨before, by rw [process?_setProcess found, if_neg same, at_other], reaped⟩

/-- A step that leaves the processes alone is one beside the interpreter. -/
theorem Around.beside (around : Around machine after) (same : after.processes = machine.processes) :
    Beside machine after where
  toOnward := around.onward same
  spares := spares_of_same none same

theorem Beside.refl (machine : Machine) : Beside machine machine :=
  (Around.refl machine).beside rfl

theorem Beside.trans (start : Beside first middle) (rest : Beside middle last) :
    Beside first last where
  toOnward := start.toOnward.trans rest.toOnward
  spares := start.spares.trans rest.spares

/-- A process may change that goes on. -/
theorem Beside.setProcess {number : Nat} {old process : Process}
    (found : machine.process? number = some old) (parent : process.parent = old.parent)
    (continues : Continues old process) : Beside machine (machine.setProcess number process) where
  toOnward := .setProcess found fun reaped =>
    (continues.ended (by simp [Process.alive, reaped])).trans reaped
  spares := .setProcess found fun own _ => ⟨parent.trans own, continues⟩

/-- A change of a process that lets it go on. -/
theorem Beside.updateProcess (machine : Machine) (number : Nat) {change : Process → Process}
    (parent : ∀ process, (change process).parent = process.parent)
    (continues : ∀ process, Continues process (change process)) :
    Beside machine (machine.updateProcess number change) := by
  unfold Machine.updateProcess
  -- Without such a process nothing is changed.
  cases found : machine.process? number with
  | none => exact .refl machine
  | some process => exact .setProcess found (parent process) (continues process)

/-- A change that only befalls those who are alive, and reaps none, lets everyone go on. -/
theorem continues_of_alive {change : Process → Process}
    (unreaped : ∀ process, (change process).progress ≠ .reaped) (process : Process) :
    Continues process (if process.alive then change process else process) := by
  cases alive : process.alive with
  | true => exact .of_alive alive (unreaped process)
  | false => exact .of_eq rfl

/-- Such a change leaves it to whom a process belongs. -/
theorem parent_of_alive {change : Process → Process}
    (same : ∀ process, (change process).parent = process.parent) (process : Process) :
    (if process.alive then change process else process).parent = process.parent := by
  split
  · exact same process
  · rfl

/-- Taking notice of a signal is no progress. -/
theorem note_same (process : Process) (signal : Nat) :
    (note process signal).parent = process.parent ∧
      (note process signal).progress = process.progress := by
  unfold note
  split
  · exact ⟨rfl, rfl⟩
  · exact ⟨rfl, rfl⟩

theorem Beside.conclude (machine : Machine) (number : Nat) (status : WaitStatus) :
    Beside machine (machine.conclude number status) := by
  -- First the process itself changes, and then its parent, if that is alive.
  have finished : Beside machine (machine.updateProcess number fun process =>
      if process.alive then process.finish status else process) :=
    .updateProcess machine number (parent_of_alive fun _ => rfl)
      (continues_of_alive fun _ => Progress.noConfusion)
  refine finished.trans (.updateProcess _ _ ?_ ?_)
  · intro process
    split
    · exact (note_same process _).1
    · rfl
  · intro process
    split
    · exact .of_eq (note_same process _).2
    · exact .of_eq rfl

theorem Beside.deliver (machine : Machine) (number signal : Nat) :
    Beside machine (machine.deliver number signal) := by
  unfold Machine.deliver
  -- A signal is ignored, kept for later, or ends the process; one that is over gets none.
  split
  · exact .refl machine
  · rename_i process found
    split
    · exact .refl machine
    · split
      · exact .refl machine
      · exact .setProcess found (note_same process signal).1 (.of_eq (note_same process signal).2)
      · split
        · exact .refl machine
        · exact .conclude machine number _

/-- A process that goes on changes only if it is alive. -/
theorem Beside.resume (machine : Machine) (number : Nat) (behaviour : Behaviour) :
    Beside machine (machine.resume number behaviour) :=
  .updateProcess machine number (parent_of_alive fun _ => rfl)
    (continues_of_alive fun _ => Progress.noConfusion)

/-- A process that is not over can go on with what it has opened. -/
theorem Beside.resumeOpened {number : Nat}
    (alive : ∀ process, machine.process? number = some process → process.alive = true)
    (opened : Except Errno Nat) (behaviour : Behaviour) :
    Beside machine (machine.resumeOpened number opened behaviour) := by
  -- The next behaviour depends on what has been opened; each changes the process alone.
  unfold Machine.resumeOpened
  dsimp only
  split
  · exact .resume ..
  · split
    · exact .resume ..
    · split
      · unfold Machine.updateProcess
        cases found : machine.process? number with
        | none => exact .refl machine
        | some process =>
          exact .setProcess found rfl (.of_alive (alive process found) Progress.noConfusion)
      · exact .resume ..

/-- An answer that changes nothing. -/
theorem beside_of_keep {α : Type} {reply given : α}
    (answered : machine.keep reply = some (given, after)) : Beside machine after := by
  cases answered
  exact .refl machine

/-- An answer leads where it tells. -/
theorem beside_of_answer {α : Type} {answer : α × Machine} {given : α}
    (beside : Beside machine answer.2) (answered : some answer = some (given, after)) :
    Beside machine after := by
  cases answered
  exact beside

/-- A new pipe is one more. -/
theorem around_addPipe (machine : Machine) : Around machine machine.addPipe.2 where
  held := rfl
  reapers := rfl
  stdin := rfl
  stdout := rfl
  stderr := rfl
  directory := rfl
  environment := rfl
  resolver := rfl
  image := rfl
  pipes := by simp [addPipe]
  fifos _ := .inl

/-- A pipe that changes stays where it is. -/
theorem around_pipes (machine : Machine) {pipes : List Pipe}
    (same : pipes.length = machine.pipes.length) : Around machine { machine with pipes } where
  held := rfl
  reapers := rfl
  stdin := rfl
  stdout := rfl
  stderr := rfl
  directory := rfl
  environment := rfl
  resolver := rfl
  image := rfl
  pipes := Nat.le_of_eq same.symm
  fifos _ := .inl

theorem around_updatePipe (machine : Machine) (number : Nat) (change : Pipe → Pipe) :
    Around machine (machine.updatePipe number change) :=
  around_pipes machine (List.length_modify ..)

/-- The pipe behind a named pipe is one of the named pipes' own. -/
theorem around_pipeOf (machine : Machine) (number : Nat) :
    Around machine (machine.pipeOf number).2 := by
  -- A named pipe is known already, or gets a new pipe behind all others.
  unfold pipeOf
  split
  · split
    · exact .refl machine
    · exact around_updatePipe ..
  · exact {
      around_addPipe machine with
      fifos := by
        intro entry member
        rcases List.mem_cons.mp member with rfl | old
        · exact .inr ⟨Nat.le_refl _, by simp [addPipe]⟩
        · exact .inl old }

theorem processes_pipeOf (machine : Machine) (number : Nat) :
    (machine.pipeOf number).2.processes = machine.processes := by
  unfold pipeOf
  split
  · split <;> rfl
  · rfl

/-- Opening an end of a pipe takes nothing from anyone. -/
theorem around_openPipe (machine : Machine) (pipe : Nat) (manner : Manner) :
    Around machine (machine.openPipe pipe manner).2 :=
  around_updatePipe ..

/-- An end of a pipe that is opened is an end of that pipe. -/
theorem pipe?_openPipe (machine : Machine) (pipe : Nat) (manner : Manner) :
    (machine.openPipe pipe manner).1.pipe? = some pipe := by
  -- Reading, writing, or both: each handle names the pipe.
  unfold openPipe
  dsimp only
  split
  · rfl
  · split <;> rfl

/-- What the opening of a file leaves of the machine, and which pipes it can lead to. -/
structure Opened (machine : Machine) (allowed : Nat → Prop) (given : Handle) (after : Machine) :
    Prop where
  around : Around machine after
  processes : after.processes = machine.processes
  allowed : ∀ pipe, given.pipe? = some pipe → allowed pipe

/-- What is opened again leads to the same pipe, if to any. -/
theorem opened_of_reopen {handle given : Handle} {manner : Manner}
    (opened : machine.reopen handle manner = .ok (given, after)) :
    Opened machine (fun pipe => handle.pipe? = some pipe) given after := by
  -- A file is opened anew and leads to no pipe; an end of a pipe leads back to it.
  unfold reopen at opened
  split at opened
  · split at opened
    · cases opened
    · split at opened
      · cases opened
      · rename_i state _ _ file _
        cases changed : machine.files.openExisting state.file file manner machine.clock with
        | error number => simp [changed, bind, Except.bind] at opened
        | ok files =>
          simp only [changed, bind, Except.bind, pure, Except.pure, Except.ok.injEq] at opened
          cases opened
          exact ⟨.others .., rfl, fun pipe leads => by cases leads⟩
  all_goals
    cases opened
    exact ⟨around_openPipe .., rfl, fun _ => (pipe?_openPipe machine _ manner).symm.trans⟩

/-- The pipe of a named pipe is known as such. -/
theorem mem_fifos_pipeOf (machine : Machine) (number : Nat) :
    (number, (machine.pipeOf number).1) ∈ (machine.pipeOf number).2.fifos := by
  -- Either the named pipe was known before, or it has been put in front.
  unfold pipeOf
  split
  · rename_i pipe found
    have member : (number, pipe) ∈ machine.fifos := by
      obtain ⟨before, behind, split, _⟩ := List.lookup_eq_some_iff.mp found
      simp [split]
    split
    · exact member
    · exact member
  · exact List.mem_cons_self

/-- What is opened leads to a named pipe or where a descriptor leads, if to a pipe at all. -/
theorem opened_of_openFile {directory : Location} {handle? : Nat → Option Handle} {path : String}
    {manner : Manner} {mode : Nat} {given : Handle}
    (opened : machine.openFile directory handle? path manner mode = .ok (given, after)) :
    Opened machine (fun pipe => (∃ number, (number, pipe) ∈ after.fifos) ∨
      ∃ descriptor handle, handle? descriptor = some handle ∧ handle.pipe? = some pipe)
      given after := by
  unfold openFile at opened
  -- The path leads to a named pipe, to the name of a descriptor, or to a plain file.
  cases found : machine.files.openPath directory path manner mode machine.clock with
  | error number => simp [found, bind, Except.bind] at opened
  | ok result =>
    obtain ⟨number, files⟩ := result
    simp only [found, bind, Except.bind] at opened
    split at opened
    · cases opened
      refine ⟨(around_pipeOf machine number).trans (around_openPipe ..), processes_pipeOf ..,
        fun pipe leads => .inl ⟨number, ?_⟩⟩
      have own := (pipe?_openPipe (machine.pipeOf number).2 (machine.pipeOf number).1 manner).symm
      cases own.trans leads
      exact mem_fifos_pipeOf machine number
    · split at opened
      · cases opened
      · rename_i handle reached
        have again := opened_of_reopen opened
        exact ⟨again.around, again.processes,
          fun pipe leads => .inr ⟨_, handle, reached, again.allowed pipe leads⟩⟩
    · cases opened
      exact ⟨.others .., rfl, fun pipe leads => by cases leads⟩

/-- Reading takes nothing but bytes. -/
theorem beside_of_readHandle {handle : Handle} {limit : Nat} {reply : Except Errno Bytes}
    (answered : machine.readHandle handle limit = some (reply, after)) : Beside machine after := by
  unfold readHandle at answered
  -- A file only moves its offset, a pipe only loses bytes, and a closed end answers at once.
  split at answered
  · split at answered
    · exact beside_of_keep answered
    · split at answered
      · exact beside_of_keep answered
      · split at answered
        · exact beside_of_keep answered
        · cases answered
          exact (Around.others ..).beside rfl
  any_goals
    split at answered
    · exact beside_of_keep answered
    · split at answered
      · split at answered
        · cases answered
        · exact beside_of_keep answered
      · cases answered
        exact (around_pipes machine (List.length_set ..)).beside rfl
  · exact beside_of_keep answered

/-- Writing to an open file changes that file only. -/
theorem beside_writeFile (machine : Machine) (number : Nat) (opening : Opening) (data : Bytes)
    (limit : Option Nat) : Beside machine (machine.writeFile number opening data limit).2 := by
  unfold writeFile
  dsimp only
  split
  · exact .refl machine
  · split
    · exact .refl machine
    · split
      · exact .refl machine
      · exact (Around.others ..).beside rfl

/-- Writing brings nothing but bytes. -/
theorem beside_of_writeHandle {handle : Handle} {data : Bytes} {limit : Option Nat}
    {reply : Except Errno Nat}
    (answered : machine.writeHandle handle data limit = some (reply, after)) :
    Beside machine after := by
  unfold writeHandle at answered
  -- A file is written on its own; a pipe only gains bytes, unless nobody reads it.
  split at answered
  · split at answered
    · exact beside_of_keep answered
    · split at answered
      · exact beside_of_keep answered
      · exact beside_of_answer (beside_writeFile ..) answered
  any_goals
    split at answered
    · exact beside_of_keep answered
    · dsimp only at answered
      split at answered
      · exact beside_of_keep answered
      · split at answered
        · exact beside_of_keep answered
        · split at answered
          · cases answered
          · cases answered
            exact (around_pipes machine (List.length_set ..)).beside rfl
  · exact beside_of_keep answered

/-- Another tree is no concern of the interpreter's handles. -/
theorem beside_withFiles (machine : Machine) (files : FileSystem) :
    Beside machine (machine.withFiles files) :=
  (Around.others ..).beside rfl

/-- Those who move with a directory are as alive as before. -/
theorem beside_withChange (machine : Machine) (change : FileSystem.Change) :
    Beside machine (machine.withChange change) := by
  -- Each process is moved on its own, and only its directory changes.
  have moved (number : Nat) {process : Process} (found : machine.process? number = some process) :
      ∃ directory, (machine.withChange change).process? number =
        some { process with directory } := by
    cases number with
    | zero => cases found
    | succ index =>
      simp only [process?] at found
      simp only [process?, withChange, List.getElem?_map, found]
      exact ⟨_, rfl⟩
  refine ⟨⟨.others .., by simp [withChange], ?_⟩, ?_⟩
  · rintro number ⟨process, found, reaped⟩
    obtain ⟨directory, there⟩ := moved number found
    exact ⟨_, there, reaped⟩
  · intro number process found parent _
    obtain ⟨directory, there⟩ := moved number found
    exact ⟨_, there, parent, .of_eq rfl⟩

/-- An attempt goes on if what it may lead to does. -/
theorem beside_of_attempted {result : Except Errno Machine} {reply : Except Errno Unit}
    (answered : machine.attempted result = some (reply, after))
    (beside : ∀ changed, result = .ok changed → Beside machine changed) : Beside machine after := by
  unfold attempted at answered
  split at answered
  · cases answered
    exact .refl machine
  · cases answered
    exact beside _ rfl

/-- Moving in an open file changes its offset only. -/
theorem beside_seek (machine : Machine) (handle : Handle) (origin : Origin) (distance : Int) :
    Beside machine (machine.seek handle origin distance).2 := by
  -- Every way to fail leaves the machine alone, and success moves the offset.
  unfold seek
  split
  · split
    · exact .refl machine
    · dsimp only
      repeat' split
      all_goals first
        | exact .refl machine
        | exact (Around.others ..).beside rfl
  · exact .refl machine

/-- What is done after a computation that may fail is done only if that succeeds. -/
theorem exists_of_bind_ok {ε α β : Type} {first : Except ε α} {next : α → Except ε β} {result : β}
    (succeeded : first >>= next = .ok result) :
    ∃ value, first = .ok value ∧ next value = .ok result := by
  cases first with
  | error cause => cases succeeded
  | ok value => exact ⟨value, rfl, succeeded⟩

/-- What a process asks for is no concern of the interpreter's. -/
theorem beside_of_serve {number : Nat} {process : Process} {request : Request}
    {reply : request.Reply} (found : machine.process? number = some process)
    (answered : machine.serve number process request = some (reply, after)) :
    Beside machine after := by
  -- Most requests change the process that asks, which makes no progress by that.
  have own {changed : Machine} (around : Around machine changed)
      (same : changed.processes = machine.processes) {other : Process}
      (parent : other.parent = process.parent) (progress : other.progress = process.progress) :
      Beside machine (changed.setProcess number other) :=
    (around.beside same).trans (.setProcess ((process?_congr same number).trans found) parent
      (.of_eq progress))
  -- The requests are taken in families: those of one family change the machine in one manner.
  cases request with
  | sleep | pause | examine | list | fileLimit | identity | parent | whereabouts | time =>
    exact beside_of_keep answered
  | dispose | collect | mask | setFileLimit =>
    cases answered
    exact own (.refl machine) rfl rfl rfl
  | read descriptor limit =>
    simp only [serve] at answered
    split at answered
    · exact beside_of_keep answered
    · exact beside_of_readHandle answered
  | write descriptor data =>
    simp only [serve] at answered
    split at answered
    · exact beside_of_keep answered
    · split at answered
      · rename_i written
        have onward := beside_of_writeHandle written
        cases answered
        split
        · exact onward.trans (.deliver ..)
        · split
          · exact onward.trans (.deliver ..)
          · exact onward
      · exact beside_of_writeHandle answered
  | seek descriptor origin distance =>
    simp only [serve] at answered
    split at answered
    · exact beside_of_keep answered
    · exact beside_of_answer (beside_seek ..) answered
  | openFile path manner mode =>
    simp only [serve] at answered
    split at answered
    · exact beside_of_keep answered
    · split at answered
      · exact beside_of_keep answered
      · rename_i opened
        have opened := opened_of_openFile opened
        cases answered
        exact own opened.around opened.processes rfl rfl
  | close | keepAside =>
    simp only [serve] at answered
    split at answered
    · exact beside_of_keep answered
    · cases answered
      exact own (.refl machine) rfl rfl rfl
  | duplicate source target =>
    simp only [serve] at answered
    split at answered
    · exact beside_of_keep answered
    · cases answered
      by_cases same : source = target
      · exact own (.refl machine) rfl (by rw [if_pos same]) (by rw [if_pos same])
      · exact own (.refl machine) rfl (by rw [if_neg same]; rfl) (by rw [if_neg same]; rfl)
  | pipe =>
    cases answered
    exact own (around_addPipe machine) rfl rfl rfl
  | wait child patient =>
    simp only [serve] at answered
    split at answered
    · exact beside_of_keep answered
    · rename_i other at_child
      split at answered
      · exact beside_of_keep answered
      · rename_i started
        split at answered
        any_goals
          split at answered
          · exact beside_of_keep answered
          · cases answered
        · exact beside_of_keep answered
        · cases answered
          -- The process that is reaped has been started by the one that waits.
          refine ⟨.setProcess at_child fun _ => rfl, .setProcess at_child fun parent _ => ?_⟩
          obtain rfl : other.parent = number := Decidable.of_not_not started
          rw [parent] at found
          cases found
  | peek =>
    simp only [serve] at answered
    split at answered <;> exact beside_of_keep answered
  | inspect =>
    simp only [serve] at answered
    split at answered <;> exact beside_of_keep answered
  | signal target signal =>
    simp only [serve] at answered
    split at answered
    · exact beside_of_keep answered
    · split at answered
      · exact beside_of_keep answered
      · cases answered
        exact .deliver ..
  | enter path =>
    refine beside_of_attempted answered fun changed entered => ?_
    obtain ⟨text, _, entered⟩ := exists_of_bind_ok entered
    obtain ⟨⟨place, file⟩, _, entered⟩ := exists_of_bind_ok entered
    dsimp only at entered
    split at entered
    · cases entered
    · split at entered
      · cases entered
      · cases entered
        exact own (.refl machine) rfl rfl rfl
  | create | remove | removeDirectory =>
    refine beside_of_attempted answered fun changed done => ?_
    obtain ⟨_, _, done⟩ := exists_of_bind_ok done
    obtain ⟨_, _, done⟩ := exists_of_bind_ok done
    cases done
    first
      | exact beside_withFiles ..
      | exact beside_withChange ..
  | changeMode | changeTime =>
    refine beside_of_attempted answered fun changed done => ?_
    obtain ⟨_, _, done⟩ := exists_of_bind_ok done
    obtain ⟨_, _, done⟩ := exists_of_bind_ok done
    cases done
    exact beside_withFiles ..
  | share | rename =>
    refine beside_of_attempted answered fun changed done => ?_
    obtain ⟨_, _, done⟩ := exists_of_bind_ok done
    obtain ⟨_, _, done⟩ := exists_of_bind_ok done
    obtain ⟨_, _, done⟩ := exists_of_bind_ok done
    cases done
    first
      | exact beside_withFiles ..
      | exact beside_withChange ..

/-- A process that has answered an opening is as far as before. -/
theorem progress_of_openFile {number : Nat} {process : Process} {path : Bytes} {manner : Manner}
    {mode : Nat} {reply : Except Errno Nat} (found : machine.process? number = some process)
    (answered : machine.serve number process (.openFile path manner mode) = some (reply, after)) :
    ∃ other, after.process? number = some other ∧ other.progress = process.progress := by
  -- The process gets at most a handle.
  simp only [serve] at answered
  split at answered
  · cases answered
    exact ⟨process, found, rfl⟩
  · split at answered
    · cases answered
      exact ⟨process, found, rfl⟩
    · rename_i handle _ opened
      have opened := opened_of_openFile opened
      cases answered
      refine ⟨(addHandle process handle 0).2, ?_, rfl⟩
      rw [process?_setProcess ((process?_congr opened.processes number).trans found), if_pos rfl]

/-- The processes that are there stay where they are when there is one more. -/
theorem process?_addProcess (machine : Machine) (added : Process) {number : Nat}
    {process : Process} (found : machine.process? number = some process) :
    ({ machine with processes := machine.processes ++ [added] } : Machine).process? number =
      some process := by
  -- The numbers of those before it are below its own.
  cases number with
  | zero => cases found
  | succ index =>
    have inside : index < machine.processes.length := (List.getElem?_eq_some_iff.mp found).1
    exact (List.getElem?_append_left inside).trans found

/-- One more process is no concern of those that are there. -/
theorem beside_addProcess (machine : Machine) (process : Process) :
    Beside machine { machine with processes := machine.processes ++ [process] } where
  toAround := .others ..
  processes := by simp
  reaped := by
    rintro number ⟨old, found, reaped⟩
    exact ⟨old, process?_addProcess machine process found, reaped⟩
  spares := by
    intro number old found parent _
    exact ⟨old, process?_addProcess machine process found, parent, .of_eq rfl⟩

/-- The step of a process is no concern of the interpreter's. -/
theorem beside_of_stepProcess {number : Nat} (stepped : machine.stepProcess number = some after) :
    Beside machine after := by
  unfold stepProcess at stepped
  -- What a process does next is told by its progress, and by what it is running.
  split at stepped
  · cases stepped
  · rename_i process found
    -- A process that makes a step is not over, and none reaps itself.
    have own {other : Process} (alive : process.alive = true)
        (parent : other.parent = process.parent) (unreaped : other.progress ≠ .reaped) :
        Beside machine (machine.setProcess number other) :=
      .setProcess found parent (.of_alive alive unreaped)
    split at stepped
    · cases stepped
    · cases stepped
    · rename_i sleeping
      split at stepped
      · cases stepped
        exact own (by simp [Process.alive, sleeping]) rfl Progress.noConfusion
      · cases stepped
    · rename_i meeting
      split at stepped
      · cases stepped
        exact own (by simp [Process.alive, meeting]) rfl Progress.noConfusion
      · cases stepped
    · cases stepped
      exact .conclude ..
    · rename_i running
      cases stepped
      exact own (by simp [Process.alive, running]) rfl Progress.noConfusion
    · rename_i running
      cases stepped
      exact own (by simp [Process.alive, running]) rfl Progress.noConfusion
    · rename_i running
      split at stepped
      · cases stepped
      · rename_i served
        obtain ⟨opener, there, same⟩ := progress_of_openFile found served
        have beside := beside_of_serve found served
        cases stepped
        refine beside.trans (.resumeOpened (fun other at_number => ?_) ..)
        cases there.symm.trans at_number
        simp [Process.alive, same, running]
    · rename_i running
      split at stepped
      · cases stepped
      · rename_i served
        have beside := beside_of_serve found served
        cases stepped
        exact beside.trans (.resume ..)
    · cases stepped
      exact (beside_addProcess machine _).trans (.resume ..)
    · split at stepped
      · cases stepped
        exact .resume ..
      · cases stepped
        have renewed : Beside machine (machine.updateProcess number renew) :=
          .updateProcess machine number (fun _ => rfl) fun _ => .of_eq rfl
        exact renewed.trans (.resume ..)

/-- Time passes without anyone else moving. -/
theorem beside_of_stepClock (stepped : machine.stepClock = some after) : Beside machine after := by
  unfold stepClock at stepped
  split at stepped
  · cases stepped
  · split at stepped
    · cases stepped
      exact (Around.others ..).beside rfl
    · cases stepped

end LineShell.Machine
