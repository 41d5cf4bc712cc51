import LineShell.Machine.Schedule
import LineShell.Proofs.Flow.Keeping
import LineShell.Proofs.Machine.Answers

/-! Following: what is known of a flow and of the machine around it after any number of steps. -/

namespace LineShell

namespace Machine

/-- By what the interpreter finds files and programs, and what it reads and writes itself: that
stays as it is. -/
structure Outlook (before after : Machine) : Prop where
  directory : after.directory = before.directory
  environment : after.environment = before.environment
  resolver : after.resolver = before.resolver
  stdin : after.stdin = before.stdin
  stdout : after.stdout = before.stdout
  stderr : after.stderr = before.stderr

variable {first middle last machine after : Machine}

theorem Outlook.refl (machine : Machine) : Outlook machine machine :=
  ⟨rfl, rfl, rfl, rfl, rfl, rfl⟩

theorem Outlook.trans (start : Outlook first middle) (rest : Outlook middle last) :
    Outlook first last where
  directory := rest.directory.trans start.directory
  environment := rest.environment.trans start.environment
  resolver := rest.resolver.trans start.resolver
  stdin := rest.stdin.trans start.stdin
  stdout := rest.stdout.trans start.stdout
  stderr := rest.stderr.trans start.stderr

/-- Whoever makes a step beside the interpreter leaves its outlook alone. -/
theorem Onward.outlook (onward : Onward machine after) : Outlook machine after :=
  ⟨onward.directory, onward.environment, onward.resolver, onward.stdin, onward.stdout,
    onward.stderr⟩

/-- So does an answer. -/
theorem outlook_of_answered {call : Call} {reply : call.Reply}
    (answered : machine.answer call = some (reply, after)) : Outlook machine after :=
  let onward := onward_but_handles answered
  ⟨onward.directory, onward.environment, onward.resolver, onward.stdin, onward.stdout,
    onward.stderr⟩

/-- What a task does next, by its own progress and that of its process. -/
inductive ReaperStep (machine : Machine) (index : Nat) (task : ReaperTask) : Machine → Prop
  /-- The process is over, and gives its status away. -/
  | collects {process : Process} {status : WaitStatus} (waiting : task.progress = .waiting)
      (found : machine.process? task.process = some process)
      (ended : process.progress = .ended status) :
      ReaperStep machine index task ({ machine with
        reapers := machine.reapers.set index { task with progress := .closing (some status) }
      }.setProcess task.process { process with progress := .reaped })
  /-- There is no status to be had. -/
  | misses (waiting : task.progress = .waiting)
      (missing : (machine.process? task.process).isSome → machine.IsReaped task.process) :
      ReaperStep machine index task { machine with
        reapers := machine.reapers.set index { task with progress := .closing none } }
  /-- The handle is given up. -/
  | closes {status : Option WaitStatus} (closing : task.progress = .closing status) :
      ReaperStep machine index task { machine with
        held := task.keeps.elim machine.held machine.held.erase
        reapers := machine.reapers.set index { task with progress := .finished status } }

/-- Every step of a task is one of these. -/
theorem cases_of_stepReaper {index : Nat} (stepped : machine.stepReaper index = some after) :
    ∃ task, machine.reapers[index]? = some task ∧ ReaperStep machine index task after := by
  unfold stepReaper at stepped
  split at stepped
  · cases stepped
  · rename_i task found
    refine ⟨task, found, ?_⟩
    split at stepped
    · -- A task that is done makes no step.
      cases stepped
    · rename_i status closing
      cases stepped
      -- A task that has got its status gives up what it keeps, if anything.
      have closed := @ReaperStep.closes machine index task status closing
      cases kept : task.keeps <;> simpa [kept] using closed
    · rename_i waiting
      -- One that waits gets a status if there is one to be had, and else an error.
      split at stepped
      · rename_i absent
        cases stepped
        exact .misses waiting (by simp [absent])
      · rename_i process at_number
        split at stepped
        any_goals cases stepped
        · rename_i reaped
          exact .misses waiting fun _ => ⟨process, at_number, reaped⟩
        · rename_i status ended
          exact .collects waiting at_number ended

/-- The step of a task: it notes that its process is over, or it gives up its handle. -/
theorem stepped_of_stepReaper {index : Nat} (stepped : machine.stepReaper index = some after) :
    ∃ task status, machine.reapers[index]? = some task ∧
      ((task.progress = .waiting ∧ ∃ middle, Onward machine middle ∧
          ((machine.process? task.process).isSome → middle.IsReaped task.process) ∧
          after = { middle with
            reapers := machine.reapers.set index { task with progress := .closing status } }) ∨
        (task.progress = .closing status ∧ after = { machine with
          held := task.keeps.elim machine.held machine.held.erase
          reapers := machine.reapers.set index { task with progress := .finished status } })) := by
  obtain ⟨task, found, step⟩ := cases_of_stepReaper stepped
  cases step with
  | @collects process status waiting at_number ended =>
    refine ⟨task, some status, found, .inl ⟨waiting, _, .setProcess at_number fun _ => rfl,
      fun _ => ⟨{ process with progress := .reaped }, ?_, rfl⟩, rfl⟩⟩
    rw [process?_setProcess at_number, if_pos rfl]
  | misses waiting missing =>
    exact ⟨task, none, found, .inl ⟨waiting, machine, .refl _, missing, rfl⟩⟩
  | closes closing => exact ⟨task, _, found, .inr ⟨closing, rfl⟩⟩

/-- The step of any agent leaves the outlook of the interpreter alone. -/
theorem outlook_of_step {agent : Agent} (stepped : machine.step agent = some after) :
    Outlook machine after := by
  -- A task touches only itself, its process and what the interpreter holds.
  cases agent with
  | process number => exact (beside_of_stepProcess stepped).outlook
  | reaper index =>
    obtain ⟨task, status, _, ⟨_, middle, onward, _, rfl⟩ | ⟨_, rfl⟩⟩ :=
      stepped_of_stepReaper stepped
    · exact ⟨onward.directory, onward.environment, onward.resolver, onward.stdin, onward.stdout,
        onward.stderr⟩
    · exact ⟨rfl, rfl, rfl, rfl, rfl, rfl⟩
  | clock => exact (beside_of_stepClock stepped).outlook

/-- It leaves the programs alone, too. -/
theorem image_of_step {agent : Agent} (stepped : machine.step agent = some after) :
    after.image = machine.image := by
  cases agent with
  | process number => exact (beside_of_stepProcess stepped).image
  | reaper index =>
    obtain ⟨_, _, step⟩ := cases_of_stepReaper stepped
    cases step <;> rfl
  | clock => exact (beside_of_stepClock stepped).image

end Machine

namespace Scene

variable {α σ : Type} {first scene : Scene α} {history : List Event}

/-- The same files are the same programs after any number of steps. -/
theorem Follows.image (follows : Follows first history scene) :
    scene.machine.image = first.machine.image := by
  induction follows with
  | refl => rfl
  | answered _ found ih => exact (Machine.onward_but_handles found).image.trans ih
  | moved _ agent found ih => exact (Machine.image_of_step found).trans ih

/-- The interpreter goes on with the outlook that it began with. -/
theorem Follows.outlook (follows : Follows first history scene) :
    first.machine.Outlook scene.machine := by
  induction follows with
  | refl => exact .refl _
  | answered _ found ih => exact ih.trans (Machine.outlook_of_answered found)
  | moved _ agent found ih => exact ih.trans (Machine.outlook_of_step found)

/-- A flow that keeps to some steps still does after any number of steps beside it. -/
theorem Follows.keeps (follows : Follows first history scene) {step : σ → Event → σ → Prop}
    {post : σ → α → Prop} {start : σ} (keeps : first.flow.Keeps step post start) :
    ∃ state, Flow.Leads step start history state ∧ scene.flow.Keeps step post state := by
  -- Steps beside the interpreter leave the flow as it is.
  induction follows with
  | refl => exact ⟨start, .refl, keeps⟩
  | @answered _ call _ _ _ reply _ _ ih =>
    obtain ⟨state, leads, keeps⟩ := ih
    obtain ⟨after, taken, keeps⟩ := keeps reply
    exact ⟨after, .append leads taken, keeps⟩
  | moved _ _ _ ih => exact ih

/-- Every event of a history is an answer on the way. -/
theorem Follows.split {earlier later : List Event} {call : Call} {reply : call.Reply}
    (follows : Follows first (earlier ++ ⟨call, reply⟩ :: later) scene) :
    ∃ next machine after, Follows first earlier ⟨.ask call next, machine⟩ ∧
      machine.answer call = some (reply, after) ∧ Follows ⟨next reply, after⟩ later scene := by
  generalize whole : earlier ++ ⟨call, reply⟩ :: later = history at follows
  -- The answer is the last of all, or it lies within what came before the last.
  induction follows generalizing later with
  | refl => simp at whole
  | @answered history last next machine after given start found ih =>
    rcases List.eq_nil_or_concat later with rfl | ⟨others, event, rfl⟩
    · obtain ⟨rfl, same⟩ := List.append_inj' whole rfl
      cases same
      exact ⟨next, machine, after, start, found, .refl⟩
    · rw [List.concat_eq_append, ← List.cons_append, ← List.append_assoc] at whole
      obtain ⟨rfl, same⟩ := List.append_inj' whole rfl
      cases same
      obtain ⟨earlierNext, before, between, first, answered, rest⟩ := ih rfl
      exact ⟨earlierNext, before, between, first, answered,
        by rw [List.concat_eq_append]; exact .answered rest found⟩
  | moved _ agent found ih =>
    obtain ⟨next, machine, after, first, answered, rest⟩ := ih whole
    exact ⟨next, machine, after, first, answered, .moved rest agent found⟩

/-- A status that has been given away is not there again. -/
theorem Follows.isReaped (follows : Follows first history scene) {number : Nat}
    (reaped : first.machine.IsReaped number) : scene.machine.IsReaped number := by
  -- No step of anyone brings a status back; a reaper takes one away at most.
  induction follows with
  | refl => exact reaped
  | answered _ found ih => exact (Machine.onward_but_handles found).reaped number ih
  | moved _ agent found ih =>
    cases agent with
    | process => exact (Machine.beside_of_stepProcess found).reaped number ih
    | clock => exact (Machine.beside_of_stepClock found).reaped number ih
    | reaper index =>
      obtain ⟨task, status, _, ⟨_, middle, onward, _, rfl⟩ | ⟨_, rfl⟩⟩ :=
        Machine.stepped_of_stepReaper found
      · exact onward.reaped number ih
      · exact ih

variable {last : Scene α} {turns later : List (Option Machine.Agent)} {all : List Event}

/-- Playing turns and then others is playing all of them. -/
theorem play_append (scene : Scene α) (turns later : List (Option Machine.Agent))
    (history : List Event) : scene.play (turns ++ later) history =
      (scene.play turns history).bind fun state => state.2.play later state.1 := by
  -- Both sides take the first turn alike; the induction is on the turns that come before the
  -- others.
  induction turns generalizing scene history with
  | nil => rfl
  | cons turn turns ih =>
    obtain ⟨flow, machine⟩ := scene
    cases turn with
    | some agent =>
      simp only [List.cons_append, play]
      cases machine.step agent with
      | none => rfl
      | some after => exact ih _ _
    | none =>
      cases flow with
      | done result => rfl
      | ask call next =>
        simp only [List.cons_append, play]
        cases machine.answer call with
        | none => rfl
        | some answer => exact ih _ _

/-- What has been answered is never taken back. -/
theorem isPrefix_of_play (played : scene.play turns history = some (all, last)) :
    history <+: all := by
  -- Only a turn of the interpreter adds an event, and it does so at the end.
  induction turns generalizing scene history with
  | nil =>
    cases played
    exact List.prefix_rfl
  | cons turn turns ih =>
    obtain ⟨flow, machine⟩ := scene
    cases turn with
    | some agent =>
      simp only [play] at played
      split at played
      · cases played
      · exact ih played
    | none =>
      cases flow with
      | done result => cases played
      | ask call next =>
        simp only [play] at played
        split at played
        · cases played
        · exact (List.prefix_append ..).trans (ih played)

/-- What some turns lead to is what playing them gives. -/
theorem Plays.played (plays : Plays first turns history scene) :
    first.play turns [] = some (history, scene) := by
  induction plays with
  | refl => rfl
  | answered _ found ih => simp [play_append, ih, Scene.play, found]
  | moved _ agent found ih => simp [play_append, ih, Scene.play, found]

/-- What has been answered by some turns comes first in what is answered by these and others. -/
theorem Plays.isPrefix (plays : Plays first turns history scene)
    (further : Plays first (turns ++ later) all last) : history <+: all := by
  have played := further.played
  rw [play_append, plays.played] at played
  exact isPrefix_of_play played

end Scene

end LineShell
