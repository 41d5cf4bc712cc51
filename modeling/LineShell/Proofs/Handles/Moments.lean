import LineShell.Proofs.Handles.Fates
import LineShell.Proofs.Handles.Owning
import LineShell.Proofs.Handles.Places

/-! Moments: the interpreter holds what its ledger and its tasks tell, after every step of a session
and in every order of steps. -/

namespace LineShell

variable {α : Type}

/-- What can be refused, a command apart, is asked for within a stage. -/
theorem Event.isWithinStage_of_error? {event : Event} {error : LineError}
    (refused : event.error? = some error) (known : event.name? = none) :
    event.call.isWithinStage = true := by
  unfold error? at refused
  split at refused <;> first | rfl | cases known | cases refused

/-- What is asked for within a stage is more than giving up a handle. -/
theorem Flow.upcoming?_of_isWithinStage {call : Call} {next : call.Reply → Flow α}
    (within : call.isWithinStage = true) : (Flow.ask call next).upcoming? = some call := by
  cases call <;> first | rfl | cases within

namespace Ledger

/-- Which requests can follow in a phase of which anything is held, besides giving that up. -/
def Continues : Phase → Call → Prop
  | .idle _, call => ∃ name, call = .lookup name
  | .building .., call | .piped .., call => call.isWithinStage = true
  | .launched .., call => ∃ process keeps, call = .reap process keeps

/-- A flow that keeps to a ledger gives up what is stray before anything else, and goes on with what
is held or gives that up too. -/
theorem Keeps.pursues {ledger : Ledger} {flow : Flow α}
    (keeps : ledger.Keeps (fun left _ => left.Rests) flow) :
    ledger.stray ⊆ flow.closings ∧
      (ledger.phase.handles ⊆ flow.closings ∨
        ∃ call, flow.upcoming? = some call ∧ Continues ledger.phase call) := by
  -- The ledger must have a step for every answer, so any answer shows which steps are possible for
  -- the request at hand: a refusal does.
  induction flow generalizing ledger with
  | done result =>
    obtain ⟨stray, awaits⟩ := keeps
    rw [stray, Phase.handles_of_awaits awaits]
    exact ⟨List.nil_subset _, .inl (List.nil_subset _)⟩
  | ask call next ih =>
    obtain ⟨after, step, keeps⟩ := keeps (Machine.refuse call)
    have further := ih _ keeps
    generalize Machine.refuse call = reply at step further
    cases step with
    | closed =>
      obtain ⟨stray, phase⟩ := further
      exact ⟨List.cons_subset_cons _ stray,
        phase.imp (List.subset_cons_of_subset _) id⟩
    | @abandoned _ _ handle _ split =>
      refine ⟨List.nil_subset _, .inl ?_⟩
      rw [Phase.handles, split]
      exact List.cons_subset_cons handle further.1
    | found awaits | unfound awaits =>
      rcases Phase.cases_of_awaits awaits with rfl | ⟨rfl, _⟩
      · exact ⟨List.nil_subset _, .inr ⟨_, rfl, _, rfl⟩⟩
      · exact ⟨List.nil_subset _, .inl (List.nil_subset _)⟩
    | input | output | pipe | last | started | unstarted =>
      exact ⟨List.nil_subset _, .inr ⟨_, rfl, rfl⟩⟩
    | reaped => exact ⟨List.nil_subset _, .inr ⟨_, rfl, _, _, rfl⟩⟩
    | waited => exact ⟨List.nil_subset _, .inl (List.nil_subset _)⟩
    | refused refused known =>
      have within := Event.isWithinStage_of_error? refused known
      exact ⟨List.nil_subset _, .inr ⟨_, Flow.upcoming?_of_isWithinStage within, within⟩⟩
    | aside awaits aside =>
      rw [Phase.handles_of_awaits awaits]
      exact ⟨List.nil_subset _, .inl (List.nil_subset _)⟩

end Ledger

/-- A list in which one element is replaced looks the same if that does. -/
theorem map_set_of_eq {β γ : Type} {list : List β} {index : Nat} {old new : β}
    (found : list[index]? = some old) {look : β → γ} (same : look new = look old) :
    (list.set index new).map look = list.map look := by
  -- Replacing what is looked at by itself changes nothing.
  obtain ⟨inside, rfl⟩ := List.getElem?_eq_some_iff.mp found
  rw [List.map_set, same, ← List.getElem_map look, List.set_getElem_self]
  rwa [List.length_map]

namespace Machine

variable {history : List Event} {machine after : Machine}

/-- Whether a task has waited for a process and has given up what it kept. -/
def IsDone (machine : Machine) (process : Nat) : Prop :=
  ∃ task ∈ machine.reapers, task.process = process ∧ ∃ status, task.progress = .finished status

end Machine

/-- What holds at every moment of a session: the flow keeps to the ledger of the events so far, and
the interpreter holds what that ledger and its tasks tell. -/
structure Scene.Sound (history : List Event) (ledger : Ledger) (scene : Scene α) : Prop where
  keeps : ledger.Keeps (fun left _ => left.Rests) scene.flow
  books : Ledger.Books history ledger
  places : scene.machine.Places history
  held : scene.machine.held.Perm (ledger.handles ++ scene.machine.kept)
  reapers : scene.machine.reapers.map (fun task => (task.process, task.keeps)) =
    history.filterMap Event.reap?
  waited : ∀ task ∈ scene.machine.reapers, task.progress ≠ .waiting →
    scene.machine.IsReaped task.process

namespace Scene

variable {history : List Event} {ledger : Ledger} {scene : Scene α} {machine after : Machine}

/-- A new task keeps what it is given. -/
theorem kept_of_effect {event : Event} (effect : machine.Effect event after) :
    after.kept = machine.kept ++ (event.reap?.bind (·.2)).toList := by
  rw [Machine.kept, effect.reapers, List.filterMap_append, Machine.kept]
  congr 1
  -- Only a hand-over adds a task, and a new one has not given up anything.
  cases event.reap? with
  | none => rfl
  | some reap =>
    obtain ⟨process, keeps⟩ := reap
    cases keeps <;> rfl

/-- What the interpreter holds follows its ledger. -/
theorem held_of_effect {event : Event} {later : Ledger} (effect : machine.Effect event after)
    (held : machine.held.Perm (ledger.handles ++ machine.kept))
    (perm : (event.lost ++ later.handles).Perm (event.gained ++ ledger.handles)) :
    after.held.Perm (later.handles ++ after.kept) := by
  have now := effect.held
  rw [kept_of_effect effect]
  obtain ⟨call, reply⟩ := event
  cases call with
  | close handle =>
    -- What is closed is one of those that the ledger tells, and it is taken out once.
    have before : machine.held.Perm (handle :: (later.handles ++ machine.kept)) :=
      held.trans (perm.symm.append_right machine.kept)
    have after := before.erase handle
    rw [List.erase_cons_head] at after
    rw [now]
    simpa [Event.reap?] using after
  | reap process keeps =>
    -- The handle goes from the line to the task, and the interpreter still holds it.
    have before : machine.held.Perm (keeps.toList ++ later.handles ++ machine.kept) :=
      held.trans (perm.symm.append_right machine.kept)
    rw [now]
    refine before.trans ?_
    rw [List.append_assoc]
    exact List.perm_append_comm.trans (by simp [Event.reap?])
  | _ =>
    rw [now]
    refine (held.append_left _).trans ?_
    rw [← List.append_assoc]
    exact (perm.symm.append_right machine.kept).trans (by simp [Event.reap?, Event.lost])

/-- An answer along which the ledger makes its step leaves the interpreter with what that tells. -/
theorem Sound.advanced {call : Call} {next : call.Reply → Flow α} {reply : call.Reply}
    {later : Ledger} (sound : Sound history ledger ⟨.ask call next, machine⟩)
    (found : machine.answer call = some (reply, after)) (step : ledger.Step ⟨call, reply⟩ later)
    (keeps : later.Keeps (fun left _ => left.Rests) (next reply)) :
    Sound (history ++ [⟨call, reply⟩]) later ⟨next reply, after⟩ := by
  obtain ⟨effect, isNew, places⟩ := sound.places.answered found
  refine ⟨keeps, .next sound.books isNew step, places,
    held_of_effect effect sound.held step.perm, ?_, ?_⟩
  · rw [effect.reapers, List.map_append, sound.reapers, Event.filterMap_concat]
    congr 1
    cases Event.reap? ⟨call, reply⟩ <;> rfl
  · intro task member progress
    rw [effect.reapers] at member
    rcases List.mem_append.mp member with old | new
    · exact effect.onward.reaped _ (sound.waited task old progress)
    · -- A task that has just been given its process is still waiting for it.
      obtain ⟨reap, _, rfl⟩ := Option.map_eq_some_iff.mp (Option.mem_toList.mp new)
      exact absurd rfl progress

/-- An answer to the interpreter leaves it with what its ledger tells. -/
theorem Sound.answered {call : Call} {next : call.Reply → Flow α} {reply : call.Reply}
    (sound : Sound history ledger ⟨.ask call next, machine⟩)
    (found : machine.answer call = some (reply, after)) :
    ∃ ledger, Sound (history ++ [⟨call, reply⟩]) ledger ⟨next reply, after⟩ := by
  -- The ledger makes its step, and the machine the same one.
  obtain ⟨later, step, keeps⟩ := sound.keeps reply
  exact ⟨later, sound.advanced found step keeps⟩

/-- A step beside the interpreter that leaves it alone leaves it with what its ledger tells. -/
theorem Sound.onward {flow : Flow α} (sound : Sound history ledger ⟨flow, machine⟩)
    (onward : machine.Onward after) : Sound history ledger ⟨flow, after⟩ where
  keeps := sound.keeps
  books := sound.books
  places := sound.places.onward onward
  held := by
    rw [Machine.kept, onward.held, onward.reapers]
    exact sound.held
  reapers := by
    rw [onward.reapers]
    exact sound.reapers
  waited task member progress := by
    rw [onward.reapers] at member
    exact onward.reaped _ (sound.waited task member progress)

/-- A task waits for a process that there is. -/
theorem Sound.isSome_of_task (sound : Sound history ledger scene) {task : ReaperTask}
    (there : task ∈ scene.machine.reapers) : (scene.machine.process? task.process).isSome := by
  -- The process has been handed on, so it has been started, so it is there.
  have handed : (task.process, task.keeps) ∈ history.filterMap Event.reap? := by
    rw [← sound.reapers]
    exact List.mem_map.mpr ⟨task, there, rfl⟩
  refine sound.places.processes _ (sound.books.processes.2 (List.mem_append_left _ ?_))
  exact List.mem_map.mpr ⟨_, handed, rfl⟩

/-- The step of a task leaves the interpreter with what its ledger tells. -/
theorem Sound.stepReaper {flow : Flow α} (sound : Sound history ledger ⟨flow, machine⟩)
    {index : Nat} (stepped : machine.stepReaper index = some after) :
    Sound history ledger ⟨flow, after⟩ := by
  have held := Machine.Owns.stepReaper sound.held stepped
  -- A task makes two steps: it notes the end of its process, and then it closes its handle.
  obtain ⟨task, status, found, ⟨waiting, middle, onward, reaped, rfl⟩ | ⟨closing, rfl⟩⟩ :=
    Machine.stepped_of_stepReaper stepped
  · have there : task ∈ machine.reapers := List.mem_of_getElem? found
    refine ⟨sound.keeps, sound.books, (sound.places.onward onward).own_same middle.held _,
      held, ?_, ?_⟩
    · refine Eq.trans ?_ sound.reapers
      exact map_set_of_eq found rfl
    · intro other member progress
      rcases List.mem_or_eq_of_mem_set member with old | rfl
      · exact onward.reaped _ (sound.waited other old progress)
      · exact reaped (sound.isSome_of_task there)
  · have there : task ∈ machine.reapers := List.mem_of_getElem? found
    refine ⟨sound.keeps, sound.books, sound.places.own_same _ _, held, ?_, ?_⟩
    · refine Eq.trans ?_ sound.reapers
      exact map_set_of_eq found rfl
    · intro other member progress
      rcases List.mem_or_eq_of_mem_set member with old | rfl
      · exact sound.waited other old progress
      · exact sound.waited task there (by simp [closing])

/-- Whoever makes a step beside the interpreter leaves it with what its ledger tells. -/
theorem Sound.moved {flow : Flow α} (sound : Sound history ledger ⟨flow, machine⟩)
    {agent : Machine.Agent} (stepped : machine.step agent = some after) :
    Sound history ledger ⟨flow, after⟩ := by
  cases agent with
  | process number => exact sound.onward (Machine.beside_of_stepProcess stepped).toOnward
  | reaper index => exact sound.stepReaper stepped
  | clock => exact sound.onward (Machine.beside_of_stepClock stepped).toOnward

/-- At every moment of a session the interpreter holds what its ledger tells. -/
theorem Follows.sound {first : Scene α} (follows : Follows first history scene)
    (start : Sound [] {} first) : ∃ ledger, Sound history ledger scene := by
  -- Only the answers of the machine move the ledger on.
  induction follows with
  | refl => exact ⟨{}, start⟩
  | answered _ found ih =>
    obtain ⟨ledger, sound⟩ := ih
    exact sound.answered found
  | moved _ agent found ih =>
    obtain ⟨ledger, sound⟩ := ih
    exact ⟨ledger, sound.moved found⟩

end Scene

end LineShell
