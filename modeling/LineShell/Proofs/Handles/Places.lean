import LineShell.Proofs.Handles.Books
import LineShell.Proofs.Machine.Answers

/-! Places: the pipes and processes of a line, and what is new about those that are made. -/

namespace LineShell

namespace Machine

variable {history : List Event} {machine after : Machine} {call : Call} {reply : call.Reply}

/-- Processes are numbered from one on. -/
theorem process?_isSome (machine : Machine) (number : Nat) :
    (machine.process? number).isSome ↔ 0 < number ∧ number ≤ machine.processes.length := by
  cases number with
  | zero => simp [process?]
  | succ index =>
    have inside : (machine.processes[index]?).isSome ↔ index < machine.processes.length := by simp
    rw [process?, inside]
    omega

/-- Where the pipes and the processes of some events are. -/
structure Places (history : List Event) (machine : Machine) : Prop where
  /-- What the interpreter itself reads and writes is there already. -/
  own : ∀ descriptor handle pipe, machine.ownHandle? descriptor = some handle →
    handle.pipe? = some pipe → pipe < machine.pipes.length
  fifos : ∀ entry ∈ machine.fifos, entry.2 < machine.pipes.length
  gained : ∀ handle ∈ history.flatMap Event.gained, ∀ pipe, handle.pipe? = some pipe →
    pipe < machine.pipes.length
  /-- A pipe of a line is nobody else's. -/
  made : ∀ ends ∈ history.filterMap Event.ends?, ∃ pipe, ends = (.reader pipe, .writer pipe) ∧
    (∀ entry ∈ machine.fifos, entry.2 ≠ pipe) ∧
    ∀ descriptor handle, machine.ownHandle? descriptor = some handle → handle.pipe? ≠ some pipe
  processes : ∀ process ∈ history.filterMap Event.process?, (machine.process? process).isSome

/-- Named pipes and what the interpreter itself reads and writes are where they were. -/
theorem Places.onward (places : Places history machine) (onward : Onward machine after) :
    Places history after := by
  have own (descriptor : Nat) : after.ownHandle? descriptor = machine.ownHandle? descriptor := by
    unfold ownHandle?
    rw [onward.stdin, onward.stdout, onward.stderr]
  -- Pipes and processes only become more, and a new named pipe lies behind all old ones.
  refine ⟨?_, ?_, ?_, ?_, ?_⟩
  · intro descriptor handle pipe reached leads
    rw [own] at reached
    exact Nat.lt_of_lt_of_le (places.own descriptor handle pipe reached leads) onward.pipes
  · intro entry member
    rcases onward.fifos entry member with old | ⟨_, most⟩
    · exact Nat.lt_of_lt_of_le (places.fifos entry old) onward.pipes
    · exact most
  · intro handle member pipe leads
    exact Nat.lt_of_lt_of_le (places.gained handle member pipe leads) onward.pipes
  · intro ends member
    obtain ⟨pipe, rfl, unnamed, apart⟩ := places.made ends member
    refine ⟨pipe, rfl, fun entry named => ?_, fun descriptor handle reached => ?_⟩
    · rcases onward.fifos entry named with old | ⟨least, _⟩
      · exact unnamed entry old
      · have there : pipe < machine.pipes.length :=
          places.gained (.reader pipe) (Event.IsEnd.gained ⟨_, member, .inl rfl⟩) pipe rfl
        omega
    · rw [own] at reached
      exact apart descriptor handle reached
  · intro process member
    have there := places.processes process member
    rw [process?_isSome] at there ⊢
    exact ⟨there.1, Nat.le_trans there.2 onward.processes⟩

/-- One more event is in its place if what it brings is. -/
theorem Places.append (places : Places history machine) {event : Event}
    (gained : ∀ handle ∈ event.gained, ∀ pipe, handle.pipe? = some pipe →
      pipe < machine.pipes.length)
    (made : ∀ ends, event.ends? = some ends → ∃ pipe, ends = (.reader pipe, .writer pipe) ∧
      (∀ entry ∈ machine.fifos, entry.2 ≠ pipe) ∧
      ∀ descriptor handle, machine.ownHandle? descriptor = some handle →
        handle.pipe? ≠ some pipe)
    (process : ∀ process, event.process? = some process → (machine.process? process).isSome) :
    Places (history ++ [event]) machine where
  own := places.own
  fifos := places.fifos
  gained handle member pipe leads := by
    rw [List.flatMap_append, List.mem_append, List.flatMap_singleton] at member
    exact member.elim (places.gained handle · pipe leads) (gained handle · pipe leads)
  made ends member := by
    rw [List.filterMap_append, List.mem_append] at member
    exact member.elim (places.made ends) fun new => made ends (by simpa using new)
  processes number member := by
    rw [List.filterMap_append, List.mem_append] at member
    exact member.elim (places.processes number) fun new => process number (by simpa using new)

/-- An event that makes nothing and opens nothing is in its place. -/
theorem Places.quiet (places : Places history machine) {event : Event} (gained : event.gained = [])
    (ends : event.ends? = none) (process : event.process? = none) :
    Places (history ++ [event]) machine :=
  places.append (by simp [gained]) (by simp [ends]) (by simp [process])

/-- An event that makes nothing and opens nothing brings nothing that has been there. -/
theorem isNew_of_quiet {event : Event} (opened : event.opened? = none) (ends : event.ends? = none)
    (process : event.process? = none) : event.IsNew history :=
  ⟨by simp [opened], by simp [ends], by simp [process]⟩

/-- What is opened leads to no pipe of a line. -/
theorem Places.apart_of_opened (places : Places history machine) {handle : Handle}
    (opened : Opened machine (fun pipe => (∃ number, (number, pipe) ∈ after.fifos) ∨
      ∃ descriptor handle, machine.ownHandle? descriptor = some handle ∧
        handle.pipe? = some pipe) handle after)
    (ends : Handle × Handle) (made : ends ∈ history.filterMap Event.ends?) :
    handle ≠ ends.1 ∧ handle ≠ ends.2 := by
  -- The pipe behind the handle is a named one or a descriptor's, and the line's is neither.
  have onward := opened.around.onward opened.processes
  obtain ⟨pipe, rfl, _, apart⟩ := places.made ends made
  obtain ⟨_, same, unnamed, _⟩ := (places.onward onward).made _ made
  cases same
  have elsewhere : handle.pipe? ≠ some pipe := by
    intro leads
    rcases opened.allowed pipe leads with ⟨number, named⟩ | ⟨descriptor, own, reached, leads⟩
    · exact unnamed _ named rfl
    · exact apart descriptor own reached leads
  exact ⟨fun same => elsewhere (by rw [same]; rfl), fun same => elsewhere (by rw [same]; rfl)⟩

/-- What is opened leads to a pipe that is there, if to any. -/
theorem Places.lt_of_opened (places : Places history machine) {handle : Handle}
    (opened : Opened machine (fun pipe => (∃ number, (number, pipe) ∈ after.fifos) ∨
      ∃ descriptor handle, machine.ownHandle? descriptor = some handle ∧
        handle.pipe? = some pipe) handle after)
    (pipe : Nat) (leads : handle.pipe? = some pipe) : pipe < after.pipes.length := by
  -- Both kinds of pipes that a handle can lead to are there.
  have onward := opened.around.onward opened.processes
  rcases opened.allowed pipe leads with ⟨number, named⟩ | ⟨descriptor, own, reached, leads⟩
  · exact (places.onward onward).fifos _ named
  · exact Nat.lt_of_lt_of_le (places.own descriptor own pipe reached leads) onward.pipes

/-- What an answer to the interpreter does to the handles and reapers that it has, and to all
else. -/
structure Effect (machine : Machine) (event : Event) (after : Machine) : Prop where
  onward : Onward machine { after with held := machine.held, reapers := machine.reapers }
  held : after.held = match event.call with
    | .close handle => machine.held.erase handle
    | _ => event.gained ++ machine.held
  reapers : after.reapers = machine.reapers ++
    (event.reap?.map fun (process, keeps) => ⟨process, keeps, .waiting⟩).toList

/-- An answer that goes on without regard to the interpreter changes nothing for it. -/
theorem Onward.effect (onward : Onward machine after) {event : Event}
    (gained : event.gained = []) (close : ∀ handle, event.call ≠ .close handle)
    (reap : event.reap? = none) : Effect machine event after := by
  -- Handles and reapers are as before, so putting the old ones in place changes nothing.
  refine ⟨?_, ?_, ?_⟩
  · rw [← onward.held, ← onward.reapers]
    exact onward
  · rw [onward.held]
    split
    · rename_i handle closing
      exact absurd closing (close handle)
    · simp [gained]
  · simp [onward.reapers, reap]

/-- The handles and reapers of the interpreter have no place. -/
theorem Places.own_same (places : Places history machine) (held : List Handle)
    (reapers : List ReaperTask) : Places history { machine with held, reapers } :=
  ⟨places.own, places.fifos, places.gained, places.made, places.processes⟩

/-- An answer that goes on without regard to the interpreter brings it nothing. -/
theorem Places.unregarded (places : Places history machine) (onward : Onward machine after)
    {event : Event} (gained : event.gained = []) (close : ∀ handle, event.call ≠ .close handle)
    (reap : event.reap? = none) (opened : event.opened? = none) (ends : event.ends? = none)
    (process : event.process? = none) :
    Effect machine event after ∧ event.IsNew history ∧ Places (history ++ [event]) after :=
  ⟨onward.effect gained close reap, isNew_of_quiet opened ends process,
    (places.onward onward).quiet gained ends process⟩

/-- Files to be read and files to be written are opened alike: what is opened is no pipe of a line
that has been there. -/
theorem Places.opens (places : Places history machine) {path : String} {manner : Manner}
    {result : Except IoError Handle} {event : Event}
    (answered : machine.openHeld path manner = some (result, after))
    (call : ∀ handle, event.call ≠ .close handle) (reap : event.reap? = none)
    (opened : event.opened? = result.toOption) (gained : event.gained = result.toOption.toList)
    (ends : event.ends? = none) (process : event.process? = none) :
    Effect machine event after ∧ event.IsNew history ∧ Places (history ++ [event]) after := by
  rcases opened_of_openHeld answered with ⟨cause, rfl, rfl⟩ | ⟨handle, middle, rfl, rfl, new⟩
  · exact places.unregarded (.refl _) gained call reap opened ends process
  · have onward := new.around.onward new.processes
    -- The handle is put in front of those that are held, and everything else is as before.
    refine ⟨⟨?_, ?_, ?_⟩, ⟨?_, by simp [ends], by simp [process]⟩, ?_⟩
    · rw [← onward.held, ← onward.reapers]
      exact onward
    · rw [gained, onward.held]
      split
      · rename_i other closing
        exact absurd closing (call other)
      · rfl
    · simp [onward.reapers, reap]
    · rw [opened]
      rintro given ⟨⟩
      exact places.apart_of_opened new
    · refine ((places.onward onward).append ?_ (by simp [ends]) (by simp [process])).own_same _
        middle.reapers
      rw [gained]
      rintro given member
      rw [List.mem_singleton.mp member]
      exact places.lt_of_opened new

/-- A new pipe lies behind all others, so nobody has had it before. -/
theorem Places.pipes (places : Places history machine) {reply : Call.pipe.Reply}
    (answered : machine.answer .pipe = some (reply, after)) :
    Effect machine ⟨.pipe, reply⟩ after ∧ (⟨.pipe, reply⟩ : Event).IsNew history ∧
      Places (history ++ [⟨.pipe, reply⟩]) after := by
  cases answered
  have onward : Onward machine machine.addPipe.2 := (around_addPipe machine).onward rfl
  have last : machine.pipes.length < machine.addPipe.2.pipes.length := by simp [addPipe]
  -- All that has been gained so far leads to pipes in front of the new one.
  have fresh (handle : Handle) (leads : handle.pipe? = some machine.pipes.length) :
      handle ∉ history.flatMap Event.gained := fun member =>
    Nat.lt_irrefl _ (places.gained handle member _ leads)
  refine ⟨⟨onward, rfl, (List.append_nil _).symm⟩,
    ⟨fun _ absent => (by cases absent), ?_, fun _ absent => (by cases absent)⟩, ?_⟩
  · rintro reader writer ⟨⟩
    exact ⟨Handle.noConfusion, fresh _ rfl, fresh _ rfl⟩
  · refine ((places.onward onward).append ?_ ?_ ?_).own_same _ machine.reapers
    · intro handle member pipe leads
      simp only [Event.gained, List.mem_cons, List.not_mem_nil, or_false] at member
      rcases member with rfl | rfl <;> cases leads <;> exact last
    · rintro ends ⟨⟩
      refine ⟨machine.pipes.length, rfl, fun entry named => ?_, ?_⟩
      · exact Nat.ne_of_lt (places.fifos entry named)
      · intro descriptor handle reached leads
        exact Nat.lt_irrefl _ (places.own descriptor handle _ reached leads)
    · intro _ absent
      cases absent

/-- A new process has the next number, which is larger than all that are there. -/
theorem Places.starts (places : Places history machine) {command : Command}
    {reply : (Call.spawn command).Reply}
    (answered : machine.answer (.spawn command) = some (reply, after)) :
    Effect machine ⟨.spawn command, reply⟩ after ∧
      (⟨.spawn command, reply⟩ : Event).IsNew history ∧
      Places (history ++ [⟨.spawn command, reply⟩]) after := by
  rcases started_of_start (Option.some.inj answered) with ⟨cause, rfl, rfl⟩ | ⟨process, rfl, rfl⟩
  · exact places.unregarded (.refl _) rfl (fun _ other => Call.noConfusion other) rfl rfl rfl rfl
  · have onward := (beside_addProcess machine process).toOnward
    refine ⟨onward.effect rfl (fun _ other => Call.noConfusion other) rfl,
      ⟨fun _ absent => (by cases absent), fun _ _ absent => (by cases absent), ?_⟩,
      (places.onward onward).append (fun _ none => absurd none List.not_mem_nil)
        (fun _ absent => by cases absent) ?_⟩
    · rintro number ⟨⟩ member
      have there := (process?_isSome machine _).mp (places.processes _ member)
      omega
    · rintro number ⟨⟩
      rw [process?_isSome]
      simp

/-- Every answer to the interpreter has its effect, brings something new, and leaves everything in
its place. -/
theorem Places.answered (places : Places history machine)
    (answered : machine.answer call = some (reply, after)) :
    Effect machine ⟨call, reply⟩ after ∧ (⟨call, reply⟩ : Event).IsNew history ∧
      Places (history ++ [⟨call, reply⟩]) after := by
  cases call with
  | lookup | flush | wait | join | read | write | report =>
    exact places.unregarded (onward_of_answered rfl answered) rfl
      (fun _ other => Call.noConfusion other) rfl rfl rfl rfl
  | openInput path =>
    cases reply <;> exact places.opens answered (fun _ other => Call.noConfusion other)
      rfl rfl rfl rfl rfl
  | openOutput path =>
    cases reply <;> exact places.opens answered (fun _ other => Call.noConfusion other)
      rfl rfl rfl rfl rfl
  | pipe => exact places.pipes answered
  | spawn command => exact places.starts answered
  -- The other two change what the interpreter has, and nothing else.
  | close handle =>
    cases answered
    exact ⟨⟨.refl machine, rfl, (List.append_nil _).symm⟩, isNew_of_quiet rfl rfl rfl,
      (places.quiet rfl rfl rfl).own_same _ machine.reapers⟩
  | reap process keeps =>
    cases answered
    exact ⟨⟨.refl machine, rfl, rfl⟩, isNew_of_quiet rfl rfl rfl,
      (places.quiet rfl rfl rfl).own_same machine.held _⟩

end Machine

end LineShell
