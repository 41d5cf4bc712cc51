import LineShell.Proofs.Handles.Ledger

/-! Books: what a ledger tells about the events that led to it. -/

namespace LineShell

namespace Event

/-- The handle by which a file has been opened. -/
def opened? : Event → Option Handle
  | ⟨.openInput _, .ok handle⟩ => some handle
  | ⟨.openOutput _, .ok handle⟩ => some handle
  | _ => none

/-- The number of a process that has been started. -/
def process? : Event → Option Nat
  | ⟨.spawn _, .ok process⟩ => some process
  | _ => none

/-- The process that is handed to a reaper, and the handle along with it. -/
def reap? : Event → Option (Nat × Option Handle)
  | ⟨.reap process keeps, _⟩ => some (process, keeps)
  | _ => none

/-- The handles that an event brings to the interpreter. -/
def gained : Event → List Handle
  | ⟨.openInput _, .ok handle⟩ => [handle]
  | ⟨.openOutput _, .ok handle⟩ => [handle]
  | ⟨.pipe, .ok (reader, writer)⟩ => [reader, writer]
  | _ => []

/-- The handles that an event takes from a line: given up, or left to a reaper. -/
def lost : Event → List Handle
  | ⟨.close handle, _⟩ => [handle]
  | ⟨.reap _ keeps, _⟩ => keeps.toList
  | _ => []

/-- What is refused brings nothing and takes nothing. -/
theorem moves_of_error? {event : Event} {error : LineError}
    (refused : event.error? = some error) : event.gained = [] ∧ event.lost = [] := by
  -- Only an answer that grants something moves handles.
  unfold error? at refused
  split at refused <;> first | exact ⟨rfl, rfl⟩ | cases refused

/-- What has nothing to do with a line brings nothing and takes nothing. -/
theorem moves_of_isAside {event : Event} (aside : event.call.isAside = true) :
    event.gained = [] ∧ event.lost = [] := by
  obtain ⟨call, reply⟩ := event
  cases call <;> first | exact ⟨rfl, rfl⟩ | cases aside

/-- What has nothing to do with a line hands no process on. -/
theorem reap?_of_isAside {event : Event} (aside : event.call.isAside = true) :
    event.reap? = none := by
  obtain ⟨call, reply⟩ := event
  cases call <;> first | rfl | cases aside

/-- What is refused hands no process on. -/
theorem reap?_of_error? {event : Event} {error : LineError} (refused : event.error? = some error) :
    event.reap? = none := by
  unfold error? at refused
  split at refused <;> first | rfl | cases refused

/-- Starting a program hands nothing on. -/
theorem reap?_of_start? {event : Event} {start : Command × Except IoError Nat}
    (started : event.start? = some start) : event.reap? = none := by
  obtain ⟨call, reply⟩ := event
  cases call <;> first | rfl | cases started

/-- Whether the ends of a new pipe and the number of a new process have not been there before, and a
file that is opened does not lead to a pipe that a line has made. -/
structure IsNew (history : List Event) (event : Event) : Prop where
  opened : ∀ handle, event.opened? = some handle →
    ∀ ends ∈ history.filterMap Event.ends?, handle ≠ ends.1 ∧ handle ≠ ends.2
  ends : ∀ reader writer, event.ends? = some (reader, writer) →
    reader ≠ writer ∧ reader ∉ history.flatMap gained ∧ writer ∉ history.flatMap gained
  process : ∀ process, event.process? = some process → process ∉ history.filterMap process?

/-- An end of a pipe that has been made. -/
def IsEnd (history : List Event) (handle : Handle) : Prop :=
  ∃ ends ∈ history.filterMap Event.ends?, handle = ends.1 ∨ handle = ends.2

/-- A pipe that is made brings both its ends. -/
theorem gained_of_ends? {event : Event} {ends : Handle × Handle} (made : event.ends? = some ends) :
    event.gained = [ends.1, ends.2] := by
  unfold ends? at made
  split at made
  · cases made
    rfl
  · cases made

/-- The ends of a pipe have been brought by some event. -/
theorem IsEnd.gained {history : List Event} {handle : Handle} (isEnd : IsEnd history handle) :
    handle ∈ history.flatMap gained := by
  obtain ⟨ends, made, same⟩ := isEnd
  obtain ⟨event, member, made⟩ := List.mem_filterMap.mp made
  refine List.mem_flatMap.mpr ⟨event, member, ?_⟩
  rw [gained_of_ends? made]
  rcases same with rfl | rfl <;> simp

/-- The end of a pipe remains one. -/
theorem IsEnd.append {history : List Event} {handle : Handle} (isEnd : IsEnd history handle)
    (later : List Event) : IsEnd (history ++ later) handle := by
  obtain ⟨ends, made, same⟩ := isEnd
  exact ⟨ends, by rw [List.filterMap_append]; exact List.mem_append_left _ made, same⟩

/-- What is new does not bring the end of a pipe again. -/
theorem IsNew.notMem_gained {history : List Event} {event : Event} (isNew : event.IsNew history)
    {handle : Handle} (isEnd : IsEnd history handle) : handle ∉ event.gained := by
  obtain ⟨ends, made, same⟩ := id isEnd
  -- A file that is opened leads to no pipe of a line.
  have opened (other : event.opened? = some handle) : False :=
    same.elim (isNew.opened _ other ends made).1 (isNew.opened _ other ends made).2
  intro member
  unfold Event.gained at member
  split at member
  · exact opened (congrArg some (List.mem_singleton.mp member).symm)
  · exact opened (congrArg some (List.mem_singleton.mp member).symm)
  · -- The ends of a new pipe have not been there before.
    have other := isNew.ends _ _ rfl
    simp only [List.mem_cons, List.not_mem_nil, or_false] at member
    rcases member with rfl | rfl
    · exact other.2.1 isEnd.gained
    · exact other.2.2 isEnd.gained
  · cases member

end Event

namespace Ledger

/-- The ledgers to which events lead. -/
inductive Books : List Event → Ledger → Prop
  | start : Books [] {}
  | next {history : List Event} {before after : Ledger} {event : Event}
      (books : Books history before) (isNew : event.IsNew history)
      (step : before.Step event after) : Books (history ++ [event]) after

variable {history : List Event} {ledger before after : Ledger} {event : Event}

/-- What is there after a step, and what it takes away, is what was there and what it brings. -/
theorem Step.perm (step : before.Step event after) :
    (event.lost ++ after.handles).Perm (event.gained ++ before.handles) := by
  -- Most steps only move handles between the phase and what is stray.
  cases step with
  | found awaits | unfound awaits =>
    rw [handles, handles, Phase.handles_of_awaits awaits]
    simp [Event.lost, Event.gained, Phase.handles]
  | input | output | pipe =>
    refine List.perm_iff_count.mpr fun handle => ?_
    simp only [handles, Event.lost, Event.gained, Phase.handles, Option.toList_some,
      List.count_append, List.count_cons, List.count_nil]
    omega
  | refused refused known =>
    rw [(Event.moves_of_error? refused).1, (Event.moves_of_error? refused).2]
    simp [handles, Phase.handles]
  | abandoned split =>
    simp [handles, Event.lost, Event.gained, Phase.handles, split]
  | last | unstarted | reaped | waited =>
    simp [handles, Event.lost, Event.gained, Phase.handles]
  | @started stdin reader writer _ _ input output =>
    -- The end that is kept is taken once out of what the stage holds, and all else is given up.
    have kept : (writer :: (stdin.toList ++ [writer]).erase writer).Perm
        (stdin.toList ++ [writer]) :=
      (List.perm_cons_erase (by simp)).symm
    refine List.perm_iff_count.mpr fun handle => ?_
    have same := kept.count_eq handle
    simp only [handles, Event.lost, Event.gained, Phase.handles, Option.toList_some,
      List.count_append, List.count_cons, List.count_nil] at same ⊢
    omega
  | closed =>
    simp only [handles, Event.lost, Event.gained, List.singleton_append, List.nil_append]
    exact List.perm_middle.symm
  | aside awaits aside =>
    rw [(Event.moves_of_isAside aside).1, (Event.moves_of_isAside aside).2]

/-- What is held for a line, and what has been taken, is what events have brought. -/
theorem Books.perm (books : Books history ledger) :
    (history.flatMap Event.lost ++ ledger.handles).Perm (history.flatMap Event.gained) := by
  induction books with
  | start => exact .refl _
  | @next history before after event books isNew step ih =>
    simp only [List.flatMap_append, List.flatMap_singleton, List.append_assoc]
    exact (step.perm.append_left _).trans <| List.perm_append_comm_assoc .. |>.trans <|
      (ih.append_left _).trans List.perm_append_comm

/-- No end of a pipe is brought twice. -/
theorem Books.count_le (books : Books history ledger) {handle : Handle}
    (isEnd : Event.IsEnd history handle) : (history.flatMap Event.gained).count handle ≤ 1 := by
  induction books with
  | start => exact Nat.zero_le _
  | @next history before after event books isNew step ih =>
    rw [List.flatMap_append, List.count_append, List.flatMap_singleton]
    -- Either the pipe has been there before, or this event has made it.
    by_cases old : Event.IsEnd history handle
    · rw [List.count_eq_zero.mpr (isNew.notMem_gained old), Nat.add_zero]
      exact ih old
    · -- The pipe has been made just now.
      obtain ⟨ends, made, same⟩ := isEnd
      have made : event.ends? = some ends := by
        rw [List.filterMap_append, List.mem_append] at made
        rcases made with made | made
        · exact absurd ⟨ends, made, same⟩ old
        · simpa using made
      obtain ⟨reader, writer⟩ := ends
      obtain ⟨apart, new_reader, new_writer⟩ := isNew.ends reader writer made
      rw [Event.gained_of_ends? made]
      rcases same with rfl | rfl
      · rw [List.count_eq_zero.mpr new_reader]
        simp [Ne.symm apart]
      · rw [List.count_eq_zero.mpr new_writer]
        simp [apart]

/-- The end of a pipe that has been taken from a line is no longer held for it, and none is held
twice. -/
theorem Books.once (books : Books history ledger) {handle : Handle}
    (isEnd : Event.IsEnd history handle) :
    (history.flatMap Event.lost).count handle + ledger.handles.count handle ≤ 1 := by
  rw [← List.count_append, books.perm.count_eq]
  exact books.count_le isEnd

/-- The process that has been started and not been waited for or handed on. -/
def process? (ledger : Ledger) : Option Nat :=
  match ledger.phase with
  | .launched process _ _ => some process
  | .idle _ | .building .. | .piped .. => none

/-- The processes that have been handed to reapers. -/
def handedOn (history : List Event) : List Nat :=
  (history.filterMap Event.reap?).map (·.1)

/-- What a stage can begin with is no process. -/
theorem process?_of_awaits {phase : Phase} {source : Option Handle} {stray : List Handle}
    (awaits : phase.Awaits source) : (⟨phase, stray⟩ : Ledger).process? = none := by
  rcases Phase.cases_of_awaits awaits with rfl | ⟨rfl, _⟩
  · rfl
  · rfl

/-- A step hands on, or leaves, no other process than the one that it starts or that was there. -/
theorem Step.sublist (step : before.Step event after) :
    (handedOn [event] ++ after.process?.toList).Sublist
      (event.process?.toList ++ before.process?.toList) := by
  -- A wait for the last stage drops its process; nothing else gets lost.
  cases step with
  | found awaits | unfound awaits =>
    rw [process?_of_awaits awaits]
    exact .slnil
  | refused refused known =>
    simp [handedOn, Event.reap?_of_error? refused, process?]
  | aside awaits aside =>
    simp [handedOn, Event.reap?_of_isAside aside, process?_of_awaits awaits]
  | closed => exact List.Sublist.refl _
  | input | output | pipe | abandoned | unstarted => exact .slnil
  | last | started | reaped => exact List.Sublist.refl _
  | waited => exact List.nil_sublist _

/-- A process is started before it is handed on, and handed on once. -/
theorem Books.processes (books : Books history ledger) :
    (handedOn history ++ ledger.process?.toList).Nodup ∧
      handedOn history ++ ledger.process?.toList ⊆ history.filterMap Event.process? := by
  induction books with
  | start => exact ⟨.nil, nofun⟩
  | @next history before after event books isNew step ih =>
    obtain ⟨nodup, within⟩ := ih
    -- The step takes from what was there and what is new, and the number of a new process has not
    -- been there.
    have split : handedOn (history ++ [event]) = handedOn history ++ handedOn [event] := by
      simp [handedOn]
    have sublist : (handedOn history ++ (handedOn [event] ++ after.process?.toList)).Sublist
        (handedOn history ++ (event.process?.toList ++ before.process?.toList)) :=
      step.sublist.append_left _
    have perm : (handedOn history ++ (event.process?.toList ++ before.process?.toList)).Perm
        (event.process?.toList ++ (handedOn history ++ before.process?.toList)) :=
      List.perm_append_comm_assoc ..
    rw [split, List.append_assoc, List.filterMap_append]
    refine ⟨sublist.nodup (perm.nodup_iff.mpr ?_), fun process member => ?_⟩
    · refine List.nodup_append.mpr ⟨?_, nodup, ?_⟩
      · cases event.process? <;> simp
      · rintro process started other old rfl
        exact isNew.process process (Option.mem_toList.mp started) (within old)
    · rcases List.mem_append.mp (perm.mem_iff.mp (sublist.subset member)) with started | old
      · exact List.mem_append_right _ (by simpa using started)
      · exact List.mem_append_left _ (within old)

end Ledger

end LineShell
