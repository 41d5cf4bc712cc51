import LineShell.Proofs.Handles.Books

/-! Fates: what becomes of the two ends of a pipe, and of a file, by the events that follow. -/

namespace LineShell

/-- What may have happened since a pipe was made while its reading end is held: the stage before it
has been started at most, so many commands have been looked up, and the next stage has got no file
to read from instead. -/
structure Untaken (lookups : Nat) (later : List Event) : Prop where
  granted : ∀ event ∈ later, event.error? = none
  starts : (later.filterMap Event.start?).length ≤ 1
  lookups : (later.filterMap Event.name?).length ≤ lookups
  files : later.filterMap Event.source? = []

namespace Untaken

variable {lookups : Nat} {later : List Event} {event : Event}

/-- At first nothing has happened. -/
theorem nil : Untaken lookups [] :=
  ⟨List.forall_mem_nil _, Nat.zero_le _, Nat.zero_le _, rfl⟩

/-- An event that is none of the next stage's changes nothing. -/
theorem append (untaken : Untaken lookups later) (granted : event.error? = none)
    (start : event.start? = none) (name : event.name? = none) (file : event.source? = none) :
    Untaken lookups (later ++ [event]) where
  granted := Event.granted_append untaken.granted granted
  starts := by simpa [start] using untaken.starts
  lookups := by simpa [name] using untaken.lookups
  files := by simpa [file] using untaken.files

/-- The stage before the pipe may be started once. -/
theorem start (untaken : Untaken lookups later) (unstarted : later.filterMap Event.start? = [])
    (granted : event.error? = none) (name : event.name? = none) (file : event.source? = none) :
    Untaken lookups (later ++ [event]) where
  granted := Event.granted_append untaken.granted granted
  starts := by
    rw [List.filterMap_append, unstarted]
    exact List.length_filterMap_le ..
  lookups := by simpa [name] using untaken.lookups
  files := by simpa [file] using untaken.files

/-- The next command may be looked up once. -/
theorem lookup (untaken : Untaken 0 later) (granted : event.error? = none)
    (start : event.start? = none) (file : event.source? = none) :
    Untaken 1 (later ++ [event]) where
  granted := Event.granted_append untaken.granted granted
  starts := by simpa [start] using untaken.starts
  lookups := by
    have none := List.eq_nil_of_length_eq_zero (Nat.le_zero.mp untaken.lookups)
    rw [List.filterMap_append, none]
    exact List.length_filterMap_le ..
  files := by simpa [file] using untaken.files

end Untaken

/-- The reading end of a pipe is held only where it belongs, and as long as it is not taken. -/
def Phase.Owes (reader : Handle) (later : List Event) : Phase → Prop
  | .idle next => next = some reader → Untaken 0 later
  | .building stdin stdout => (stdin = some reader → Untaken 1 later) ∧ stdout ≠ some reader
  | .piped stdin next writer => (stdin = some reader → Untaken 1 later) ∧
      (next = reader → Untaken 0 later ∧ later.filterMap Event.start? = []) ∧ writer ≠ reader
  | .launched _ keeps next => keeps ≠ some reader ∧ (next = some reader → Untaken 0 later)

/-- Giving up something else leaves a reading end where it is. -/
theorem Phase.Owes.close {phase : Phase} {reader : Handle} {later : List Event}
    (owes : phase.Owes reader later) (handle : Handle) :
    phase.Owes reader (later ++ [⟨.close handle, ()⟩]) := by
  -- Closing is no refusal, and starts, opens and looks up nothing.
  cases phase with
  | idle next => exact fun same => (owes same).append rfl rfl rfl rfl
  | building stdin stdout =>
    exact ⟨fun same => (owes.1 same).append rfl rfl rfl rfl, owes.2⟩
  | piped stdin next writer =>
    refine ⟨fun same => (owes.1 same).append rfl rfl rfl rfl, fun same => ?_, owes.2.2⟩
    obtain ⟨untaken, unstarted⟩ := owes.2.1 same
    exact ⟨untaken.append rfl rfl rfl rfl, by simp [unstarted, Event.start?]⟩
  | launched process keeps next =>
    exact ⟨owes.1, fun same => (owes.2 same).append rfl rfl rfl rfl⟩

/-- Between lines no reading end is held. -/
theorem Phase.owes_of_awaits_none {phase : Phase} (awaits : phase.Awaits none) (reader : Handle)
    (later : List Event) : phase.Owes reader later := by
  rcases cases_of_awaits awaits with rfl | ⟨rfl, _⟩
  · exact nofun
  · exact ⟨nofun, nofun⟩

namespace Ledger

variable {history later : List Event} {ledger before after : Ledger} {event : Event}
  {reader writer : Handle}

/-- Where a stage begins, the reading end is at most what it has to read. -/
theorem owes_of_awaits {phase : Phase} {source : Option Handle} (awaits : phase.Awaits source)
    (owes : phase.Owes reader later) (same : source = some reader) : Untaken 0 later := by
  rcases Phase.cases_of_awaits awaits with rfl | ⟨rfl, absent⟩
  · exact owes same
  · -- A stage that holds nothing has nothing to read from.
    rw [absent] at same
    cases same

/-- Every step leaves the reading end of a pipe where it belongs. -/
theorem Step.owes (step : before.Step event after) (owes : before.phase.Owes reader later)
    (old : reader ∉ event.gained) : after.phase.Owes reader (later ++ [event]) := by
  -- A reading end can only move on from one stage to the next. Whatever is opened or made by the
  -- event is another handle than that end, so it cannot bring it into a wrong place.
  cases step with
  | found awaits =>
    exact ⟨fun same => (owes_of_awaits awaits owes same).lookup rfl rfl rfl, nofun⟩
  | unfound awaits => exact nofun
  | input =>
    refine ⟨fun same => ?_, owes.2⟩
    cases same
    exact absurd (List.mem_singleton_self _) old
  | output =>
    refine ⟨fun same => (owes.1 same).append rfl rfl rfl rfl, fun same => ?_⟩
    cases same
    exact absurd (List.mem_singleton_self _) old
  | pipe =>
    refine ⟨fun same => (owes.1 same).append rfl rfl rfl rfl, ?_, ?_⟩
    · rintro rfl
      exact absurd List.mem_cons_self old
    · rintro rfl
      exact absurd (List.mem_cons_of_mem _ List.mem_cons_self) old
  | refused | abandoned | unstarted | waited => exact nofun
  | last => exact ⟨nofun, nofun⟩
  | started =>
    obtain ⟨_, next, apart⟩ := owes
    refine ⟨fun same => apart (Option.some.inj same), fun same => ?_⟩
    obtain ⟨untaken, unstarted⟩ := next (Option.some.inj same)
    exact untaken.start unstarted rfl rfl rfl
  | reaped => exact fun same => (owes.2 same).append rfl rfl rfl rfl
  | closed => exact owes.close _
  | aside awaits _ => exact Phase.owes_of_awaits_none awaits reader _

/-- What is held in a phase was held in the one before, or has just been brought. -/
theorem Step.phase_subset (step : before.Step event after) :
    after.phase.handles ⊆ event.gained ++ before.phase.handles := by
  -- What a step opens or makes is gained, and all else it leaves in the phase was there.
  cases step with
  | found awaits =>
    rw [Phase.handles_of_awaits awaits]
    simp [Phase.handles]
  | unfound | refused | abandoned | last | unstarted | waited => exact List.nil_subset _
  | input | output | pipe =>
    intro handle member
    simp only [Phase.handles, Event.gained, List.mem_append, List.mem_cons, Option.mem_toList,
      List.not_mem_nil, or_false, Option.toList_some] at member ⊢
    grind
  | started => exact List.subset_append_right _ _
  | reaped => exact List.subset_append_right [_] _
  | closed => exact List.subset_append_right _ _
  | aside => exact List.subset_append_right _ _

/-- A process that is handed on has been launched, and its end of a pipe goes along. -/
theorem Step.launched_of_reap? (step : before.Step event after) {process : Nat}
    {keeps : Option Handle} (reap : event.reap? = some (process, keeps)) :
    ∃ reader writer, keeps = some writer ∧
      before.phase = .launched process (some writer) (some reader) := by
  -- Of all steps only one hands a process on.
  cases step with
  | refused refused _ =>
    rw [Event.reap?_of_error? refused] at reap
    cases reap
  | aside _ aside =>
    rw [Event.reap?_of_isAside aside] at reap
    cases reap
  | reaped =>
    cases reap
    exact ⟨_, _, rfl, rfl⟩
  | _ => cases reap

/-- What has become of the writing end of a pipe by the events since the pipe was made, the last of
all that have happened. -/
structure Fate (reader writer : Handle) (later history : List Event) (ledger : Ledger) : Prop where
  /-- The stage that writes the pipe has still to be started. -/
  unstarted : later.filterMap Event.start? = [] →
    ∃ stdin, ledger.phase = .piped stdin reader writer
  /-- It has been started, and will be handed on along with the end that it writes. -/
  started : ∀ command process others,
    later.filterMap Event.start? = (command, .ok process) :: others →
      command.stdout = some writer ∧
        (ledger.phase = .launched process (some writer) (some reader) ∨
          (process, some writer) ∈ history.filterMap Event.reap?)
  /-- It could not be started, and has been given up. -/
  refused : ∀ command cause others,
    later.filterMap Event.start? = (command, .error cause) :: others →
      writer ∉ ledger.phase.handles ∧
        ∀ process, (process, some writer) ∉ history.filterMap Event.reap?

/-- What is held for a line has not been handed on. -/
theorem Books.notMem_reap (books : Books history ledger) {handle : Handle}
    (isEnd : Event.IsEnd history handle) (held : handle ∈ ledger.handles) (process : Nat) :
    (process, some handle) ∉ history.filterMap Event.reap? := by
  intro member
  obtain ⟨event, member, reap⟩ := List.mem_filterMap.mp member
  -- What is handed on is taken from the line, and an end is never taken and held at once.
  have lost : handle ∈ history.flatMap Event.lost := by
    refine List.mem_flatMap.mpr ⟨event, member, ?_⟩
    unfold Event.reap? at reap
    split at reap
    · cases reap
      exact List.mem_singleton_self _
    · cases reap
  have once := books.once isEnd
  have first := List.count_pos_iff.mpr lost
  have second := List.count_pos_iff.mpr held
  omega

/-- A stage before a pipe waits to be started, and its end of the pipe goes along. -/
theorem Step.of_piped (step : before.Step event after) {stdin : Option Handle}
    (piped : before.phase = .piped stdin reader writer) :
    (event.start? = none ∧ after.phase = before.phase) ∨
      (∃ command process, event.start? = some (command, .ok process) ∧
        command.stdout = some writer ∧
        after.phase = .launched process (some writer) (some reader)) ∨
      ∃ command cause, event.start? = some (command, .error cause) ∧ after.phase = .idle none := by
  -- Besides giving up what is stray, only a start can follow in this phase.
  cases step with
  | closed => exact .inl ⟨rfl, rfl⟩
  | started _ output =>
    cases piped
    exact .inr (.inl ⟨_, _, rfl, output, rfl⟩)
  | unstarted => exact .inr (.inr ⟨_, _, rfl, rfl⟩)
  | found awaits | unfound awaits | aside awaits =>
    subst piped
    exact awaits.elim
  | _ => cases piped

/-- A stage that has been started is handed on along with its end of the pipe. -/
theorem Step.of_launched (step : before.Step event after) {process : Nat}
    (launched : before.phase = .launched process (some writer) (some reader)) :
    after.phase = before.phase ∨ event.reap? = some (process, some writer) := by
  -- Besides giving up what is stray, only the hand-over can follow on the start.
  cases step with
  | closed => exact .inl rfl
  | reaped =>
    cases launched
    exact .inr rfl
  | found awaits | unfound awaits | aside awaits =>
    subst launched
    exact awaits.elim
  | _ => cases launched

/-- As long as nothing has been started, the stage before the pipe is still there. -/
theorem Fate.of_unstarted {stdin : Option Handle} (starts : later.filterMap Event.start? = [])
    (piped : ledger.phase = .piped stdin reader writer) :
    Fate reader writer later history ledger where
  unstarted _ := ⟨stdin, piped⟩
  started _ _ _ some := by cases starts.symm.trans some
  refused _ _ _ some := by cases starts.symm.trans some

/-- The first start settles the fate of the pipe, when it is granted. -/
theorem Fate.of_started {command : Command} {process : Nat}
    {others : List (Command × Except IoError Nat)}
    (starts : later.filterMap Event.start? = (command, .ok process) :: others)
    (output : command.stdout = some writer)
    (handed : ledger.phase = .launched process (some writer) (some reader) ∨
      (process, some writer) ∈ history.filterMap Event.reap?) :
    Fate reader writer later history ledger where
  unstarted none := by cases starts.symm.trans none
  started _ _ _ some := by
    cases starts.symm.trans some
    exact ⟨output, handed⟩
  refused _ _ _ some := by cases starts.symm.trans some

/-- So it does when it is refused. -/
theorem Fate.of_refused {command : Command} {cause : IoError}
    {others : List (Command × Except IoError Nat)}
    (starts : later.filterMap Event.start? = (command, .error cause) :: others)
    (free : writer ∉ ledger.phase.handles)
    (unhanded : ∀ process, (process, some writer) ∉ history.filterMap Event.reap?) :
    Fate reader writer later history ledger where
  unstarted none := by cases starts.symm.trans none
  started _ _ _ some := by cases starts.symm.trans some
  refused _ _ _ _ := ⟨free, unhanded⟩

/-- The fate of a pipe takes its course. -/
theorem Fate.step (fate : Fate reader writer later history before) (books : Books history before)
    (step : before.Step event after) (isEnd : Event.IsEnd history writer)
    (old : writer ∉ event.gained) :
    Fate reader writer (later ++ [event]) (history ++ [event]) after := by
  have reaps : (history ++ [event]).filterMap Event.reap? =
      history.filterMap Event.reap? ++ event.reap?.toList :=
    Event.filterMap_concat ..
  -- Either the stage has still to be started, or the first start has settled its fate.
  cases starts : later.filterMap Event.start? with
  | nil =>
    obtain ⟨stdin, piped⟩ := fate.unstarted starts
    have now : (later ++ [event]).filterMap Event.start? = event.start?.toList := by
      rw [Event.filterMap_concat, starts, List.nil_append]
    rcases step.of_piped piped with
      ⟨none, same⟩ | ⟨command, process, start, output, launched⟩ | ⟨command, cause, start, idle⟩
    · rw [none] at now
      exact .of_unstarted now (same.trans piped)
    · rw [start] at now
      exact .of_started now output (.inl launched)
    · rw [start] at now
      refine .of_refused now ?_ fun process member => ?_
      · rw [idle]
        exact List.not_mem_nil
      -- The end has been held up to now, so no reaper can have got it.
      have held : writer ∈ before.handles := by simp [handles, piped, Phase.handles]
      rw [reaps] at member
      rcases List.mem_append.mp member with old | new
      · exact books.notMem_reap isEnd held process old
      · rw [Event.reap?_of_start? start] at new
        cases new
  | cons first rest =>
    have now : (later ++ [event]).filterMap Event.start? =
        first :: (rest ++ event.start?.toList) := by
      rw [Event.filterMap_concat, starts, List.cons_append]
    obtain ⟨command, cause | process⟩ := first
    · obtain ⟨free, unhanded⟩ := fate.refused _ _ _ starts
      refine .of_refused now (fun member => ?_) fun process member => ?_
      · rcases List.mem_append.mp (step.phase_subset member) with new | held
        · exact old new
        · exact free held
      · rw [reaps] at member
        rcases List.mem_append.mp member with past | new
        · exact unhanded process past
        · -- Only what is still held could be handed on now.
          obtain ⟨_, _, same, launched⟩ := step.launched_of_reap? (Option.mem_toList.mp new)
          cases same
          exact free (launched ▸ List.mem_cons_self)
    · obtain ⟨output, handed⟩ := fate.started _ _ _ starts
      refine .of_started now output ?_
      rw [reaps]
      rcases handed with launched | handed
      · rcases step.of_launched launched with same | reap
        · exact .inl (same.trans launched)
        · exact .inr (by simp [reap])
      · exact .inr (List.mem_append_left _ handed)

/-- Every pipe has its fate, and its reading end is where it belongs. -/
theorem Books.fate (books : Books history ledger) {earlier : List Event}
    (split : history = earlier ++ ⟨.pipe, .ok (reader, writer)⟩ :: later) :
    Fate reader writer later history ledger ∧ ledger.phase.Owes reader later := by
  induction books generalizing later with
  | start => simp at split
  | @next history before after event books isNew step ih =>
    -- The last event of all is the last of the later ones, unless it is the pipe itself.
    rcases List.eq_nil_or_concat later with rfl | ⟨later, last, rfl⟩
    · -- The pipe has been made just now.
      obtain ⟨rfl, same⟩ := List.append_inj' split rfl
      cases same
      cases step with
      | pipe =>
        exact ⟨.of_unstarted rfl rfl, fun _ => .nil, fun _ => ⟨.nil, rfl⟩,
          Ne.symm (isNew.ends reader writer rfl).1⟩
      | refused refused _ => cases refused
      | aside _ aside => cases aside
    · rw [List.concat_eq_append] at split ⊢
      rw [← List.cons_append, ← List.append_assoc] at split
      obtain ⟨same, new⟩ := List.append_inj' split rfl
      cases new
      obtain ⟨fate, owes⟩ := ih same
      have made : (reader, writer) ∈ history.filterMap Event.ends? := by
        rw [same, List.filterMap_append]
        exact List.mem_append_right _ List.mem_cons_self
      have read_end : Event.IsEnd history reader := ⟨_, made, .inl rfl⟩
      have written_end : Event.IsEnd history writer := ⟨_, made, .inr rfl⟩
      exact ⟨fate.step books step written_end (isNew.notMem_gained written_end),
        step.owes owes (isNew.notMem_gained read_end)⟩

/-- A file has been opened for the stage that is at hand: no command has been looked up, no program
started and nothing refused since. -/
def Recent (history : List Event) (handle : Handle) : Prop :=
  ∃ earlier event later, history = earlier ++ event :: later ∧ event.opened? = some handle ∧
    ∀ other ∈ later, other.name? = none ∧ other.start? = none ∧ other.error? = none

/-- The handles of a phase are ends of pipes, apart from the files of a stage that is being
built. -/
def Sourced (history : List Event) : Phase → Prop
  | .idle next => ∀ handle, next = some handle → Event.IsEnd history handle
  | .building stdin stdout => ∀ handle, stdin = some handle ∨ stdout = some handle →
      Event.IsEnd history handle ∨ Recent history handle
  | .piped stdin reader writer =>
      (∀ handle, stdin = some handle → Event.IsEnd history handle ∨ Recent history handle) ∧
      (reader, writer) ∈ history.filterMap Event.ends?
  | .launched _ keeps next =>
      (∀ handle, keeps = some handle → ∃ reader, (reader, handle) ∈ history.filterMap Event.ends?) ∧
      ∀ handle, next = some handle → Event.IsEnd history handle

/-- A file that has just been opened is recent. -/
theorem Recent.last {handle : Handle} (opened : event.opened? = some handle) :
    Recent (history ++ [event]) handle :=
  ⟨history, event, [], rfl, opened, List.forall_mem_nil _⟩

/-- A file stays recent as long as nothing else is begun or ended. -/
theorem Recent.append {handle : Handle} (recent : Recent history handle)
    (name : event.name? = none) (start : event.start? = none) (granted : event.error? = none) :
    Recent (history ++ [event]) handle := by
  obtain ⟨earlier, opening, later, split, opened, quiet⟩ := recent
  refine ⟨earlier, opening, later ++ [event], by simp [split], opened, fun other member => ?_⟩
  -- The opening stays where it is, and the new event comes after it.
  rcases List.mem_append.mp member with old | new
  · exact quiet other old
  · rw [List.mem_singleton.mp new]
    exact ⟨name, start, granted⟩

/-- A pipe that has been made stays made. -/
theorem made_append {ends : Handle × Handle} (made : ends ∈ history.filterMap Event.ends?) :
    ends ∈ (history ++ [event]).filterMap Event.ends? := by
  rw [List.filterMap_append]
  exact List.mem_append_left _ made

/-- A handle that comes from somewhere still does after one more event of the same stage. -/
theorem sourced_append {handle : Handle} (name : event.name? = none) (start : event.start? = none)
    (granted : event.error? = none) (sourced : Event.IsEnd history handle ∨ Recent history handle) :
    Event.IsEnd (history ++ [event]) handle ∨ Recent (history ++ [event]) handle :=
  sourced.imp (·.append _) (·.append name start granted)

/-- Giving up something else leaves every handle where it comes from. -/
theorem Sourced.close {phase : Phase} (sourced : Sourced history phase) (handle : Handle) :
    Sourced (history ++ [⟨.close handle, ()⟩]) phase := by
  -- Ends of pipes stay what they are, and a file that is recent stays so.
  cases phase with
  | idle next => exact fun handle same => (sourced handle same).append _
  | building stdin stdout =>
    exact fun handle same => sourced_append rfl rfl rfl (sourced handle same)
  | piped stdin reader writer =>
    exact ⟨fun handle same => sourced_append rfl rfl rfl (sourced.1 handle same),
      made_append sourced.2⟩
  | launched process keeps next =>
    exact ⟨fun handle same => (sourced.1 handle same).imp fun _ => made_append,
      fun handle same => (sourced.2 handle same).append _⟩

/-- Between lines nothing is held. -/
theorem sourced_of_awaits_none {phase : Phase} (awaits : phase.Awaits none) :
    Sourced history phase := by
  rcases Phase.cases_of_awaits awaits with rfl | ⟨rfl, _⟩
  · exact nofun
  · rintro handle (same | same) <;> cases same

/-- What a stage begins with is the end of a pipe. -/
theorem isEnd_of_awaits {phase : Phase} {source : Option Handle} (awaits : phase.Awaits source)
    (sourced : Sourced history phase) (handle : Handle) (same : source = some handle) :
    Event.IsEnd history handle := by
  rcases Phase.cases_of_awaits awaits with rfl | ⟨rfl, absent⟩
  · exact sourced handle same
  · -- A stage that holds nothing has no source.
    rw [absent] at same
    cases same

/-- Every step leaves handles that come from somewhere. -/
theorem Step.sourced (step : before.Step event after) (sourced : Sourced history before.phase) :
    Sourced (history ++ [event]) after.phase := by
  -- A file is recent when it is opened; ends of pipes come from earlier events.
  cases step with
  | found awaits =>
    rintro handle (same | same)
    · exact .inl ((isEnd_of_awaits awaits sourced handle same).append _)
    · cases same
  | unfound | refused | abandoned | unstarted | waited => exact nofun
  | input =>
    rintro handle (same | same)
    · cases same
      exact .inr (.last rfl)
    · exact sourced_append rfl rfl rfl (sourced handle (.inr same))
  | output =>
    rintro handle (same | same)
    · exact sourced_append rfl rfl rfl (sourced handle (.inl same))
    · cases same
      exact .inr (.last rfl)
  | pipe =>
    refine ⟨fun handle same => sourced_append rfl rfl rfl (sourced handle (.inl same)), ?_⟩
    rw [List.filterMap_append]
    exact List.mem_append_right _ List.mem_cons_self
  | last => exact ⟨nofun, nofun⟩
  | started =>
    refine ⟨fun handle same => ?_, fun handle same => ?_⟩
    · cases same
      exact ⟨_, made_append sourced.2⟩
    · cases same
      exact ⟨_, made_append sourced.2, .inl rfl⟩
  | reaped => exact fun handle same => (sourced.2 handle same).append _
  | closed => exact sourced.close _
  | aside awaits _ => exact sourced_of_awaits_none awaits

/-- Every handle of a line comes from somewhere, and what a reaper keeps is an end of a pipe that is
written. -/
theorem Books.sourced (books : Books history ledger) :
    Sourced history ledger.phase ∧
      ∀ process keeps, (process, keeps) ∈ history.filterMap Event.reap? →
        ∃ ends ∈ history.filterMap Event.ends?, keeps = some ends.2 := by
  induction books with
  | start => exact ⟨nofun, nofun⟩
  | @next history before after event books isNew step ih =>
    obtain ⟨sourced, reaps⟩ := ih
    refine ⟨step.sourced sourced, fun process keeps member => ?_⟩
    rw [List.filterMap_append] at member
    -- A reaper gets its end from a stage before a pipe, whose end is that of the pipe.
    rcases List.mem_append.mp member with old | new
    · obtain ⟨ends, made, same⟩ := reaps process keeps old
      exact ⟨ends, made_append made, same⟩
    · obtain ⟨reader, writer, rfl, launched⟩ := step.launched_of_reap? (by simpa using new)
      rw [launched] at sourced
      obtain ⟨_, made⟩ := sourced.1 writer rfl
      exact ⟨_, made_append made, rfl⟩

end Ledger

end LineShell
