import LineShell.Proofs.Streams.Carrying

/-! Running: what holds at every moment of a plain line to which everything is granted. -/

namespace LineShell

/-- A program that is to be started is the whole event. -/
theorem Event.eq_of_start? {event : Event} {command : Command} {reply : Except IoError Nat}
    (start : event.start? = some (command, reply)) : event = ⟨.spawn command, reply⟩ := by
  unfold Event.start? at start
  split at start <;> cases start
  rfl

/-- What is granted counts for as many starts as there are new processes. -/
theorem Event.starts_eq {event : Event} (granted : event.error? = none) :
    (Tally.ofEvent event).starts = event.process?.toList.length := by
  obtain ⟨call, reply⟩ := event
  cases call with
  | spawn command =>
    cases reply with
    | error cause => cases granted
    | ok process => rfl
  | _ => rfl

/-- Errands ask for nothing but what is done for lines, and for reapers to be joined. -/
theorem Session.asks_perform (errands : List Errand) (session : Session) (reapers : List Reaper) :
    (perform errands session reapers).Asks fun call =>
      call.IsOfLine ∨ ∃ process, call = .join process := by
  -- A join of a number without a reaper asks for nothing at all.
  induction errands generalizing session reapers with
  | nil => exact trivial
  | cons errand rest ih =>
    cases errand with
    | run line =>
      rw [perform_run]
      exact ((session.asks_run line).mono fun _ => .inl).bind fun result =>
        (ih _ _).bind fun record => trivial
    | join number =>
      cases found : reapers[number]? with
      | none =>
        rw [perform_join_none found]
        exact ih _ _
      | some reaper =>
        rw [perform_join found]
        exact ⟨.inr ⟨_, rfl⟩, fun status => (ih _ _).bind fun record => trivial⟩

namespace Chain

variable {chain : Chain} {wiring : Wiring} {tally : Tally} {first machine after : Machine}

/-- Whatever the interpreter is answered, the bytes of a plain line are carried on, and all that it
gets has the next number. -/
theorem Carries.answered (carries : chain.Carries wiring first tally machine)
    (suits : chain.Suits wiring first) {call : Call} {reply : call.Reply}
    (kind : call.IsOfLine ∨ ∃ process, call = .join process)
    (granted : Event.error? ⟨call, reply⟩ = none) (due : wiring.IsDue tally ⟨call, reply⟩)
    (meant : ∀ command process, Event.start? ⟨call, reply⟩ = some (command, .ok process) →
      command.stdin = wiring.source? tally.starts ∧ command.stdout = wiring.sink? tally.starts ∧
        command.stderr = none ∧
        ∀ filter behaviour, chain.filters[tally.starts]? = some filter →
          machine.loadNamed command.program command.arguments = .ok behaviour →
            filter.Acts (chain.stream tally.starts) behaviour)
    (found : machine.answer call = some (reply, after)) :
    wiring.Numbers tally ⟨call, reply⟩ ∧
      chain.Carries wiring first (tally.add (.ofEvent ⟨call, reply⟩)) after := by
  -- What is no action brings nothing and counts for nothing.
  have quietly {event : Event} (opened : event.opened? = none) (ends : event.ends? = none)
      (process : event.process? = none) : wiring.Numbers tally event :=
    ⟨by simp [opened], by simp [ends], by simp [process]⟩
  cases call with
  | lookup name =>
    cases found
    obtain ⟨passing, grown⟩ := carries
    exact ⟨quietly rfl rfl rfl, passing, grown.processes, grown.pipes, grown.openings, grown.clock,
      grown.directory, grown.stdin, grown.stdout, grown.files⟩
  | close | reap =>
    cases found
    exact ⟨quietly rfl rfl rfl, carries.own_same _ _⟩
  | join process =>
    simp only [Machine.answer] at found
    split at found
    · cases found
      exact ⟨quietly rfl rfl rfl, carries⟩
    · split at found
      any_goals cases found
      exact ⟨quietly rfl rfl rfl, carries⟩
  | wait process => exact ⟨quietly rfl rfl rfl, carries.waits found⟩
  | openInput path =>
    cases reply with
    | error cause => cases granted
    | ok handle =>
      obtain ⟨same, carries⟩ := carries.opensInput suits (due _ rfl) found
      refine ⟨⟨?_, ?_, ?_⟩, carries⟩
      all_goals rintro _ ⟨⟩
      exact same
  | openOutput path =>
    cases reply with
    | error cause => cases granted
    | ok handle =>
      obtain ⟨same, carries⟩ := carries.opensOutput suits (due _ rfl) found
      refine ⟨⟨?_, ?_, ?_⟩, carries⟩
      all_goals rintro _ ⟨⟩
      exact same
  | pipe =>
    obtain ⟨same, carries⟩ := carries.pipes suits found
    subst same
    refine ⟨⟨?_, ?_, ?_⟩, carries⟩
    all_goals rintro _ ⟨⟩
    rfl
  | spawn command =>
    cases reply with
    | error cause => cases granted
    | ok process =>
      obtain ⟨stdin, stdout, stderr, acts⟩ := meant _ _ rfl
      obtain ⟨same, carries⟩ :=
        carries.starts suits due stdin stdout stderr acts (Option.some.inj found)
      refine ⟨⟨?_, ?_, ?_⟩, carries⟩
      all_goals rintro _ ⟨⟩
      exact same
  | read | write | flush | report =>
    rcases kind with ofLine | ⟨_, join⟩
    · cases ofLine
    · cases join

/-- The step of any agent carries the bytes of a plain line on. -/
theorem Carries.step (carries : chain.Carries wiring first tally machine)
    (suits : chain.Suits wiring first)
    (held : ∀ place, place + 1 < chain.filters.length → machine.processes.length = place + 1 →
      .reader (chain.pipe + place) ∈ machine.held)
    {agent : Machine.Agent} (stepped : machine.step agent = some after) :
    chain.Carries wiring first tally after := by
  obtain ⟨⟨unsent, passing⟩, grown⟩ := carries
  obtain ⟨left, passing, steady⟩ := passing.step held stepped
  have outlook := Machine.outlook_of_step stepped
  refine ⟨⟨left, passing⟩, steady.processes.trans grown.processes, steady.pipes.trans grown.pipes,
    steady.openings.trans grown.openings, steady.clock.trans grown.clock,
    outlook.directory.trans grown.directory, outlook.stdin.trans grown.stdin,
    outlook.stdout.trans grown.stdout, fun more unopened => ?_⟩
  rw [steady.files (by rwa [grown.processes, suits.counted]), grown.files more unopened]

/-- Whether every program that is started for a stage, after all that has been granted, does what
the filter of that stage does. -/
def Programmed (chain : Chain) (first : Scene Record) : Prop :=
  ∀ history command next machine, first.Follows history ⟨.ask (.spawn command) next, machine⟩ →
    (∀ event ∈ history, event.error? = none) →
    ∀ filter behaviour, chain.filters[(Tally.of history).starts]? = some filter →
      machine.loadNamed command.program command.arguments = .ok behaviour →
        filter.Acts (chain.stream (Tally.of history).starts) behaviour

/-- Whether a chain is that of a plain line which is the only one among some errands, on a machine
that is fresh. -/
structure Serves (chain : Chain) (wiring : Wiring) (session : Session) (line : String)
    (errands : List Errand) (first : Machine) : Prop extends chain.Suits wiring first where
  single : errands.filterMap Errand.line? = [line]
  readings : wiring.readings = session.readings line
  fresh : first.IsFresh
  programmed : chain.Programmed ⟨session.perform errands [], first⟩

/-- What holds at every moment of a plain line to which everything is granted. -/
structure Moment (chain : Chain) (wiring : Wiring) (first : Machine) (history : List Event)
    (ledger : Ledger) (scene : Scene Record) : Prop where
  sound : scene.Sound history ledger
  fits : wiring.Fits (.of history) ledger.phase
  carries : chain.Carries wiring first (.of history) scene.machine
  numbered : history.filterMap Event.process? = List.range' 1 (Tally.of history).starts
  /-- Each process that has been handed on has been so with the end that its stage writes. -/
  handed : ∀ reap ∈ history.filterMap Event.reap?,
    ∃ place, reap = (place + 1, some (.writer (wiring.pipe + place)))

section

variable {session : Session} {line : String} {errands : List Errand}
  (serves : chain.Serves wiring session line errands first)

include serves

/-- At first nothing has been done. -/
theorem Serves.moment : chain.Moment wiring first [] {} ⟨session.perform errands [], first⟩ where
  sound := Scene.sound_of_drives (Session.drives_perform errands session []) serves.fresh
  fits := .between rfl serves.stages_pos rfl
  carries := serves.carries
  numbered := rfl
  handed := nofun

variable {history : List Event} {ledger : Ledger}

/-- The end of the last pipe that the next stage is to read is held for it. -/
theorem Serves.reader_mem {scene : Scene Record}
    (moment : chain.Moment wiring first history ledger scene)
    (follows : Scene.Follows ⟨session.perform errands [], first⟩ history scene)
    (granted : ∀ event ∈ history, event.error? = none) {place : Nat}
    (inner : place + 1 < chain.filters.length)
    (started : scene.machine.processes.length = place + 1) :
    .reader (chain.pipe + place) ∈ scene.machine.held := by
  have starts := moment.carries.grown.processes.symm.trans started
  have next : (Tally.of history).starts < wiring.readings.length := by
    rwa [starts, ← serves.counted]
  rw [serves.same]
  -- Until the next stage has it, the interpreter does, unless the stage has been lost; and none is.
  rcases moment.fits.reader_mem starts next with held | ⟨begun, idle⟩
  · exact moment.sound.held.mem_iff.mpr
      (List.mem_append_left _ (List.mem_append_left _ held))
  · exact absurd begun (Session.not_lost serves.single serves.readings serves.plain
      follows.unfolds granted moment.sound.keeps idle)

/-- What is asked for next is due. -/
theorem Serves.isDue {call : Call} {next : call.Reply → Flow Record}
    (unfolds : (session.perform errands []).Unfolds history (.ask call next))
    (granted : ∀ event ∈ history, event.error? = none) (reply : call.Reply) :
    wiring.IsDue (.of history) ⟨call, reply⟩ := by
  -- The line can be brought to its end from here, so what is asked for is part of its plan.
  obtain ⟨later, record, rest, whole, _⟩ := Session.exists_completion serves.single
    (serves.readings ▸ serves.plain) unfolds granted
  cases rest with
  | @answered _ _ given =>
    rw [← serves.readings] at whole
    have due : wiring.IsDue (.of history) ⟨call, given⟩ :=
      Session.isDue_of_planned serves.plain ⟨[], (List.append_nil _).trans whole⟩ rfl
    exact due

/-- A program is started with no error stream of its own. -/
theorem Serves.quiet {flow : Flow Record}
    (unfolds : (session.perform errands []).Unfolds history flow)
    (granted : ∀ event ∈ history, event.error? = none) {event : Event} (seen : event ∈ history)
    {command : Command} {reply : Except IoError Nat} (start : event.start? = some (command, reply)) :
    command.stderr = none := by
  obtain ⟨_, _, _, _, quiet⟩ := Session.exists_completion serves.single
    (serves.readings ▸ serves.plain) unfolds granted
  exact (quiet _ (List.mem_append_left _ seen)).2 _ _ start

/-- What holds at a moment holds behind the next answer. -/
theorem Serves.answered {call : Call} {next : call.Reply → Flow Record} {reply : call.Reply}
    (moment : chain.Moment wiring first history ledger ⟨.ask call next, machine⟩)
    (follows : Scene.Follows ⟨session.perform errands [], first⟩ history ⟨.ask call next, machine⟩)
    (granted : ∀ event ∈ history ++ [⟨call, reply⟩], event.error? = none)
    (found : machine.answer call = some (reply, after)) :
    ∃ ledger, chain.Moment wiring first (history ++ [⟨call, reply⟩]) ledger ⟨next reply, after⟩ := by
  have unfolds := (follows.answered found).unfolds
  have last : (⟨call, reply⟩ : Event) ∈ history ++ [⟨call, reply⟩] := by simp
  have due := serves.isDue follows.unfolds (List.forall_mem_append.mp granted).1 reply
  obtain ⟨ledger, step, keeps⟩ := moment.sound.keeps reply
  have kind := (session.asks_perform errands []).of_unfolds unfolds _ last
  -- The machine follows what the flow has due, which fixes what a program is started on.
  obtain ⟨numbers, carries⟩ := moment.carries.answered serves.toSuits kind (granted _ last) due
    (fun command process start => by
      obtain ⟨rfl, same⟩ := Event.mk.inj (Event.eq_of_start? start)
      cases same
      obtain ⟨stdin, stdout⟩ := moment.fits.spawned step due
      exact ⟨stdin, stdout, serves.quiet unfolds granted last start,
        serves.programmed _ _ _ _ follows (List.forall_mem_append.mp granted).1⟩)
    found
  rw [← Tally.of_concat] at carries
  refine ⟨ledger, moment.sound.advanced found step keeps, ?_, carries, ?_, ?_⟩
  · rw [Tally.of_concat]
    exact moment.fits.step step (granted _ last) due numbers
  · have more : (Tally.of (history ++ [⟨call, reply⟩])).starts =
        (Tally.of history).starts + (Event.process? ⟨call, reply⟩).toList.length := by
      rw [Tally.of_concat, ← Event.starts_eq (granted _ last)]
      rfl
    rw [Event.filterMap_concat, moment.numbered, more]
    cases started : Event.process? ⟨call, reply⟩ with
    | none => simp
    | some process =>
      rw [numbers.process process started, Nat.add_comm]
      exact (List.range'_1_concat ..).symm
  · rw [Event.filterMap_concat]
    exact List.forall_mem_append.mpr
      ⟨moment.handed, fun reap new => moment.fits.handed step (Option.mem_toList.mp new)⟩

/-- It holds at every moment at which everything has been granted so far. -/
theorem Serves.moments {scene : Scene Record}
    (follows : Scene.Follows ⟨session.perform errands [], first⟩ history scene)
    (granted : ∀ event ∈ history, event.error? = none) :
    ∃ ledger, chain.Moment wiring first history ledger scene := by
  -- An answer carries the moment on, and what anyone else does leaves all but the bytes alone.
  induction follows with
  | refl => exact ⟨_, serves.moment⟩
  | answered start found ih =>
    obtain ⟨ledger, moment⟩ := ih (List.forall_mem_append.mp granted).1
    exact serves.answered moment start granted found
  | moved start agent found ih =>
    obtain ⟨ledger, moment⟩ := ih granted
    exact ⟨ledger, moment.sound.moved found, moment.fits, moment.carries.step serves.toSuits
      (fun place => serves.reader_mem moment start granted) found, moment.numbered, moment.handed⟩

end

end Chain

end LineShell
