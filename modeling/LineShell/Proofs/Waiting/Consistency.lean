import LineShell.Proofs.Waiting.Lines

/-! Consistency: what a run tells of itself goes together with what has been done for its line. -/

namespace LineShell

/-- Starts are deeds. -/
theorem filterMap_started?_deeds (events : List Event) :
    (deeds events).filterMap Event.started? = events.filterMap Event.started? := by
  rw [deeds, List.filterMap_filter]
  refine congrArg (List.filterMap · events) (funext fun event => ?_)
  obtain ⟨call, reply⟩ := event
  cases call <;> rfl

namespace Reading

/-- Preparing a stage, as far as that goes, looks up its command and nothing else. -/
theorem names_of_isPrefix {reading : Reading} {part : List Action}
    (order : part <+: reading.preparation) (begun : part ≠ []) :
    part.filterMap Action.name? = [reading.command.text] := by
  -- What comes behind the look-up are files and a pipe.
  obtain ⟨rest, whole⟩ := order
  cases part with
  | nil => exact absurd rfl begun
  | cons first others =>
    rw [preparation, List.cons_append, List.cons_append] at whole
    obtain ⟨rfl, behind⟩ := List.cons.inj whole
    have unnamed : others.filterMap Action.name? = [] := by
      refine List.filterMap_eq_nil_iff.mpr fun action planned => ?_
      have member : action ∈ others ++ rest := List.mem_append_left _ planned
      rw [behind, List.mem_append, List.mem_filterMap] at member
      rcases member with ⟨item, _, asked⟩ | last
      · cases item <;> cases asked <;> rfl
      · split at last
        · cases List.mem_singleton.mp last
          rfl
        · cases last
    simp [Action.name?, unnamed]

/-- Whatever comes of a reading, its command is looked up, once. -/
theorem Built.names {reading : Reading} {stdin : Source} {events : List Event}
    {result : Except LineError Stage} (built : reading.Built stdin events result) :
    events.filterMap Event.name? = [reading.command.text] := by
  rw [Event.filterMap_name?]
  refine names_of_isPrefix built.order ?_
  cases built with
  | complete _ order _ | dangling _ order _ => simp [order, preparation]
  | refused split _ refused _ =>
    obtain ⟨action, own⟩ := Event.action?_of_error? refused
    simp [split, own]

end Reading

/-- The names that are looked up for a line are those of the stages that have been started, and that
of the next one. -/
theorem Course.asked {readings : List Reading} {stdin : Source} {events : List Event}
    {started : List Reaper} {error : Option LineError}
    (course : Course readings stdin events started error) :
    events.filterMap Event.name? =
      (readings.take (started.length + 1)).map (·.command.text) := by
  -- Each stage looks up one name, whatever becomes of it, and starting it looks up none.
  induction course with
  | finished => rfl
  | started built _ ih =>
    rw [List.filterMap_append, built.names, List.filterMap_cons_none rfl, ih]
    simp
  | unstarted _ built => simp [built.names, Event.name?]
  | unbuilt built => simp [built.names]

/-- How what a run tells goes together with the tokens of its line and with all that has been
done. -/
structure Run.Consistent (run : Run) (tokens : List Token) (events : List Event) : Prop where
  /-- There was nothing to run exactly when there are no tokens. -/
  empty : run.outcome = .empty ↔ tokens = []
  /-- Nothing is asked for a line without tokens. -/
  idle : tokens = [] → run.spawned = 0 ∧ run.reapers = [] ∧ events = []
  /-- Every process that has been started has a reaper or has been waited for. -/
  started : events.filterMap Event.process? =
    run.reapers.map (·.process) ++ (events.filterMap Event.waited?).map (·.1)
  /-- All of them are counted. -/
  spawned : run.spawned = (events.filterMap Event.process?).length
  /-- They are those of the first stages. -/
  commands : events.filterMap Event.started? =
    ((Reading.ofTokens tokens).take run.spawned).map Reading.arguments
  /-- The reapers have the command names of these stages. -/
  names : run.reapers.map (·.name) =
    ((Reading.ofTokens tokens).take run.reapers.length).map (·.command.text)
  /-- A line ends with the code of its last process, when all of its stages have been started. -/
  exited : ∀ code, run.outcome = .exited code →
    run.spawned = run.reapers.length + 1 ∧ run.spawned = (Reading.ofTokens tokens).length ∧
      ∃ process status, events.filterMap Event.waited? = [(process, .ok status)] ∧
        code = status.exitCode
  /-- A line that fails otherwise than by its wait has reapers for all stages before the one that
  has failed, and no names have been looked up but theirs and that of this stage. -/
  failed : ∀ stage error, run.outcome = .failed stage error →
    (∀ process cause, ⟨.wait process, .error cause⟩ ∉ events) →
    run.spawned = stage ∧ run.reapers.length = stage ∧
      events.filterMap Event.name? =
        ((Reading.ofTokens tokens).take (stage + 1)).map (·.command.text) ∧
      ∃ reading part, (Reading.ofTokens tokens)[stage]? = some reading ∧
        events.filterMap Event.action? =
          ((Reading.ofTokens tokens).take stage).flatMap Reading.actions ++ part ∧
        reading.Breaks part (deeds events).getLast? error
  /-- A line that fails by its wait has started all of its stages. -/
  unwaited : ∀ stage cause, run.outcome = .failed stage (.wait cause) →
    run.spawned = run.reapers.length + 1 ∧ run.spawned = (Reading.ofTokens tokens).length ∧
      ∃ process, events.filterMap Event.waited? = [(process, .error cause)]

namespace Run

variable {σ : Type} (handler : Handler σ)

/-- The processes of a line have been started, handed on and waited for one after another. -/
theorem ofTokens_conduct (tokens : List Token) (state : σ) :
    ∃ conduct : Conduct, conduct.Tells ((ofTokens tokens).events handler state) ∧
      conduct.Left ((ofTokens tokens).run handler state).1 := by
  have keeps := Conduct.keeps_stages (tokens.length + 1) 0 (Builder.ofTokens tokens) {} rfl rfl
    fun _ => Outcome.noConfusion
  obtain ⟨conduct, leads, left⟩ :=
    (Flow.unfolds_events handler (ofTokens tokens) state).keeps keeps
  exact ⟨conduct, Conduct.tells_of_leads leads, left⟩

/-- A line that has waited for a process has waited for no other. -/
theorem ofTokens_waited {tokens : List Token} {state : σ} {process : Nat}
    {reply : Except IoError WaitStatus}
    (seen : ⟨.wait process, reply⟩ ∈ (ofTokens tokens).events handler state) :
    ((ofTokens tokens).events handler state).filterMap Event.waited? = [(process, reply)] := by
  obtain ⟨conduct, tells, _⟩ := ofTokens_conduct handler tokens state
  have told : (process, reply) ∈
      ((ofTokens tokens).events handler state).filterMap Event.waited? :=
    List.mem_filterMap.mpr ⟨_, seen, rfl⟩
  rw [tells.waited] at told ⊢
  rw [Option.mem_toList.mp told]
  rfl

/-- Only a run without a stage is left without an outcome. -/
theorem Ends.tokens_eq_nil {tokens : List Token} {run : Run} {events deeds : List Event}
    {started : List Reaper} {error : Option LineError}
    (course : Course (Reading.ofTokens tokens) .inherit deeds started error)
    (ends : Ends {} 0 events started error run) (unended : run.outcome = .empty) : tokens = [] := by
  cases ends with
  | empty =>
    have none_left := List.eq_nil_of_length_eq_zero course.length_started.symm
    rw [← Reading.flatMap_tokens_ofTokens tokens, none_left]
    rfl
  | failed _ _ outcome => cases unended.symm.trans outcome
  | @waited _ _ reply _ _ _ outcome _ => cases reply <;> cases unended.symm.trans outcome

/-- A run that has an outcome, but has not failed at one of its stages, has started all of them, and
has waited for the last of their processes. -/
theorem Ends.waits {readings : List Reading} {run : Run} {events deeds : List Event}
    {started : List Reaper} {error : Option LineError}
    (course : Course readings .inherit deeds started error)
    (ends : Ends {} 0 events started error run) (ended : run.outcome ≠ .empty)
    (unbroken : ∀ stage error, run.outcome = .failed stage error → ∃ cause, error = .wait cause) :
    run.spawned = run.reapers.length + 1 ∧ run.spawned = readings.length ∧
      ∃ process number reply, ⟨.wait process, reply⟩ ∈ events ∧
        run.outcome = .ofWait number reply := by
  cases ends with
  | empty => exact absurd rfl ended
  | failed _ _ outcome =>
    -- A stage that has not been started has its own errors.
    obtain ⟨_, _, _, _, breaks⟩ := course.broken rfl
    obtain ⟨cause, wait⟩ := unbroken _ _ outcome
    exact absurd wait (breaks.ne_wait cause)
  | @waited first last reply _ spawned reapers outcome seen =>
    have length := course.length_started
    simp only [Nat.zero_add, List.nil_append, List.length_append, List.length_singleton] at *
    exact ⟨by rw [spawned, reapers], spawned.trans length, last.process, _, reply, seen, outcome⟩

/-- A run that has failed without a wait that did has failed by an error of the stage behind those
that have been started. -/
theorem Ends.of_failed {run : Run} {events : List Event} {started : List Reaper}
    {error : Option LineError} {stage : Nat} {cause : LineError}
    (ends : Ends {} 0 events started error run) (failed : run.outcome = .failed stage cause)
    (waits : ∀ process why, ⟨.wait process, .error why⟩ ∉ events) :
    error = some cause ∧ started.length = stage ∧ run.spawned = stage ∧
      run.reapers.length = stage := by
  -- If the wait had failed, it would be among the events.
  cases ends with
  | empty => cases failed
  | failed spawned reapers outcome =>
    cases outcome.symm.trans failed
    simp_all
  | @waited first last given _ spawned reapers outcome seen =>
    cases given with
    | ok status => cases outcome.symm.trans failed
    | error why => exact absurd seen (waits _ _)

/-- Whatever is granted or refused, what a run tells of itself goes together with what has been done
for its line. -/
theorem ofTokens_consistent (tokens : List Token) (state : σ) :
    ((ofTokens tokens).run handler state).1.Consistent tokens
      ((ofTokens tokens).events handler state) := by
  -- The course tells what has been asked for, and the conduct what has become of the processes.
  obtain ⟨started, error, course, ends⟩ := ofTokens_course handler tokens state
  obtain ⟨conduct, tells, left⟩ := ofTokens_conduct handler tokens state
  have processes := tells.started
  rw [left.launched, ← left.reapers] at processes
  exact {
    empty := by
      refine ⟨ends.tokens_eq_nil course, ?_⟩
      rintro rfl
      rfl
    idle := by
      rintro rfl
      exact ⟨rfl, rfl, rfl⟩
    started := by
      rw [processes, tells.waited]
      cases conduct.waited <;> simp
    spawned := by
      rw [processes, left.spawned, left.reapers]
      cases conduct.waited <;> simp
    commands := by
      have commands := course.started_eq.1
      rwa [filterMap_started?_deeds, ← Nat.zero_add started.length, ← ends.spawned_eq] at commands
    names := (ends.fits course (Reading.isLine_ofTokens tokens)).names
    exited := by
      intro code exited
      obtain ⟨counted, whole, process, number, reply, seen, outcome⟩ := ends.waits course
        (by simp [exited]) (by simp [exited])
      cases reply with
      | error cause => cases exited.symm.trans outcome
      | ok status =>
        refine ⟨counted, whole, process, status, ofTokens_waited handler seen, ?_⟩
        exact Outcome.exited.inj (exited.symm.trans outcome)
    failed := by
      intro stage cause failed waits
      obtain ⟨rfl, rfl, spawned, reapers⟩ := ends.of_failed failed waits
      have asked := course.asked
      rw [filterMap_name?_deeds] at asked
      have broken := course.broken rfl
      rw [filterMap_deeds] at broken
      exact ⟨spawned, reapers, asked, broken⟩
    unwaited := by
      intro stage cause failed
      obtain ⟨counted, whole, process, number, reply, seen, outcome⟩ := ends.waits course
        (by simp [failed]) (by simp +contextual [failed])
      cases reply with
      | ok status => cases failed.symm.trans outcome
      | error why =>
        cases failed.symm.trans outcome
        exact ⟨counted, whole, process, ofTokens_waited handler seen⟩ }

end Run

end LineShell
