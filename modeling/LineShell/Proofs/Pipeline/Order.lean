import LineShell.Proofs.Pipeline.Course

/-! Order: a line is dealt with stage by stage, and nothing follows on the first thing that goes
wrong. -/

namespace LineShell

/-- Nothing that is done comes after a refusal. -/
def Halted (deeds : List Event) : Prop :=
  deeds.Pairwise fun earlier _ => earlier.error? = none

/-- Deeds to which nothing is refused may be followed by others. -/
theorem Halted.append {first second : List Event} (granted : ∀ event ∈ first, event.error? = none)
    (halted : Halted second) : Halted (first ++ second) :=
  List.pairwise_append.mpr
    ⟨List.pairwise_of_forall_mem_list fun event member _ _ => granted event member, halted,
      fun event member _ _ => granted event member⟩

/-- Only actions are refused. -/
theorem Event.action?_of_error? {event : Event} {error : LineError}
    (refused : event.error? = some error) : ∃ action, event.action? = some action := by
  unfold error? at refused
  split at refused <;> simp_all [action?]

/-- A single deed halts, whatever comes of it. -/
theorem halted_singleton (event : Event) : Halted [event] :=
  List.pairwise_singleton _ event

/-- A refused action never blames the wait for the last stage. -/
theorem Event.error?_ne_wait {event : Event} {error : LineError}
    (refused : event.error? = some error) (cause : IoError) : error ≠ .wait cause := by
  rintro rfl
  unfold error? at refused
  split at refused <;> simp at refused

namespace Reading

/-- No program is started before a stage is prepared. -/
theorem spawn_notMem_preparation (reading : Reading) (arguments : List String) :
    .spawn arguments ∉ reading.preparation := by
  -- A look-up, files and a pipe: none of them is a start.
  intro member
  simp only [preparation, List.cons_append, List.mem_cons, reduceCtorEq, List.mem_append,
    List.mem_filterMap, false_or] at member
  rcases member with ⟨item, _, found⟩ | member
  · cases item <;> simp [Item.action?] at found
  · split at member <;> simp at member

/-- The preparation of a stage starts nothing. -/
theorem started_eq_nil {reading : Reading} {events : List Event}
    (order : events.filterMap Event.action? <+: reading.preparation) :
    events.filterMap Event.started? = [] := by
  -- A start among the deeds would be among the planned ones.
  rw [List.filterMap_eq_nil_iff]
  intro event member
  cases found : event.started? with
  | none => rfl
  | some arguments =>
    have action : event.action? = some (.spawn arguments) := by
      unfold Event.started? at found
      split at found
      · simpa [Event.action?] using found
      · simp at found
    have planned := order.subset (List.mem_filterMap.mpr ⟨event, member, action⟩)
    exact absurd planned (reading.spawn_notMem_preparation arguments)

/-- Whatever comes of a reading, it is prepared in the order of its tokens. -/
theorem Built.order {reading : Reading} {stdin : Source} {events : List Event}
    {result : Except LineError Stage} (built : reading.Built stdin events result) :
    events.filterMap Event.action? <+: reading.preparation := by
  cases built with
  | complete _ order _ | dangling _ order _ => exact order ▸ List.prefix_rfl
  | refused _ _ _ order => exact order

/-- Whatever comes of a reading, nothing is done for it after a refusal. -/
theorem Built.halted {reading : Reading} {stdin : Source} {events : List Event}
    {result : Except LineError Stage} (built : reading.Built stdin events result) :
    Halted events := by
  cases built with
  | complete granted _ _ | dangling granted _ _ =>
    exact List.pairwise_of_forall_mem_list fun event member _ _ => granted event member
  | refused split granted _ _ => exact split ▸ .append granted (halted_singleton _)

/-- All is done for a reading that a stage has been built and started for. -/
theorem Built.actions_eq {reading : Reading} {stdin : Source} {events : List Event} {stage : Stage}
    (built : reading.Built stdin events (.ok stage)) :
    reading.actions = events.filterMap Event.action? ++ [.spawn stage.arguments] := by
  cases built with
  | complete _ order ended => simp [actions, order, ended, Reading.stage]

/-- Nothing is refused to a reading that a stage has been built for. -/
theorem Built.granted {reading : Reading} {stdin : Source} {events : List Event} {stage : Stage}
    (built : reading.Built stdin events (.ok stage)) : ∀ event ∈ events, event.error? = none := by
  cases built with
  | complete granted _ _ => exact granted

/-- All has been prepared for a stage that has been built. -/
theorem Built.prepared {reading : Reading} {stdin : Source} {events : List Event} {stage : Stage}
    (built : reading.Built stdin events (.ok stage)) :
    events.filterMap Event.action? = reading.preparation := by
  cases built with
  | complete _ order _ => exact order

/-- A stage has the arguments that its reading tells. -/
theorem Built.arguments_eq {reading : Reading} {stdin : Source} {events : List Event}
    {stage : Stage} (built : reading.Built stdin events (.ok stage)) :
    stage.arguments = reading.arguments := by
  cases built with
  | complete _ _ _ => rfl

/-- A stage that has been built does not dangle. -/
theorem Built.not_dangling {reading : Reading} {stdin : Source} {events : List Event}
    {stage : Stage} (built : reading.Built stdin events (.ok stage)) :
    reading.isDangling = false := by
  cases built with
  | complete _ _ ended => exact ended

/-- How a line breaks at a stage: by the actions that were taken for it and by the last deed. -/
inductive Breaks (reading : Reading) (part : List Action) (last : Option Event) : LineError → Prop
  /-- The last action that was taken has been refused. -/
  | refused {event : Event} {error : LineError} (order : part <+: reading.actions)
      (own : part.getLast? = event.action?) (final : last = some event)
      (refused : event.error? = some error) : Breaks reading part last error
  /-- All has been prepared, and the line ends behind an operator. -/
  | dangling {operator : Operator} (order : part = reading.preparation)
      (ended : reading.closing = .dangling operator) :
      Breaks reading part last (.missingOperand operator)

/-- A line that breaks does so by its last deed, however many come before. -/
theorem Breaks.after {reading : Reading} {part : List Action} {events : List Event}
    {error : LineError} (breaks : reading.Breaks part events.getLast? error)
    (earlier : List Event) : reading.Breaks part (earlier ++ events).getLast? error := by
  cases breaks with
  | refused order own final refused => exact .refused order own (by simp [final]) refused
  | dangling order ended => exact .dangling order ended

/-- A line breaks within the plan of a stage. -/
theorem Breaks.isPrefix {reading : Reading} {part : List Action} {last : Option Event}
    {error : LineError} (breaks : reading.Breaks part last error) : part <+: reading.actions := by
  cases breaks with
  | refused order _ _ _ => exact order
  | dangling order _ => exact order ▸ List.prefix_append _ _

/-- A line breaks by other things than the wait for its last stage. -/
theorem Breaks.ne_wait {reading : Reading} {part : List Action} {last : Option Event}
    {error : LineError} (breaks : reading.Breaks part last error) (cause : IoError) :
    error ≠ .wait cause := by
  cases breaks with
  | refused _ _ _ refused => exact Event.error?_ne_wait refused cause
  | dangling _ _ => exact LineError.noConfusion

end Reading

namespace Course

variable {readings : List Reading} {stdin : Source} {events : List Event} {started : List Reaper}

/-- Nothing is done after a refusal. -/
theorem halted {error : Option LineError} (course : Course readings stdin events started error) :
    Halted events := by
  -- What comes before the next stage has succeeded, so the refusal can only come later.
  induction course with
  | finished => exact List.Pairwise.nil
  | started built _ ih =>
    rw [List.append_cons]
    exact .append (Event.granted_append built.granted rfl) ih
  | unstarted cause built => exact .append built.granted (halted_singleton _)
  | unbuilt built => exact built.halted

/-- The stages that are started are the first of the line, and none of them dangles. -/
theorem started_eq {error : Option LineError}
    (course : Course readings stdin events started error) :
    events.filterMap Event.started? = (readings.take started.length).map Reading.arguments ∧
      ∀ reading ∈ readings.take started.length, reading.isDangling = false := by
  -- Each started stage is the next one, and preparing it has started nothing.
  induction course with
  | finished => simp
  | started built _ ih =>
    have arguments := built.arguments_eq
    obtain ⟨started, closed⟩ := ih
    refine ⟨?_, ?_⟩
    · simp [Reading.started_eq_nil built.order, Event.started?, started, Stage.command, arguments]
    · simpa [built.not_dangling] using closed
  | unstarted cause built => simp [Reading.started_eq_nil built.order, Event.started?]
  | unbuilt built => simp [Reading.started_eq_nil built.order]

/-- Without an error, the whole plan of a line is carried out, and nothing is refused. -/
theorem whole {error : Option LineError} (course : Course readings stdin events started error)
    (absent : error = none) :
    events.filterMap Event.action? = readings.flatMap Reading.actions ∧
      ∀ event ∈ events, event.error? = none := by
  -- Without an error the course can only have gone on to its end.
  induction course with
  | finished => simp
  | started built _ ih =>
    obtain ⟨actions, granted⟩ := ih absent
    refine ⟨?_, ?_⟩
    · simp [built.actions_eq, Event.action?, actions, Stage.command]
    · intro event member
      rcases List.mem_append.mp member with own | member
      · exact built.granted event own
      · rcases List.mem_cons.mp member with rfl | member
        · rfl
        · exact granted event member
  | unstarted => cases absent
  | unbuilt => cases absent

/-- With an error, the stages before the one at which the line breaks are dealt with as planned. -/
theorem broken {error : Option LineError} (course : Course readings stdin events started error)
    {cause : LineError} (present : error = some cause) :
    ∃ reading part, readings[started.length]? = some reading ∧
      events.filterMap Event.action? =
        (readings.take started.length).flatMap Reading.actions ++ part ∧
      reading.Breaks part events.getLast? cause := by
  -- The stage at which the line breaks is the first one that has not been started.
  induction course with
  | finished => cases present
  | @started _ _ _ events later stage process _ _ built _ ih =>
    obtain ⟨reading, part, found, actions, breaks⟩ := ih present
    refine ⟨reading, part, by simpa using found, ?_, ?_⟩
    · simp [built.actions_eq, Event.action?, actions, Stage.command]
    · rw [List.append_cons]
      exact breaks.after _
  | @unstarted whole _ _ events stage cause built =>
    cases present
    refine ⟨whole, events.filterMap Event.action? ++ [.spawn stage.arguments], rfl, ?_, ?_⟩
    · simp [Event.action?, Stage.command]
    · exact .refused (built.actions_eq ▸ List.prefix_rfl) List.getLast?_concat
        List.getLast?_concat rfl
  | @unbuilt whole _ _ events _ built =>
    cases present
    refine ⟨whole, events.filterMap Event.action?, rfl, by simp, ?_⟩
    cases built with
    | dangling _ order ended => exact .dangling order ended
    | @refused before last error split _ refused order =>
      obtain ⟨action, own⟩ := Event.action?_of_error? refused
      refine .refused (order.trans (List.prefix_append _ _)) ?_ ?_ refused
      · simp [split, own]
      · rw [split, List.getLast?_concat]

/-- Whatever goes wrong, a line is dealt with along its plan. -/
theorem order {error : Option LineError} (course : Course readings stdin events started error) :
    events.filterMap Event.action? <+: readings.flatMap Reading.actions := by
  -- Either the whole plan is carried out, or the deeds break off within the plan of one stage.
  cases error with
  | none => exact (course.whole rfl).1 ▸ List.prefix_rfl
  | some cause =>
    obtain ⟨reading, part, found, actions, breaks⟩ := course.broken rfl
    obtain ⟨inside, located⟩ := List.getElem?_eq_some_iff.mp found
    conv => rhs; rw [← List.take_append_drop started.length readings,
      List.drop_eq_getElem_cons inside, located]
    rw [actions, List.flatMap_append, List.flatMap_cons]
    exact List.prefix_append_right_inj _ |>.mpr (breaks.isPrefix.trans (List.prefix_append _ _))

end Course

/-- How a line of stages is dealt with: by one stage after another, each by its own plan, up to the
first thing that goes wrong. -/
structure Run.InOrder (run : Run) (readings : List Reading) (deeds : List Event) : Prop where
  /-- The plan of the line is followed from its beginning on. -/
  order : deeds.filterMap Event.action? <+: readings.flatMap Reading.actions
  /-- Nothing is done after a refusal. -/
  halted : Halted deeds
  /-- The stages that are started are the first of the line. -/
  started : deeds.filterMap Event.started? = (readings.take run.spawned).map Reading.arguments
  /-- A stage behind which an operand is missing is never started. -/
  closed : ∀ reading ∈ readings.take run.spawned, reading.isDangling = false
  /-- A line that breaks does so at the stage after those, before anything else is done. -/
  broken : ∀ stage error, run.outcome = .failed stage error → (∀ cause, error ≠ .wait cause) →
    run.spawned = stage ∧ ∃ reading part, readings[stage]? = some reading ∧
      deeds.filterMap Event.action? = (readings.take stage).flatMap Reading.actions ++ part ∧
      reading.Breaks part deeds.getLast? error
  /-- A line that does not break is carried out as a whole, and nothing is refused. -/
  whole : (∀ stage error, run.outcome = .failed stage error → ∃ cause, error = .wait cause) →
    run.spawned = readings.length ∧
      deeds.filterMap Event.action? = readings.flatMap Reading.actions ∧
      ∀ event ∈ deeds, event.error? = none

/-- Whatever is granted or refused, the stages of a line are dealt with in order. -/
theorem Run.ofTokens_inOrder {σ : Type} (handler : Handler σ) (state : σ) (tokens : List Token) :
    ((Run.ofTokens tokens).run handler state).1.InOrder (Reading.ofTokens tokens)
      (deeds ((Run.ofTokens tokens).events handler state)) := by
  obtain ⟨started, error, course, ends⟩ := ofTokens_course handler tokens state
  have spawned : ((Run.ofTokens tokens).run handler state).1.spawned = started.length :=
    ends.spawned_eq.trans (Nat.zero_add _)
  -- The course tells all but how the run itself reports its end.
  exact {
    order := course.order
    halted := course.halted
    started := spawned ▸ course.started_eq.1
    closed := spawned ▸ course.started_eq.2
    broken := by
      intro stage cause failed other
      obtain ⟨rfl, rfl⟩ := ends.eq_of_failed rfl failed other
      rw [Nat.zero_add]
      exact ⟨spawned, course.broken rfl⟩
    whole := by
      intro unbroken
      have absent : error = none := by
        cases error with
        | none => rfl
        | some cause =>
          -- The line has broken, but not at the wait.
          obtain ⟨_, _, _, _, breaks⟩ := course.broken rfl
          obtain ⟨why, wait⟩ := unbroken _ _ ends.outcome_eq
          exact absurd wait (breaks.ne_wait why)
      subst absent
      exact ⟨spawned.trans course.length_started, course.whole rfl⟩ }

end LineShell
