import LineShell.Proofs.Pipeline.Asking
import LineShell.Proofs.Pipeline.Order
import LineShell.Proofs.Pipeline.Stages

/-! Faults: the steps of a line end with its last stage, or with the first thing that goes wrong. -/

namespace LineShell

namespace Reading

/-- How an action of a stage goes wrong, and the error that this brings to the line. -/
inductive Fails (reading : Reading) : Event → LineError → Prop
  | lookup (error : LookupError) :
      Fails reading ⟨.lookup reading.command.text, .error error⟩ (.lookup error)
  | input {path : Token} (told : .input path ∈ reading.items) (cause : IoError) :
      Fails reading ⟨.openInput path.text, .error cause⟩ (.redirectInput path.text cause)
  | output {path : Token} (told : .output path ∈ reading.items) (cause : IoError) :
      Fails reading ⟨.openOutput path.text, .error cause⟩ (.redirectOutput path.text cause)
  | pipe (piped : reading.closing = .pipe) (cause : IoError) :
      Fails reading ⟨.pipe, .error cause⟩ (.pipe cause)

/-- An action that is planned for a stage, by where it comes from. -/
theorem cases_of_mem_preparation {reading : Reading} {action : Action}
    (planned : action ∈ reading.preparation) :
    action = .lookup reading.command.text ∨
      (∃ item ∈ reading.items, item.action? = some action) ∨
      (reading.closing = .pipe ∧ action = .pipe) := by
  rw [preparation, List.mem_append, List.mem_cons, List.mem_filterMap] at planned
  rcases planned with (first | item) | last
  · exact .inl first
  · exact .inr (.inl item)
  · split at last
    · exact .inr (.inr ⟨by assumption, List.mem_singleton.mp last⟩)
    · cases last

/-- No pipe is planned for a stage that nothing follows. -/
theorem pipe_notMem_preparation {reading : Reading} (finished : reading.closing = .finish) :
    .pipe ∉ reading.preparation := by
  intro planned
  -- No item is a pipe, and no pipe closes the stage.
  rcases cases_of_mem_preparation planned with command | ⟨item, _, own⟩ | ⟨piped, _⟩
  · cases command
  · cases item <;> cases own
  · cases finished.symm.trans piped

/-- A refused action that is planned for a stage goes wrong as an action of that stage. -/
theorem fails_of_refused {reading : Reading} {event : Event} {action : Action} {error : LineError}
    (refused : event.error? = some error) (own : event.action? = some action)
    (planned : action ∈ reading.preparation) : reading.Fails event error := by
  -- What is refused tells the error, and the plan tells for which token it has been asked.
  obtain ⟨call, reply⟩ := event
  rcases cases_of_mem_preparation planned with rfl | ⟨item, told, asked⟩ | ⟨piped, rfl⟩
  · cases call <;> cases own
    cases reply with
    | ok => cases refused
    | error => cases refused; exact .lookup _
  · cases item with
    | argument word => cases asked
    | input path =>
      cases asked
      cases call <;> cases own
      cases reply with
      | ok => cases refused
      | error => cases refused; exact .input told _
    | output path =>
      cases asked
      cases call <;> cases own
      cases reply with
      | ok => cases refused
      | error => cases refused; exact .output told _
  · cases call <;> cases own
    cases reply with
    | ok => cases refused
    | error => cases refused; exact .pipe piped _

/-- Where an action has been asked for that tells something unless it is refused, and nothing was
refused, there is a last thing that is told. -/
theorem exists_last_told {β : Type} {told : Event → Option β} {events : List Event}
    {action : Action}
    (answered : ∀ event : Event, event.action? = some action → event.error? = none →
      (told event).isSome)
    (granted : ∀ event ∈ events, event.error? = none)
    (asked : action ∈ events.filterMap Event.action?) :
    ∃ last, (events.filterMap told).getLast? = some last := by
  obtain ⟨event, seen, own⟩ := List.mem_filterMap.mp asked
  obtain ⟨thing, found⟩ := Option.isSome_iff_exists.mp (answered event own (granted event seen))
  have filled := List.ne_nil_of_mem (List.mem_filterMap.mpr ⟨event, seen, found⟩)
  exact ⟨_, List.getLast?_eq_some_getLast filled⟩

/-- Where a pipe has been asked for and nothing was refused, a pipe has been made. -/
theorem exists_ends {events : List Event} (granted : ∀ event ∈ events, event.error? = none)
    (asked : .pipe ∈ events.filterMap Event.action?) :
    ∃ ends, (events.filterMap Event.ends?).getLast? = some ends := by
  refine exists_last_told ?_ granted asked
  intro event own quiet
  obtain ⟨call, reply⟩ := event
  cases call <;> cases own
  cases reply with
  | error => cases quiet
  | ok => rfl

/-- Where no pipe has been asked for, none has been made. -/
theorem ends_eq_nil {events : List Event} (unasked : .pipe ∉ events.filterMap Event.action?) :
    events.filterMap Event.ends? = [] := by
  rw [List.filterMap_eq_nil_iff]
  intro event seen
  cases made : event.ends? with
  | none => rfl
  | some ends =>
    refine absurd (List.mem_filterMap.mpr ⟨event, seen, ?_⟩) unasked
    obtain ⟨call, reply⟩ := event
    cases call <;> first | rfl | cases made

namespace Built

variable {reading : Reading} {stdin : Source} {events : List Event} {stage : Stage}
  (built : reading.Built stdin events (.ok stage))

include built

/-- Nothing but the end of a line makes a stage the last one. -/
theorem terminal_eq : stage.terminal = decide (reading.closing = .finish) := by
  cases built
  rfl

/-- A stage that a pipe follows writes that pipe. -/
theorem stdout_of_piped (piped : reading.closing = .pipe) :
    ∃ writer, stage.stdout = .pipe writer := by
  cases built with
  | complete granted order _ =>
    obtain ⟨⟨reader, writer⟩, made⟩ := exists_ends granted (by simp [order, preparation, piped])
    exact ⟨writer, by simp [Reading.stage, made]⟩

/-- A stage that nothing follows writes no pipe. -/
theorem stdout_of_finished (finished : reading.closing = .finish) : stage.stdout.pipe? = none := by
  cases built with
  | complete _ order _ =>
    have unasked : .pipe ∉ events.filterMap Event.action? :=
      order ▸ pipe_notMem_preparation finished
    simp only [Reading.stage, ends_eq_nil unasked, List.getLast?_nil]
    -- What is left is a file that has been opened, or the output of the interpreter.
    cases last : (events.filterMap Event.sink?).getLast? with
    | none => rfl
    | some sink =>
      obtain ⟨event, _, opened⟩ := List.mem_filterMap.mp (List.mem_of_getLast? last)
      unfold Event.sink? at opened
      split at opened <;> cases opened
      rfl

end Built

/-- How the last step of a line comes about, by the actions that have been asked for its reading and
by all deeds of the line. -/
inductive Concludes (reading : Reading) (part : List Action) (deeds : List Event) :
    Except LineError Stage → Prop
  /-- Nothing goes wrong. -/
  | complete {stage : Stage} (granted : ∀ event ∈ deeds, event.error? = none)
      (order : part = reading.preparation) (ended : reading.closing = .finish)
      (terminal : stage.terminal = true) (unpiped : stage.stdout.pipe? = none) :
      Concludes reading part deeds (.ok stage)
  /-- Nothing has been refused, but the line ends behind an operator that takes a token. -/
  | dangling {operator : Operator} (granted : ∀ event ∈ deeds, event.error? = none)
      (order : part = reading.preparation) (ended : reading.closing = .dangling operator) :
      Concludes reading part deeds (.error (.missingOperand operator))
  /-- The last deed is the first that has been refused. -/
  | refused {before : List Event} {last : Event} {error : LineError}
      (split : deeds = before ++ [last]) (granted : ∀ event ∈ before, event.error? = none)
      (order : part <+: reading.preparation) (own : part.getLast? = last.action?)
      (fails : reading.Fails last error) : Concludes reading part deeds (.error error)

/-- What is done for the stages before, to which nothing was refused, changes nothing. -/
theorem Concludes.after {reading : Reading} {part : List Action} {deeds earlier : List Event}
    {step : Except LineError Stage} (concludes : reading.Concludes part deeds step)
    (quiet : ∀ event ∈ earlier, event.error? = none) :
    reading.Concludes part (earlier ++ deeds) step := by
  cases concludes with
  | complete granted order ended terminal unpiped =>
    exact .complete (List.forall_mem_append.mpr ⟨quiet, granted⟩) order ended terminal unpiped
  | dangling granted order ended =>
    exact .dangling (List.forall_mem_append.mpr ⟨quiet, granted⟩) order ended
  | refused split granted order own fails =>
    exact .refused (by rw [split, List.append_assoc])
      (List.forall_mem_append.mpr ⟨quiet, granted⟩) order own fails

/-- The error of a stage concludes its line. -/
theorem Built.concludes {reading : Reading} {stdin : Source} {events : List Event}
    {error : LineError} (built : reading.Built stdin events (.error error)) :
    reading.Concludes (events.filterMap Event.action?) events (.error error) := by
  cases built with
  | dangling granted order ended => exact .dangling granted order ended
  | @refused before last _ split granted refused order =>
    obtain ⟨action, own⟩ := Event.action?_of_error? refused
    have final : (events.filterMap Event.action?).getLast? = some action := by simp [split, own]
    exact .refused split granted order (final.trans own.symm)
      (fails_of_refused refused own (order.subset (List.mem_of_getLast? final)))

/-- Only the last stage of a line is not followed by a pipe. -/
theorem IsLine.eq_concat {readings : List Reading} {reading : Reading} {index : Nat}
    (line : IsLine readings) (found : readings[index]? = some reading)
    (last : reading.closing ≠ .pipe) : readings = readings.take index ++ [reading] := by
  induction readings generalizing index with
  | nil => simp at found
  | cons first others ih =>
    cases index with
    | zero =>
      cases Option.some.inj found
      simp [line.eq_nil last]
    | succ index => simpa using ih line.tail (by simpa using found)

/-- A line that dangles is written with its operator at the end. -/
theorem tokens_eq_concat {tokens : List Token} {reading : Reading} {index : Nat}
    {operator : Operator} (found : (ofTokens tokens)[index]? = some reading)
    (ended : reading.closing = .dangling operator) :
    ∃ before, tokens = before ++ [.operator operator] := by
  -- A stage that dangles is the last one, and its operator is its last token.
  have split := (isLine_ofTokens tokens).eq_concat found (by simp [ended])
  have written := flatMap_tokens_ofTokens tokens
  rw [split, List.flatMap_append, List.flatMap_singleton, Reading.tokens, ended,
    Closing.tokens, ← List.append_assoc] at written
  exact ⟨_, written.symm⟩

/-- A line with tokens has a stage at least. -/
theorem ofTokens_ne_nil {tokens : List Token} (filled : tokens ≠ []) :
    ofTokens tokens ≠ [] := by
  intro empty
  have written := flatMap_tokens_ofTokens tokens
  rw [empty] at written
  exact filled written.symm

/-- A line that misses an operand dangles. -/
theorem Concludes.closing_eq {reading : Reading} {part : List Action} {deeds : List Event}
    {operator : Operator}
    (concludes : reading.Concludes part deeds (.error (.missingOperand operator))) :
    reading.closing = .dangling operator := by
  cases concludes with
  | dangling _ _ ended => exact ended
  | refused _ _ _ _ fails => cases fails

end Reading

namespace Builder

/-- The steps of a line, the first of which reads from a source, by the deeds for them: a stage for
each reading, up to the first error. -/
inductive Yields : List Reading → Source → List Event → List (Except LineError Stage) → Prop
  | nothing (stdin : Source) : Yields [] stdin [] []
  | stage {whole : Reading} {others : List Reading} {stdin : Source} {events later : List Event}
      {stage : Stage} {steps : List (Except LineError Stage)}
      (built : whole.Built stdin events (.ok stage))
      (rest : Yields others (Reading.inherited events) later steps) :
      Yields (whole :: others) stdin (events ++ later) (.ok stage :: steps)
  | error {whole : Reading} {others : List Reading} {stdin : Source} {events : List Event}
      {error : LineError} (built : whole.Built stdin events (.error error)) :
      Yields (whole :: others) stdin events [.error error]

variable {σ : Type} (handler : Handler σ)

/-- Giving up handles is all that is done, so there is no deed. -/
theorem deeds_of_closing {flow : Flow Unit} (closing : flow.Asks Call.IsClosing) (state : σ) :
    deeds (flow.events handler state) = [] := by
  rw [deeds, List.filter_eq_nil_iff]
  intro event seen
  have kind := closing.of_mem_events seen
  -- No other request is made, and this one is no action.
  obtain ⟨call, reply⟩ := event
  cases call with
  | close handle => exact Bool.false_ne_true
  | _ => cases kind

/-- Further steps, at most so many, with something done about each of them before the next. -/
def collectWith (attend : Except LineError Stage → Flow Unit) :
    Nat → Builder → Flow (List (Except LineError Stage))
  | 0, _ => pure []
  | bound + 1, builder => do
    let (built, rest) ← builder.next
    match built with
    | none => pure []
    | some step => do
      attend step
      let steps ← collectWith attend bound rest
      pure (step :: steps)

variable {attend : Except LineError Stage → Flow Unit}

/-- Collecting steps is doing nothing about them. -/
theorem collect_eq (bound : Nat) (builder : Builder) :
    collect bound builder = collectWith (fun _ => .done ()) bound builder := by
  induction bound generalizing builder with
  | zero => rfl
  | succ bound ih =>
    refine congrArg (builder.next >>= ·) (funext fun built => ?_)
    obtain ⟨built, rest⟩ := built
    cases built with
    | none => rfl
    | some step => exact congrArg (· >>= fun steps => pure (step :: steps)) (ih rest)

/-- With nothing left, there is nothing to be done. -/
theorem collectWith_of_none {builder : Builder} (empty : builder.pending = none) (bound : Nat) :
    collectWith attend bound builder = .done [] := by
  cases bound with
  | zero => rfl
  | succ bound => simp [collectWith, next_eq_none empty]

/-- With a stage left, something is done about it before the others are built. -/
theorem collectWith_succ {builder : Builder} {pending : Pending}
    (found : builder.pending = some pending) (bound : Nat) :
    collectWith attend (bound + 1) builder = build pending builder.tokens >>= fun step =>
      attend step.1 >>= fun _ => collectWith attend bound step.2 >>= fun steps =>
        .done (step.1 :: steps) := by
  simp only [collectWith, next_eq_build found, bind_assoc, Flow.done_bind, Flow.pure_eq_done]

/-- Whatever handles are given up in between, further steps are those of what is left of a line. -/
theorem collectWith_yields (closing : ∀ step, (attend step).Asks Call.IsClosing) (bound : Nat)
    (builder : Builder) (state : σ) (enough : builder.readings.length ≤ bound) :
    Yields builder.readings builder.stdin
      (deeds ((collectWith attend bound builder).events handler state))
      ((collectWith attend bound builder).run handler state).1 := by
  -- The induction is on the bound, which stays above the number of stages that are left.
  induction bound generalizing builder state with
  | zero =>
    rw [List.eq_nil_of_length_eq_zero (Nat.le_zero.mp enough)]
    exact .nothing _
  | succ bound ih =>
    cases found : builder.pending with
    | none =>
      rw [collectWith_of_none found, readings_eq_nil.mpr found]
      exact .nothing _
    | some pending =>
      obtain ⟨whole, others, split, built, left⟩ :=
        build_builds handler pending builder.tokens state
      rw [← readings_of_pending found] at split
      have source : builder.stdin = pending.stdin := by simp [Builder.stdin, found]
      rw [split] at enough
      rw [collectWith_succ found, split, source]
      simp only [Flow.events_bind, Flow.run_bind, Flow.events_done, Flow.run_done, List.append_nil,
        deeds_append, deeds_of_closing handler (closing _), List.nil_append]
      rcases ran : (build pending builder.tokens).run handler state with
        ⟨⟨error | stage, rest⟩, after⟩
      · -- Nothing is left behind an error.
        rw [ran] at built left
        have empty : rest.pending = none := left
        simp only [collectWith_of_none empty, Flow.run_done, Flow.events_done, deeds_nil,
          List.append_nil]
        exact .error built
      · rw [ran] at built left
        obtain ⟨readings, stdin⟩ := left
        have further := ih rest ((attend (.ok stage)).run handler after).2
          (by rw [readings]; simpa using enough)
        rw [readings, stdin] at further
        exact .stage built further

/-- Further steps are those of what is left of a line. -/
theorem collect_yields (bound : Nat) (builder : Builder) (state : σ)
    (enough : builder.readings.length ≤ bound) :
    Yields builder.readings builder.stdin (deeds ((collect bound builder).events handler state))
      ((collect bound builder).run handler state).1 := by
  have nothing (step : Except LineError Stage) :
      ((fun _ => .done ()) step : Flow Unit).Asks Call.IsClosing := trivial
  rw [collect_eq]
  exact collectWith_yields handler nothing bound builder state enough

/-- The steps of a line are stages that write pipes, and then one that concludes the line. -/
theorem Yields.concluded {readings : List Reading} {stdin : Source} {deeds : List Event}
    {steps : List (Except LineError Stage)} (yields : Yields readings stdin deeds steps)
    (line : Reading.IsLine readings) (filled : readings ≠ []) :
    ∃ (front : List Stage) (last : Except LineError Stage) (reading : Reading)
      (part : List Action), steps = front.map .ok ++ [last] ∧
      (∀ stage ∈ front, stage.terminal = false ∧ ∃ writer, stage.stdout = .pipe writer) ∧
      readings[front.length]? = some reading ∧
      deeds.filterMap Event.action? =
        (readings.take front.length).flatMap Reading.preparation ++ part ∧
      reading.Concludes part deeds last := by
  induction yields with
  | nothing => exact absurd rfl filled
  | @stage whole others _ events _ stage steps built rest ih =>
    have order := built.prepared
    cases others with
    | nil =>
      -- The last stage of a line is not followed by a pipe, nor does it dangle.
      have ended : whole.closing = .finish := by
        have closed := built.not_dangling
        cases closing : whole.closing with
        | finish => rfl
        | pipe => exact absurd closing line
        | dangling operator => simp [Reading.isDangling, closing] at closed
      cases rest
      refine ⟨[], .ok stage, whole, events.filterMap Event.action?, rfl, List.forall_mem_nil _, rfl,
        by simp, ?_⟩
      rw [List.append_nil]
      exact .complete built.granted order ended (by simp [built.terminal_eq, ended])
        (built.stdout_of_finished ended)
    | cons next others =>
      obtain ⟨front, last, reading, part, rfl, open_ended, found, actions, concludes⟩ :=
        ih line.2 (List.cons_ne_nil _ _)
      refine ⟨stage :: front, last, reading, part, rfl, ?_, found, ?_,
        concludes.after built.granted⟩
      · exact List.forall_mem_cons.mpr
          ⟨⟨by simp [built.terminal_eq, line.1], built.stdout_of_piped line.1⟩, open_ended⟩
      · simp [order, actions]
  | @error whole _ _ events error built =>
    exact ⟨[], .error error, whole, events.filterMap Event.action?, rfl, List.forall_mem_nil _, rfl,
      by simp, built.concludes⟩

/-- What so many further calls for a step give, with nothing for each of them that comes behind the
end. -/
def answers : Nat → Builder → Flow (List (Option (Except LineError Stage)))
  | 0, _ => pure []
  | count + 1, builder => do
    let (given, rest) ← builder.next
    let others ← answers count rest
    pure (given :: others)

/-- With nothing left, nothing is given, however often one asks. -/
theorem answers_of_none {builder : Builder} (empty : builder.pending = none) (count : Nat) :
    answers count builder = .done (List.replicate count none) := by
  induction count with
  | zero => rfl
  | succ count ih => simp [answers, next_eq_none empty, ih, List.replicate_succ]

/-- With a stage left, the first call builds it. -/
theorem answers_succ {builder : Builder} {pending : Pending}
    (found : builder.pending = some pending) (count : Nat) :
    answers (count + 1) builder = build pending builder.tokens >>= fun step =>
      answers count step.2 >>= fun others => .done (some step.1 :: others) := by
  simp only [answers, next_eq_build found, bind_assoc, Flow.done_bind, Flow.pure_eq_done]

/-- Further calls give the steps that are left of a line, and then nothing; once the steps have been
given, the calls ask for nothing either. -/
theorem answers_eq (count bound : Nat) (builder : Builder) (state : σ)
    (enough : builder.readings.length ≤ bound) :
    ((answers count builder).run handler state).1 =
        (((collect bound builder).run handler state).1.map some).take count ++
          List.replicate (count - ((collect bound builder).run handler state).1.length) none ∧
      (((collect bound builder).run handler state).1.length ≤ count →
        (answers count builder).events handler state =
          (collect bound builder).events handler state) := by
  -- As long as stages are left, a call is a step; behind the last step nothing changes any more.
  induction count generalizing bound builder state with
  | zero =>
    refine ⟨by simp [answers], fun short => ?_⟩
    cases found : builder.pending with
    | none => simp [collect_of_none found, answers]
    | some pending =>
      -- A stage that is left gives a step, which is one more than none.
      obtain ⟨whole, others, split, _⟩ := build_builds handler pending builder.tokens state
      rw [← readings_of_pending found] at split
      cases bound with
      | zero => simp [split] at enough
      | succ bound => simp [collect_succ found] at short
  | succ count ih =>
    cases found : builder.pending with
    | none => simp [answers_of_none found, collect_of_none found]
    | some pending =>
      have fewer := length_left_lt handler found state
      obtain ⟨bound, rfl⟩ : ∃ less, bound = less + 1 := ⟨bound - 1, by omega⟩
      obtain ⟨given, asked⟩ := ih bound _ ((build pending builder.tokens).run handler state).2
        (Nat.le_of_lt_succ (Nat.lt_of_lt_of_le fewer enough))
      rw [answers_succ found, collect_succ found]
      simp only [Flow.run_bind, Flow.events_bind, Flow.run_done, Flow.events_done, List.append_nil,
        List.map_cons, List.take_succ_cons, List.length_cons, Nat.add_sub_add_right,
        Nat.add_le_add_iff_right, List.cons_append, given, true_and]
      intro short
      rw [asked short]

/-- How the steps of a line end: with a step that is its last stage, or with the first thing that
goes wrong. -/
structure Ends (tokens : List Token) (deeds : List Event)
    (steps : List (Except LineError Stage)) : Prop where
  /-- Nothing comes of a line without tokens. -/
  nothing : tokens = [] → steps = [] ∧ deeds = []
  /-- Any other line comes to stages that write pipes, and to one more step behind them. -/
  something : tokens ≠ [] →
    ∃ (front : List Stage) (last : Except LineError Stage) (reading : Reading)
      (part : List Action), steps = front.map .ok ++ [last] ∧
      (∀ stage ∈ front, stage.terminal = false ∧ ∃ writer, stage.stdout = .pipe writer) ∧
      (Reading.ofTokens tokens)[front.length]? = some reading ∧
      deeds.filterMap Event.action? =
        ((Reading.ofTokens tokens).take front.length).flatMap Reading.preparation ++ part ∧
      reading.Concludes part deeds last
  /-- An operator that misses its operand is the last token. -/
  missing : ∀ operator, .error (.missingOperand operator) ∈ steps →
    ∃ before, tokens = before ++ [.operator operator]

/-- Whatever is granted or refused, the steps of a line end with its last stage or with the first
thing that goes wrong. Asking for more gives nothing and asks for nothing, even if tokens are
left. -/
theorem steps_end (tokens : List Token) (state : σ) :
    Ends tokens (deeds ((steps tokens).events handler state))
      ((steps tokens).run handler state).1 ∧
    ∀ count, ((answers count (ofTokens tokens)).run handler state).1 =
        (((steps tokens).run handler state).1.map some).take count ++
          List.replicate (count - ((steps tokens).run handler state).1.length) none ∧
      (((steps tokens).run handler state).1.length ≤ count →
        (answers count (ofTokens tokens)).events handler state =
          (steps tokens).events handler state) := by
  have enough : (ofTokens tokens).readings.length ≤ tokens.length := by
    simpa using Reading.length_ofTokens_le tokens
  unfold steps
  -- There are no more stages than the bound allows for, so no call finds more of them.
  refine ⟨?_, fun count => answers_eq handler count tokens.length _ state enough⟩
  have yields := collect_yields handler tokens.length (ofTokens tokens) state enough
  rw [readings_ofTokens, stdin_ofTokens] at yields
  have something (filled : tokens ≠ []) := yields.concluded (Reading.isLine_ofTokens tokens)
    (Reading.ofTokens_ne_nil filled)
  refine ⟨?_, something, ?_⟩
  · rintro rfl
    exact ⟨rfl, rfl⟩
  · intro operator given
    by_cases filled : tokens = []
    · subst filled
      cases given
    · obtain ⟨front, last, reading, part, split, -, found, -, concludes⟩ := something filled
      rw [split, List.mem_append, List.mem_singleton] at given
      rcases given with early | rfl
      · simp at early
      · exact Reading.tokens_eq_concat found concludes.closing_eq

end Builder

end LineShell
