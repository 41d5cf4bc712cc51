import LineShell.Proofs.Streams.Plan
import LineShell.Proofs.Waiting.Settling

/-! Wiring: which ends of pipes and which files the stages of a plain line get. -/

namespace LineShell

/-- The action behind a program that is to be started. -/
theorem Event.action?_of_start? {event : Event} {command : Command} {reply : Except IoError Nat}
    (start : event.start? = some (command, reply)) :
    event.action? = some (.spawn command.arguments) := by
  unfold Event.start? at start
  split at start <;> cases start
  rfl

namespace Tally

/-- What some events count for. -/
abbrev of (history : List Event) : Tally :=
  ofActions (history.filterMap Event.action?)

/-- What one event counts for. -/
def ofEvent (event : Event) : Tally :=
  ofActions event.action?.toList

/-- One more event counts for itself. -/
theorem of_concat (past : List Event) (event : Event) :
    of (past ++ [event]) = (of past).add (ofEvent event) := by
  rw [of, Event.filterMap_concat, ofActions_append, ofEvent]

/-- What is no action counts for nothing. -/
theorem add_ofEvent_of_none {event : Event} (quiet : event.action? = none) (tally : Tally) :
    tally.add (ofEvent event) = tally := by
  rw [ofEvent, quiet]
  rfl

end Tally

/-- A plain line, with the numbers that its first file and its first pipe get. -/
structure Wiring where
  readings : List Reading
  input : Option String
  output : Option String
  opening : Nat
  pipe : Nat
  deriving DecidableEq, Repr, Inhabited

namespace Wiring

/-- What a stage is given to read from: the file for the first, and for any other the pipe behind
the stage before it. -/
def source? (wiring : Wiring) : Nat → Option Handle
  | 0 => wiring.input.map fun _ => .file wiring.opening
  | place + 1 => some (.reader (wiring.pipe + place))

/-- What a stage is given to write to: the file for the last, and for any other its own pipe. -/
def sink? (wiring : Wiring) (place : Nat) : Option Handle :=
  if place + 1 = wiring.readings.length then
    wiring.output.map fun _ => .file (wiring.opening + wiring.input.toList.length)
  else some (.writer (wiring.pipe + place))

/-- Whether files, pipes and processes are numbered one after another. -/
structure Numbers (wiring : Wiring) (tally : Tally) (event : Event) : Prop where
  opened : ∀ handle, event.opened? = some handle →
    handle = .file (wiring.opening + tally.inputs + tally.outputs)
  ends : ∀ ends, event.ends? = some ends →
    ends = (.reader (wiring.pipe + tally.pipes), .writer (wiring.pipe + tally.pipes))
  process : ∀ process, event.process? = some process → process = tally.starts + 1

/-- How what is held for a plain line goes with what has been done for it. -/
inductive Fits (wiring : Wiring) (tally : Tally) : Phase → Prop
  | between {next : Option Handle} (fresh : tally.lookups = tally.starts)
      (inner : tally.starts < wiring.readings.length)
      (source : next = if tally.starts = 0 then none else wiring.source? tally.starts) :
      Fits wiring tally (.idle next)
  | building {stdin stdout : Option Handle} (begun : tally.lookups = tally.starts + 1)
      (inner : tally.starts < wiring.readings.length) (unpiped : tally.pipes = tally.starts)
      (source : stdin =
        if tally.starts = 0 ∧ tally.inputs = 0 then none else wiring.source? tally.starts)
      (sink : stdout = if tally.outputs = 0 then none else wiring.sink? tally.starts) :
      Fits wiring tally (.building stdin stdout)
  | piped {stdin : Option Handle} {reader writer : Handle}
      (begun : tally.lookups = tally.starts + 1)
      (inner : tally.starts + 1 < wiring.readings.length)
      (source : stdin = wiring.source? tally.starts)
      (reads : reader = .reader (wiring.pipe + tally.starts))
      (writes : writer = .writer (wiring.pipe + tally.starts)) :
      Fits wiring tally (.piped stdin reader writer)
  | started {place : Nat} (fresh : tally.lookups = tally.starts) (count : tally.starts = place + 1)
      (inner : tally.starts < wiring.readings.length) :
      Fits wiring tally (.launched (place + 1) (some (.writer (wiring.pipe + place)))
        (some (.reader (wiring.pipe + place))))
  | last {process : Nat} (all : tally.starts = wiring.readings.length) :
      Fits wiring tally (.launched process none none)
  | finished (all : tally.starts = wiring.readings.length) : Fits wiring tally (.idle none)
  /-- The next stage has been given up. -/
  | lost (begun : tally.lookups = tally.starts + 1)
      (inner : tally.starts < wiring.readings.length) : Fits wiring tally (.idle none)

variable {wiring : Wiring} {tally : Tally} {before after : Ledger} {event : Event}

/-- Whether what is done next for a plain line is due. -/
abbrev IsDue (wiring : Wiring) (tally : Tally) (event : Event) : Prop :=
  ∀ action, event.action? = some action →
    Due wiring.readings wiring.input wiring.output tally action

/-- What is not given to the first stage is not there. -/
theorem source?_of_given {count : Nat} (told : count = wiring.input.toList.length) (place : Nat) :
    (if place = 0 ∧ count = 0 then none else wiring.source? place) = wiring.source? place := by
  cases place with
  | zero => cases given : wiring.input <;> simp [given, told, source?]
  | succ place => simp

/-- What is no concern of a line is no action. -/
theorem action?_of_isAside {event : Event} (aside : event.call.isAside = true) :
    event.action? = none := by
  obtain ⟨call, reply⟩ := event
  cases call <;> first | rfl | cases aside

/-- What has been done for a plain line when one of its programs is started. -/
theorem IsDue.of_start {command : Command} {reply : Except IoError Nat}
    (due : wiring.IsDue tally event) (start : event.start? = some (command, reply)) :
    tally.lookups = tally.starts + 1 ∧ tally.inputs = wiring.input.toList.length ∧
      (tally.starts + 1 < wiring.readings.length ∧ tally.pipes = tally.starts + 1 ∧
          tally.outputs = 0 ∨
        tally.starts + 1 = wiring.readings.length ∧ tally.pipes = tally.starts ∧
          tally.outputs = wiring.output.toList.length) := by
  have planned := due _ (Event.action?_of_start? start)
  generalize spawned : Action.spawn command.arguments = action at planned
  cases planned with
  | inner _ inner => exact ⟨rfl, rfl, .inl ⟨inner, rfl, rfl⟩⟩
  | last _ last => exact ⟨rfl, rfl, .inr ⟨last, rfl, rfl⟩⟩
  | lookup | input | output | pipe => cases spawned

/-- A step for which something is due leaves what goes with it. -/
theorem Fits.step (fits : wiring.Fits tally before.phase) (step : before.Step event after)
    (granted : event.error? = none) (due : wiring.IsDue tally event)
    (numbers : wiring.Numbers tally event) :
    wiring.Fits (tally.add (.ofEvent event)) after.phase := by
  -- Whatever is due tells how often everything has been done, and with that which phase it can be.
  cases step with
  | found awaits =>
    cases due _ rfl with
    | @lookup starts reading found =>
      have inner := (List.getElem?_eq_some_iff.mp found).1
      rcases Phase.cases_of_awaits awaits with rfl | ⟨rfl, rfl⟩
      · cases fits with
        | between _ _ source =>
          refine .building rfl inner rfl (source.trans ?_) rfl
          cases starts <;> simp [Tally.add, Tally.ofEvent, Event.action?, Tally.ofAction]
        | finished all => exact absurd inner (all ▸ Nat.lt_irrefl _)
        | lost begun => exact absurd begun (Nat.ne_of_lt (Nat.lt_succ_self _))
      · cases fits with
        | building begun => exact absurd begun (Nat.ne_of_lt (Nat.lt_succ_self _))
  | input =>
    obtain rfl := numbers.opened _ rfl
    cases due _ rfl with
    | input told =>
      cases fits with
      | building begun inner unpiped _ sink =>
        refine .building begun inner unpiped ?_ sink
        simp [source?, told, Tally.add, Tally.ofEvent, Event.action?, Tally.ofAction]
  | output =>
    obtain rfl := numbers.opened _ rfl
    cases due _ rfl with
    | output told last =>
      cases fits with
      | building begun inner unpiped source _ =>
        refine .building begun inner unpiped source ?_
        simp [sink?, told, last, Tally.add, Tally.ofEvent, Event.action?, Tally.ofAction]
  | pipe =>
    cases numbers.ends _ rfl
    cases due _ rfl with
    | pipe inner =>
      cases fits with
      | building begun _ _ source =>
        exact .piped begun inner (source.trans (source?_of_given rfl _)) rfl rfl
  | last =>
    obtain ⟨_, _, ⟨_, pipes, _⟩ | ⟨last, _⟩⟩ := due.of_start rfl
    · cases fits with
      | building _ _ unpiped => exact absurd (pipes.symm.trans unpiped) (Nat.succ_ne_self _)
    · exact .last last
  | started =>
    obtain ⟨begun, _, ⟨inner, _⟩ | ⟨last, _⟩⟩ := due.of_start rfl
    · cases fits with
      | piped _ _ _ reads writes =>
        rw [reads, writes, numbers.process _ rfl]
        exact .started begun rfl inner
    · cases fits with
      | piped _ inner _ _ _ => exact absurd last (Nat.ne_of_lt inner)
  | unfound awaits => cases granted
  | unstarted => cases granted
  | refused refused => cases granted.symm.trans refused
  | abandoned =>
    cases fits with
    | building begun inner => exact .lost begun inner
  | reaped =>
    rw [Tally.add_ofEvent_of_none rfl]
    cases fits with
    | started fresh count inner => exact .between fresh inner (by simp [count, source?])
  | waited =>
    cases fits with
    | last all => exact .finished all
  | closed => exact fits
  | aside awaits aside =>
    rw [Tally.add_ofEvent_of_none (action?_of_isAside aside)]
    exact fits

/-- A program is started with what is meant for its stage. -/
theorem Fits.spawned {command : Command} {process : Nat}
    (fits : wiring.Fits tally before.phase)
    (step : before.Step ⟨.spawn command, .ok process⟩ after)
    (due : wiring.IsDue tally ⟨.spawn command, .ok process⟩) :
    command.stdin = wiring.source? tally.starts ∧ command.stdout = wiring.sink? tally.starts := by
  -- A start is due behind the pipe of its stage, or at the last stage, and either fits one phase.
  obtain ⟨_, inputs, ⟨inner, pipes, _⟩ | ⟨last, _, outputs⟩⟩ := due.of_start rfl
  · cases step with
    | last =>
      cases fits with
      | building _ _ unpiped => exact absurd (pipes.symm.trans unpiped) (Nat.succ_ne_self _)
    | started input output =>
      cases fits with
      | piped _ _ source _ writes =>
        exact ⟨input.trans source,
          by rw [output, writes, sink?, if_neg (Nat.ne_of_lt inner)]⟩
    | refused refused => cases refused
    | aside _ aside => cases aside
  · cases step with
    | last input output =>
      cases fits with
      | building _ _ _ source sink =>
        refine ⟨(input.trans source).trans (source?_of_given inputs _), ?_⟩
        rw [output, sink, outputs, sink?, if_pos last]
        cases wiring.output <;> simp
    | started =>
      cases fits with
      | piped _ inner => exact absurd last (Nat.ne_of_lt inner)
    | refused refused => cases refused
    | aside _ aside => cases aside

/-- The end of the last pipe that the next stage is to read is held for it, unless that stage has
been given up. -/
theorem Fits.reader_mem {phase : Phase} {place : Nat} (fits : wiring.Fits tally phase)
    (some : tally.starts = place + 1) (inner : tally.starts < wiring.readings.length) :
    .reader (wiring.pipe + place) ∈ phase.handles ∨
      tally.lookups = tally.starts + 1 ∧ phase = .idle none := by
  cases fits with
  | between _ _ source => exact .inl (by simp [source, some, source?, Phase.handles])
  | building _ _ _ source => exact .inl (by simp [source, some, source?, Phase.handles])
  | piped _ _ source => exact .inl (by simp [source, some, source?, Phase.handles])
  | started _ other _ =>
    cases some.symm.trans other
    exact .inl (by simp [Phase.handles])
  | last all | finished all => exact absurd all (Nat.ne_of_lt inner)
  | lost begun => exact .inr ⟨begun, rfl⟩

/-- A process is handed on with the end that its stage writes. -/
theorem Fits.handed {process : Nat} {keeps : Option Handle} (fits : wiring.Fits tally before.phase)
    (step : before.Step event after) (reap : event.reap? = some (process, keeps)) :
    ∃ place, (process, keeps) = (place + 1, some (.writer (wiring.pipe + place))) := by
  obtain ⟨reader, writer, rfl, launched⟩ := step.launched_of_reap? reap
  rw [launched] at fits
  cases fits with
  | started => exact ⟨_, rfl⟩

/-- When a stage has been given up, nothing more is done for the line. -/
theorem tally_of_lost {past later : List Event} {last : Ledger}
    (leads : Flow.Leads Ledger.Step before later last) (phase : before.phase = .idle none)
    (begun : (Tally.of past).lookups = (Tally.of past).starts + 1)
    (due : ∀ earlier event rest, later = earlier ++ event :: rest →
      wiring.IsDue (.of (past ++ earlier)) event) :
    last.phase = .idle none ∧ Tally.of (past ++ later) = Tally.of past := by
  induction leads with
  | refl => exact ⟨phase, by rw [List.append_nil]⟩
  | @append events event middle last _ taken ih =>
    obtain ⟨idle, same⟩ := ih fun earlier other rest split =>
      due earlier other (rest ++ [event]) (by rw [split]; simp)
    have next := due events event [] rfl
    obtain ⟨phase, stray⟩ := middle
    subst idle
    rw [same] at next
    rw [← List.append_assoc, Tally.of_concat, same]
    -- There is nothing left to be given up but handles, and no command is looked up again.
    cases taken with
    | found | unfound =>
      generalize counted : Tally.of past = tally at next begun
      cases next _ rfl with
      | lookup => exact absurd begun (Nat.ne_of_lt (Nat.lt_succ_self _))
    | closed => exact ⟨rfl, Tally.add_ofEvent_of_none rfl _⟩
    | aside _ aside => exact ⟨rfl, Tally.add_ofEvent_of_none (action?_of_isAside aside) _⟩

end Wiring

/-- Nothing is refused to a flow to which everything is granted. -/
theorem Flow.granted_of_granting {α : Type} (flow : Flow α) (count : Nat) :
    ∀ event ∈ flow.events Builder.granting count, event.error? = none := by
  induction flow generalizing count with
  | done result => exact nofun
  | ask call next ih =>
    rw [events_ask]
    refine List.forall_mem_cons.mpr ⟨?_, ih _ _⟩
    cases call <;> rfl

/-- No program is started with an error stream of its own. -/
theorem Course.quiet {readings : List Reading} {stdin : Source} {events : List Event}
    {started : List Reaper} {error : Option LineError}
    (course : Course readings stdin events started error) {event : Event} (seen : event ∈ events)
    {command : Command} {reply : Except IoError Nat} (start : event.start? = some (command, reply)) :
    command.stderr = none := by
  -- The deeds by which a stage is built start nothing.
  have unstarted {whole : Reading} {stdin : Source} {events : List Event}
      {result : Except LineError Stage} (built : whole.Built stdin events result)
      (seen : event ∈ events) : command.stderr = none := by
    have planned := List.mem_filterMap.mpr ⟨event, seen, Event.action?_of_start? start⟩
    exact absurd (built.order.subset planned) (whole.spawn_notMem_preparation _)
  have inherits {whole : Reading} {stdin : Source} {events : List Event} {stage : Stage}
      (built : whole.Built stdin events (.ok stage)) : stage.command.stderr = none := by
    cases built
    rfl
  induction course with
  | finished => cases seen
  | started built _ ih =>
    rcases List.mem_append.mp seen with own | later
    · exact unstarted built own
    · rcases List.mem_cons.mp later with rfl | later
      · cases start
        exact inherits built
      · exact ih later
  | unstarted cause built =>
    rcases List.mem_append.mp seen with own | last
    · exact unstarted built own
    · cases List.mem_singleton.mp last
      cases start
      exact inherits built
  | unbuilt built => exact unstarted built seen

namespace Session

variable {session : Session} {line : String} {errands : List Errand} {history : List Event}
  {input output : Option String}

/-- A plain line to which everything is granted takes its whole course. -/
theorem exists_course (single : errands.filterMap Errand.line? = [line])
    (plain : Reading.IsPlain (session.readings line) input output) {record : Record}
    (unfolds : (perform errands session []).Unfolds history (.done record))
    (granted : ∀ event ∈ history, event.error? = none) :
    ∃ run next started, record.runs = [(run, next)] ∧
      (session.run line).Unfolds (history.filter Event.isOfLine) (.done (run, next)) ∧
      Course (session.readings line) .inherit (deeds history) started none ∧
      Run.Ends {} 0 (history.filter Event.isOfLine) started none run := by
  obtain ⟨⟨parts, lines, same⟩, _⟩ := exists_lines unfolds
  rw [single] at lines
  generalize told : record.runs = runs at lines
  cases lines with
  | @cons _ next _ _ part _ run _ first rest =>
    cases rest with
    | nil =>
      obtain rfl : history.filter Event.isOfLine = part := by simpa using same
      obtain ⟨started, error, course, ends⟩ := course_of_done first
      rw [Execution.deeds_isOfLine] at course
      refine ⟨run, next, started, rfl, first, ?_⟩
      cases error with
      | none => exact ⟨course, ends⟩
      | some error =>
        -- A line breaks by a refusal, or by an operator behind which it ends.
        obtain ⟨reading, part, found, _, breaks⟩ := course.broken rfl
        cases breaks with
        | refused _ _ final refused =>
          have seen := List.mem_of_mem_filter (List.mem_of_getLast? final)
          cases refused.symm.trans (granted _ seen)
        | dangling _ ended =>
          have closing := plain.closing _ _ found
          rw [ended] at closing
          split at closing <;> cases closing

/-- A plain line to which everything has been granted can be brought to its end, and then everything
has been done as planned. -/
theorem exists_completion (single : errands.filterMap Errand.line? = [line])
    (plain : Reading.IsPlain (session.readings line) input output) {flow : Flow Record}
    (unfolds : (perform errands session []).Unfolds history flow)
    (granted : ∀ event ∈ history, event.error? = none) :
    ∃ later record, flow.Unfolds later (.done record) ∧
      (history ++ later).filterMap Event.action? =
        (session.readings line).flatMap Reading.actions ∧
      ∀ event ∈ history ++ later, event.error? = none ∧
        ∀ command reply, event.start? = some (command, reply) → command.stderr = none := by
  -- What is left of the line is carried out with everything granted, and then it has a course.
  have rest := Flow.unfolds_events Builder.granting flow 0
  have all := List.forall_mem_append.mpr ⟨granted, flow.granted_of_granting 0⟩
  obtain ⟨run, next, started, _, _, course, _⟩ :=
    exists_course single plain (unfolds.trans rest) all
  refine ⟨_, _, rest, ?_, fun event seen => ⟨all event seen, fun command reply start => ?_⟩⟩
  · rw [← (course.whole rfl).1, filterMap_deeds]
  · refine course.quiet (List.mem_filter.mpr ⟨seen, ?_⟩) start
    rw [Event.action?_of_start? start]
    rfl

variable {wiring : Wiring}

/-- Whatever has been done along the plan of a line was due. -/
theorem isDue_of_planned (plain : Reading.IsPlain wiring.readings wiring.input wiring.output)
    (planned : history.filterMap Event.action? <+: wiring.readings.flatMap Reading.actions)
    {earlier rest : List Event} {event : Event} (split : history = earlier ++ event :: rest) :
    wiring.IsDue (.of earlier) event := by
  intro action found
  refine plain.due (List.IsPrefix.trans ⟨rest.filterMap Event.action?, ?_⟩ planned)
  simp [split, found]

/-- No stage of a plain line is given up as long as everything is granted. -/
theorem not_lost (single : errands.filterMap Errand.line? = [line])
    (readings : wiring.readings = session.readings line)
    (plain : Reading.IsPlain wiring.readings wiring.input wiring.output) {flow : Flow Record}
    (unfolds : (perform errands session []).Unfolds history flow)
    (granted : ∀ event ∈ history, event.error? = none) {ledger : Ledger}
    (keeps : ledger.Keeps (fun left _ => left.Rests) flow) (idle : ledger.phase = .idle none) :
    (Tally.of history).lookups ≠ (Tally.of history).starts + 1 := by
  intro begun
  obtain ⟨later, record, rest, whole, _⟩ :=
    exists_completion single (readings ▸ plain) unfolds granted
  obtain ⟨last, leads, _⟩ := rest.keeps keeps
  -- If nothing more were done, as many commands would have been looked up as programs started.
  obtain ⟨_, same⟩ := Wiring.tally_of_lost leads idle begun fun earlier event others split =>
    isDue_of_planned plain (readings ▸ whole ▸ List.prefix_rfl)
      (show history ++ later = history ++ earlier ++ event :: others by rw [split]; simp)
  have all := plain.tally_all
  rw [readings, ← whole] at all
  rw [← same, Tally.of, all] at begun
  exact absurd begun (Nat.ne_of_lt (Nat.lt_succ_self _))

end Session

end LineShell
