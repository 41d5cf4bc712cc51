import LineShell.Pipeline.Plan

/-! Building: the stage, or the error, that each reading of a line becomes by its own events. -/

namespace LineShell

variable {α β σ : Type}

/-- Deeds are read off one event after another. -/
theorem deeds_cons (event : Event) (events : List Event) :
    deeds (event :: events) = deeds [event] ++ deeds events :=
  List.filter_append [event] events

@[simp] theorem deeds_nil : deeds [] = [] :=
  rfl

@[simp] theorem deeds_append (first second : List Event) :
    deeds (first ++ second) = deeds first ++ deeds second :=
  List.filter_append first second

/-- The actions among some events are those among their deeds. -/
theorem filterMap_deeds (events : List Event) :
    (deeds events).filterMap Event.action? = events.filterMap Event.action? := by
  rw [deeds, List.filterMap_filter]
  refine congrArg (List.filterMap · events) (funext fun event => ?_)
  cases event.action? <;> rfl

/-- The name that an action looks up. -/
def Action.name? : Action → Option String
  | .lookup name => some name
  | _ => none

/-- Names are looked up by actions. -/
theorem Event.filterMap_name? (events : List Event) :
    events.filterMap Event.name? = (events.filterMap Event.action?).filterMap Action.name? := by
  rw [List.filterMap_filterMap]
  refine congrArg (List.filterMap · events) (funext fun ⟨call, reply⟩ => ?_)
  cases call <;> rfl

/-- The names that are looked up among some events are those among their deeds. -/
theorem filterMap_name?_deeds (events : List Event) :
    (deeds events).filterMap Event.name? = events.filterMap Event.name? := by
  rw [Event.filterMap_name?, filterMap_deeds, ← Event.filterMap_name?]

/-- Giving up handles is no deed. -/
@[simp] theorem deeds_release (handler : Handler σ) (handles : List Handle) (state : σ) :
    deeds ((Flow.release handles).events handler state) = [] := by
  induction handles generalizing state with
  | nil => rfl
  | cons handle rest ih => exact ih _

namespace Reading

/-- What can come of a reading, given what the stage before leaves it to read and the deeds done for
it: the stage it asks for, or the error of the first thing that goes wrong. -/
inductive Built (reading : Reading) (stdin : Source) (events : List Event) :
    Except LineError Stage → Prop
  | complete (granted : ∀ event ∈ events, event.error? = none)
      (order : events.filterMap Event.action? = reading.preparation)
      (ended : reading.isDangling = false) :
      Built reading stdin events (.ok (reading.stage stdin events))
  | dangling {operator : Operator} (granted : ∀ event ∈ events, event.error? = none)
      (order : events.filterMap Event.action? = reading.preparation)
      (ended : reading.closing = .dangling operator) :
      Built reading stdin events (.error (.missingOperand operator))
  | refused {before : List Event} {last : Event} {error : LineError}
      (split : events = before ++ [last]) (granted : ∀ event ∈ before, event.error? = none)
      (refused : last.error? = some error)
      (order : events.filterMap Event.action? <+: reading.preparation) :
      Built reading stdin events (.error error)

/-- An item adds its own action to what is done for a stage. -/
theorem preparation_add {reading : Reading} (item : Item) (unended : reading.closing = .finish) :
    (reading.add item).preparation = reading.preparation ++ item.action?.toList := by
  cases item <;> simp [preparation, add, unended, Item.action?]

/-- What follows in a line only ever adds to what is done for its first stage. -/
theorem preparation_isPrefix_continued (reading : Reading) (unended : reading.closing = .finish)
    (rest : List Token) :
    ∃ whole others, reading.continued rest = whole :: others ∧
      reading.preparation <+: whole.preparation := by
  fun_induction continued reading rest with
  | case1 reading => exact ⟨_, _, rfl, List.prefix_rfl⟩
  | case2 reading _ rest ih | case4 reading _ rest ih | case5 reading _ rest ih =>
    -- The first stage goes on, with one more item than before.
    obtain ⟨whole, others, split, extended⟩ := ih (by simpa [add] using unended)
    rw [preparation_add _ unended] at extended
    exact ⟨whole, others, split, (List.prefix_append _ _).trans extended⟩
  | case3 reading operator =>
    exact ⟨_, _, rfl, by simp [preparation, unended]⟩
  | case6 reading command rest ih =>
    exact ⟨_, _, rfl, by simp [preparation, unended]⟩

/-- A stage that is not complete yet: what its reading so far becomes by the deeds so far. -/
def begun (reading : Reading) (stdin : Source) (past : List Event) : Stage :=
  { reading.stage stdin past with terminal := false }

/-- The deeds so far, when nothing has gone wrong and the stage has not ended. -/
structure Underway (reading : Reading) (past : List Event) : Prop where
  unended : reading.closing = .finish
  granted : ∀ event ∈ past, event.error? = none
  order : past.filterMap Event.action? = reading.preparation
  unpiped : past.filterMap Event.ends? = []

/-- A word becomes one more argument. -/
theorem begun_argument (reading : Reading) (stdin : Source) (past : List Event) (word : String) :
    (reading.add (.argument word)).begun stdin past =
      (reading.begun stdin past).withArgument word := by
  simp [begun, stage, add, arguments, Stage.withArgument, Item.argument?]

/-- A file that has been opened becomes the source. -/
theorem begun_input (reading : Reading) (stdin : Source) (past : List Event) (path : Token)
    (handle : Handle) :
    (reading.add (.input path)).begun stdin (past ++ [⟨.openInput path.text, .ok handle⟩]) =
      { reading.begun stdin past with stdin := .file path.text handle } := by
  simp [begun, stage, add, arguments, Item.argument?, Event.program?, Event.source?, Event.sink?,
    Event.ends?]

/-- A file that has been opened becomes the sink, as long as there is no pipe. -/
theorem begun_output {reading : Reading} {past : List Event} (underway : reading.Underway past)
    (stdin : Source) (path : Token) (handle : Handle) :
    (reading.add (.output path)).begun stdin (past ++ [⟨.openOutput path.text, .ok handle⟩]) =
      { reading.begun stdin past with stdout := .file path.text handle } := by
  simp [begun, stage, add, arguments, Item.argument?, Event.program?, Event.source?, Event.sink?,
    Event.ends?, underway.unpiped]

/-- A pipe becomes the sink, and ends the stage. -/
theorem stage_pipe {reading : Reading} {past : List Event} (underway : reading.Underway past)
    (stdin : Source) (reader writer : Handle) :
    ({ reading with closing := .pipe } : Reading).stage stdin
        (past ++ [⟨.pipe, .ok (reader, writer)⟩]) =
      { reading.begun stdin past with stdout := .pipe writer } := by
  simp [begun, stage, arguments, Event.program?, Event.source?, Event.ends?, underway.unpiped]

/-- A word takes no deed. -/
theorem Underway.word {reading : Reading} {past : List Event} (underway : reading.Underway past)
    (word : String) : (reading.add (.argument word)).Underway past where
  unended := underway.unended
  granted := underway.granted
  -- A word asks for no action.
  order := by
    rw [underway.order, preparation_add _ underway.unended]
    simp [Item.action?]
  unpiped := underway.unpiped

/-- A file takes one deed, which has to succeed. -/
theorem Underway.file {reading : Reading} {past : List Event} (underway : reading.Underway past)
    (item : Item) (event : Event) (action : event.action? = item.action?)
    (granted : event.error? = none) (unpiped : event.ends? = none) :
    (reading.add item).Underway (past ++ [event]) where
  unended := underway.unended
  granted := Event.granted_append underway.granted granted
  -- The deed for the item stands behind all others.
  order := by
    rw [Event.filterMap_concat, underway.order, preparation_add _ underway.unended, ← action]
  unpiped := by simp [underway.unpiped, unpiped]

end Reading

namespace Builder

/-- The stages that are left of a line, as they read. -/
def readings (builder : Builder) : List Reading :=
  match builder.pending with
  | none => []
  | some pending => Reading.continued { command := pending.command } builder.tokens

/-- Where the next stage of a line reads from, unless it is told otherwise. -/
def stdin (builder : Builder) : Source :=
  match builder.pending with
  | none => .inherit
  | some pending => pending.stdin

/-- What a step of a builder has to leave: the other stages of the line, the first of which reads
from the pipe that the step has made, or nothing after an error. -/
def Leaves (rest : Builder) (others : List Reading) (events : List Event) :
    Except LineError Stage → Prop
  | .ok _ => rest.readings = others ∧ rest.stdin = Reading.inherited events
  | .error _ => rest.pending = none

/-- One step of a builder: its first reading is built, and the others are left. -/
def Builds (readings : List Reading) (stdin : Source) (events : List Event) (step : Step) : Prop :=
  ∃ whole others, readings = whole :: others ∧ whole.Built stdin events step.1 ∧
    step.2.Leaves others events step.1

variable {σ : Type} (handler : Handler σ)

/-- Giving up gives the error and leaves nothing, and takes no deed. -/
theorem run_fail (error : LineError) (owned : List Handle) (rest : List Token) (state : σ) :
    ((fail error owned rest).run handler state).1 = (.error error, ⟨rest, none⟩) ∧
      deeds ((fail error owned rest).events handler state) = [] := by
  simp [fail]

/-- A step that fails on its last deed builds its first reading as far as that goes. -/
theorem builds_refused (past : List Event) {readings : List Reading} {stdin : Source}
    {event : Event} {error : LineError} {rest : List Token}
    (granted : ∀ event ∈ past, event.error? = none) (refused : event.error? = some error)
    (order : ∃ whole others, readings = whole :: others ∧
      (past ++ [event]).filterMap Event.action? <+: whole.preparation) :
    Builds readings stdin (past ++ [event]) (.error error, ⟨rest, none⟩) := by
  obtain ⟨whole, others, split, order⟩ := order
  exact ⟨whole, others, split, .refused rfl granted refused order, rfl⟩

/-- The deed for an item comes before everything that the rest of the line asks for. -/
theorem order_of_item {reading : Reading} {past : List Event} (underway : reading.Underway past)
    {item : Item} {event : Event} (action : event.action? = item.action?) (tokens : List Token) :
    ∃ whole others, (reading.add item).continued tokens = whole :: others ∧
      (past ++ [event]).filterMap Event.action? <+: whole.preparation := by
  obtain ⟨whole, others, split, extended⟩ := Reading.preparation_isPrefix_continued
    (reading.add item) underway.unended tokens
  -- The item is one of the first stage, whatever follows it in the line.
  refine ⟨whole, others, split, ?_⟩
  rw [Reading.preparation_add _ underway.unended, ← action] at extended
  rw [Event.filterMap_concat, underway.order]
  exact extended

/-- A stage that is underway is completed as the rest of the line reads. -/
theorem complete_builds (reading : Reading) (stdin : Source) (past : List Event)
    (underway : reading.Underway past) (tokens : List Token) (state : σ) :
    Builds (reading.continued tokens) stdin
      (past ++ deeds ((complete (reading.begun stdin past) tokens).events handler state))
      ((complete (reading.begun stdin past) tokens).run handler state).1 := by
  -- Reading and building consume the same tokens, so the cases of the one are those of the other.
  -- Throughout, the stage so far is what the reading so far has become by the deeds so far.
  fun_induction Reading.continued reading tokens generalizing past state with
  | case1 reading =>
    refine ⟨reading, [], rfl, ?_, ?_⟩
    · have whole : { reading.begun stdin past with terminal := true } =
          reading.stage stdin past := by
        simp [Reading.begun, Reading.stage, underway.unended]
      simpa [complete, whole] using Reading.Built.complete underway.granted underway.order
        (by simp [Reading.isDangling, underway.unended])
    · simp [complete, Leaves, readings, Builder.stdin, Reading.inherited, underway.unpiped]
  | case2 reading word rest ih =>
    rw [complete, ← Reading.begun_argument]
    exact ih past (underway.word word) state
  | case3 reading operator =>
    have given := run_fail handler (.missingOperand operator) (reading.begun stdin past).handles []
      state
    refine ⟨_, _, rfl, ?_, ?_⟩
    · rw [complete, given.1, given.2, List.append_nil]
      exact .dangling underway.granted (by simpa [Reading.preparation, underway.unended] using
        underway.order) rfl
    · rw [complete, given.1]
      rfl
  | case4 reading path rest ih =>
    rw [complete_input, Flow.run_ask, Flow.events_ask]
    rcases handler (.openInput path.text) state with ⟨cause | handle, after⟩
    · have given := run_fail handler (.redirectInput path.text cause)
        (reading.begun stdin past).handles rest after
      rw [given.1, deeds_cons, given.2]
      exact builds_refused past underway.granted rfl (order_of_item underway rfl rest)
    · have built := ih _
        (underway.file (.input path) ⟨.openInput path.text, .ok handle⟩ rfl rfl rfl)
      rw [Reading.begun_input] at built
      rw [deeds_cons, ← List.append_assoc, Flow.events_bind, Flow.run_bind, deeds_append,
        deeds_release, List.nil_append]
      exact built _
  | case5 reading path rest ih =>
    rw [complete_output, Flow.run_ask, Flow.events_ask]
    rcases handler (.openOutput path.text) state with ⟨cause | handle, after⟩
    · have given := run_fail handler (.redirectOutput path.text cause)
        (reading.begun stdin past).handles rest after
      rw [given.1, deeds_cons, given.2]
      exact builds_refused past underway.granted rfl (order_of_item underway rfl rest)
    · have built := ih _
        (underway.file (.output path) ⟨.openOutput path.text, .ok handle⟩ rfl rfl rfl)
      rw [Reading.begun_output underway] at built
      rw [deeds_cons, ← List.append_assoc, Flow.events_bind, Flow.run_bind, deeds_append,
        deeds_release, List.nil_append]
      exact built _
  | case6 reading command rest ih =>
    -- The pipe is the last deed, and the stage is read to its end.
    have order (event : Event) (action : event.action? = some .pipe) :
        (past ++ [event]).filterMap Event.action? =
          ({ reading with closing := .pipe } : Reading).preparation := by
      simp [underway.order, Reading.preparation, underway.unended, action]
    rw [complete_pipe, Flow.run_ask, Flow.events_ask]
    rcases handler .pipe state with ⟨cause | ⟨reader, writer⟩, after⟩
    · have given := run_fail handler (.pipe cause) (reading.begun stdin past).handles rest after
      rw [given.1, deeds_cons, given.2]
      exact builds_refused past underway.granted rfl
        ⟨_, _, rfl, order ⟨.pipe, .error cause⟩ rfl ▸ List.prefix_rfl⟩
    · have made : deeds [⟨.pipe, .ok (reader, writer)⟩] = [⟨.pipe, .ok (reader, writer)⟩] := rfl
      rw [deeds_cons, made, Flow.events_bind, Flow.run_bind, deeds_append, deeds_release,
        Flow.events_done, Flow.run_done, deeds_nil, List.append_nil, List.append_nil]
      refine ⟨{ reading with closing := .pipe }, _, rfl, ?_, rfl, ?_⟩
      · rw [← Reading.stage_pipe underway stdin reader writer]
        exact .complete (Event.granted_append underway.granted rfl)
          (order ⟨.pipe, .ok (reader, writer)⟩ rfl) rfl
      · simp [Builder.stdin, Reading.inherited, Event.ends?]

/-- Building the stage that comes next reads the line from its command on. -/
theorem build_builds (pending : Pending) (tokens : List Token) (state : σ) :
    Builds (Reading.continued { command := pending.command } tokens) pending.stdin
      (deeds ((build pending tokens).events handler state))
      ((build pending tokens).run handler state).1 := by
  rw [build_eq, Flow.run_ask, Flow.events_ask, deeds_cons]
  -- The look-up is the first deed, whatever else the line tells.
  rcases handler (.lookup pending.command.text) state with ⟨error | program, after⟩
  · have given := run_fail handler (.lookup error) pending.stdin.handle?.toList tokens after
    obtain ⟨whole, others, split, extended⟩ := Reading.preparation_isPrefix_continued
      { command := pending.command } rfl tokens
    rw [given.1, given.2, List.append_nil]
    exact builds_refused [] (by simp) rfl ⟨whole, others, split, extended⟩
  · have underway : ({ command := pending.command } : Reading).Underway
        [⟨.lookup pending.command.text, .ok program⟩] :=
      ⟨rfl, by simp [Event.error?], rfl, rfl⟩
    exact complete_builds handler _ pending.stdin _ underway tokens after

end Builder

end LineShell
