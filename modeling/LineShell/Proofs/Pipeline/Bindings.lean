import LineShell.Proofs.Pipeline.Faults
import Mathlib.Data.List.Basic

/-! Bindings: the program, the files and the pipe that a stage is given by the answers to what its
reading asks for. -/

namespace LineShell

/-- The path of a file that an action opens to be read. -/
def Action.input? : Action → Option String
  | .openInput path => some path
  | _ => none

/-- The path of a file that an action opens to be written. -/
def Action.output? : Action → Option String
  | .openOutput path => some path
  | _ => none

/-- The path of the file that is read. -/
def Source.path : Source → String
  | .file path _ => path
  | .inherit | .pipe _ => ""

/-- The path of the file that is written. -/
def Sink.path : Sink → String
  | .file path _ => path
  | .inherit | .pipe _ => ""

namespace Event

/-- A source that has been opened comes from the answer to a request for it. -/
theorem eq_of_source? {event : Event} {source : Source} (opened : event.source? = some source) :
    ∃ path handle, event = ⟨.openInput path, .ok handle⟩ ∧ source = .file path handle := by
  unfold source? at opened
  split at opened
  · cases opened
    exact ⟨_, _, rfl, rfl⟩
  · cases opened

/-- A sink that has been opened comes from the answer to a request for it. -/
theorem eq_of_sink? {event : Event} {sink : Sink} (opened : event.sink? = some sink) :
    ∃ path handle, event = ⟨.openOutput path, .ok handle⟩ ∧ sink = .file path handle := by
  unfold sink? at opened
  split at opened
  · cases opened
    exact ⟨_, _, rfl, rfl⟩
  · cases opened

/-- A program that has been found comes from the answer to a look-up. -/
theorem eq_of_program? {event : Event} {program : String}
    (found : event.program? = some program) : ∃ name, event = ⟨.lookup name, .ok program⟩ := by
  unfold program? at found
  split at found
  · cases found
    exact ⟨_, rfl⟩
  · cases found

/-- The ends of a pipe come from the answer to a request for one. -/
theorem eq_of_ends? {event : Event} {ends : Handle × Handle} (made : event.ends? = some ends) :
    event = ⟨.pipe, .ok ends⟩ := by
  unfold ends? at made
  split at made
  · cases made
    rfl
  · cases made

/-- Where nothing is refused, a file to read is opened for each action that asks for one. -/
theorem action?_input {event : Event} (granted : event.error? = none) :
    event.action?.bind Action.input? = event.source?.map Source.path := by
  -- An event that opens nothing asks for no file either.
  obtain ⟨call, reply⟩ := event
  cases call with
  | openInput path =>
    cases reply with
    | ok => rfl
    | error => cases granted
  | _ => rfl

/-- Where nothing is refused, a file to write is opened for each action that asks for one. -/
theorem action?_output {event : Event} (granted : event.error? = none) :
    event.action?.bind Action.output? = event.sink?.map Sink.path := by
  obtain ⟨call, reply⟩ := event
  cases call with
  | openOutput path =>
    cases reply with
    | ok => rfl
    | error => cases granted
  | _ => rfl

/-- Where some things are opened for the actions that ask for them, the last one is opened for the
last such action. -/
theorem getLast?_opened {β : Type} {events : List Event} {opened : Event → Option β}
    {asked : Action → Option String} {path : β → String}
    (agrees : ∀ event ∈ events, event.action?.bind asked = (opened event).map path) :
    ((events.filterMap Event.action?).filterMap asked).getLast? =
      (events.filterMap opened).getLast?.map path := by
  -- Event by event the two tell the same, so they do so of the last one.
  rw [List.filterMap_filterMap, List.filterMap_congr agrees, ← List.map_filterMap,
    List.getLast?_map]

end Event

namespace Reading

/-- What is asked of the actions that prepare a stage is what its items name, as long as neither the
look-up nor the pipe counts. -/
theorem filterMap_preparation {asked : Action → Option String} {named : Item → Option String}
    (reading : Reading) (command : ∀ name, asked (.lookup name) = none) (pipe : asked .pipe = none)
    (items : ∀ item : Item, item.action?.bind asked = named item) :
    reading.preparation.filterMap asked = reading.items.filterMap named := by
  rw [preparation, List.filterMap_append, List.filterMap_cons_none (command _),
    List.filterMap_filterMap, funext items]
  split <;> simp [pipe]

/-- A reading that does not dangle becomes a stage if nothing is refused that it asks for. -/
theorem Built.eq_stage {reading : Reading} {stdin : Source} {events : List Event}
    {result : Except LineError Stage} (built : reading.Built stdin events result)
    (ended : reading.isDangling = false)
    (granted : ∀ event ∈ events, ∀ action ∈ reading.preparation, event.action? = some action →
      event.error? = none) :
    result = .ok (reading.stage stdin events) ∧ (∀ event ∈ events, event.error? = none) ∧
      events.filterMap Event.action? = reading.preparation := by
  cases built with
  | complete quiet order _ => exact ⟨rfl, quiet, order⟩
  | dangling _ _ dangles => simp [isDangling, dangles] at ended
  | @refused before last _ split _ refused order =>
    -- What was refused is the last deed, and it is planned for this reading.
    obtain ⟨action, own⟩ := Event.action?_of_error? refused
    have asked : action ∈ events.filterMap Event.action? := by simp [split, own]
    have quiet := granted last (by simp [split]) action (order.subset asked) own
    cases refused.symm.trans quiet

variable {reading : Reading} {events : List Event} (granted : ∀ event ∈ events, event.error? = none)
  (order : events.filterMap Event.action? = reading.preparation)

include granted order

/-- A stage runs the program that was found for its command. -/
theorem program_stage (stdin : Source) :
    ⟨.lookup reading.command.text, .ok (reading.stage stdin events).program⟩ ∈ events := by
  -- The look-up comes first, and it was answered, so there is a last program.
  have first : .lookup reading.command.text ∈ events.filterMap Event.action? := by
    simp [order, preparation]
  have answered (event : Event) (own : event.action? = some (.lookup reading.command.text))
      (quiet : event.error? = none) : event.program?.isSome := by
    obtain ⟨call, reply⟩ := event
    cases call <;> cases own
    cases reply with
    | error => cases quiet
    | ok => rfl
  obtain ⟨last, final⟩ := exists_last_told answered granted first
  have given : (reading.stage stdin events).program = last := by rw [stage, final, Option.getD_some]
  obtain ⟨other, known, told⟩ := List.mem_filterMap.mp (List.mem_of_getLast? final)
  obtain ⟨name, rfl⟩ := Event.eq_of_program? told
  -- No other name is looked up for the stage.
  have planned : .lookup name ∈ reading.preparation :=
    order ▸ List.mem_filterMap.mpr ⟨_, known, rfl⟩
  rcases cases_of_mem_preparation planned with same | ⟨item, _, own⟩ | ⟨_, other⟩
  · cases same
    rw [given]
    exact known
  · cases item <;> cases own
  · cases other

/-- A stage reads the last file that it names, and what it is given if it names none. -/
theorem stdin_stage (stdin : Source) :
    (∀ path, reading.input? = some path → ∃ handle, ⟨.openInput path, .ok handle⟩ ∈ events ∧
      (reading.stage stdin events).stdin = .file path handle) ∧
    (reading.input? = none → (reading.stage stdin events).stdin = stdin) := by
  have asked : reading.preparation.filterMap Action.input? = reading.items.filterMap Item.input? :=
    reading.filterMap_preparation (fun _ => rfl) rfl fun item => by cases item <;> rfl
  -- Files are opened in the order in which they are named.
  have last := Event.getLast?_opened fun event seen => Event.action?_input (granted event seen)
  rw [order, asked, ← input?] at last
  constructor
  · intro path named
    rw [named, eq_comm, Option.map_eq_some_iff] at last
    obtain ⟨source, opened, rfl⟩ := last
    obtain ⟨event, seen, told⟩ := List.mem_filterMap.mp (List.mem_of_getLast? opened)
    obtain ⟨path, handle, rfl, rfl⟩ := Event.eq_of_source? told
    exact ⟨handle, seen, by simp [stage, opened, Source.path]⟩
  · intro unnamed
    rw [unnamed, eq_comm, Option.map_eq_none_iff] at last
    simp [stage, last]

/-- The last stage writes the last file that it names, and what the interpreter writes if it names
none. -/
theorem stdout_stage_finish (ended : reading.closing = .finish) (stdin : Source) :
    (∀ path, reading.output? = some path → ∃ handle, ⟨.openOutput path, .ok handle⟩ ∈ events ∧
      (reading.stage stdin events).stdout = .file path handle) ∧
    (reading.output? = none → (reading.stage stdin events).stdout = .inherit) := by
  -- With no pipe behind the stage, nothing but its own files can take the place of the sink.
  have unpiped : events.filterMap Event.ends? = [] :=
    ends_eq_nil (order ▸ pipe_notMem_preparation ended)
  have asked :
      reading.preparation.filterMap Action.output? = reading.items.filterMap Item.output? :=
    reading.filterMap_preparation (fun _ => rfl) rfl fun item => by cases item <;> rfl
  have last := Event.getLast?_opened fun event seen => Event.action?_output (granted event seen)
  rw [order, asked, ← output?] at last
  constructor
  · intro path named
    rw [named, eq_comm, Option.map_eq_some_iff] at last
    obtain ⟨sink, opened, rfl⟩ := last
    obtain ⟨event, seen, told⟩ := List.mem_filterMap.mp (List.mem_of_getLast? opened)
    obtain ⟨path, handle, rfl, rfl⟩ := Event.eq_of_sink? told
    exact ⟨handle, seen, by simp [stage, unpiped, opened, Sink.path]⟩
  · intro unnamed
    rw [unnamed, eq_comm, Option.map_eq_none_iff] at last
    simp [stage, unpiped, last]

/-- A stage that a pipe follows writes the pipe that the next stage is given to read. -/
theorem stdout_stage_pipe (piped : reading.closing = .pipe) (stdin : Source) :
    ∃ reader writer, ⟨.pipe, .ok (reader, writer)⟩ ∈ events ∧
      (reading.stage stdin events).stdout = .pipe writer ∧
      inherited events = .pipe reader := by
  -- Both ends come from the same pipe, the last one that was made.
  obtain ⟨⟨reader, writer⟩, made⟩ := exists_ends granted (by simp [order, preparation, piped])
  obtain ⟨event, seen, told⟩ := List.mem_filterMap.mp (List.mem_of_getLast? made)
  cases Event.eq_of_ends? told
  exact ⟨reader, writer, seen, by simp [stage, made], by simp [inherited, made]⟩

end Reading

end LineShell
