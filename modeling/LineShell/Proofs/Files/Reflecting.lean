import LineShell.Proofs.Files.Emptying
import LineShell.Proofs.Files.Walks
import LineShell.Proofs.Machine.Following
import LineShell.Proofs.Pipeline.Asking

/-! Reflecting: the files show which of them have been opened to be written while stages are built,
and nothing else. -/

namespace LineShell

/-- Whether the file that a request opens, if there is one, keeps bytes or is a directory. -/
def Call.IsPlain (files : FileSystem) (directory : Location) : Call → Prop
  | .openInput path => ∀ place node, files.locate directory path true = .ok (place, node) →
      node.isPlain = true
  | .openOutput path => ∀ place node, files.placeToCreate directory path false = .ok place →
      files.find? place = some node → node.isPlain = true
  | .lookup _ | .pipe | .close _ | .spawn _ | .reap .. | .wait _ | .join _ | .read _ | .write _
  | .flush | .report _ => True

namespace FileSystem

variable {files after : FileSystem} {directory : Location} {events : List Event}

/-- A place at which a file has been opened to be written, through whatever links. -/
def IsTarget (files : FileSystem) (directory : Location) (events : List Event)
    (place : Location) : Prop :=
  ∃ path handle, ⟨.openOutput path, .ok handle⟩ ∈ events ∧
    files.placeToCreate directory path false = .ok place

/-- The files after some events: those that have been opened to be written are there and empty, with
their permission bits, and nothing else has been created, changed or removed. -/
structure Reflects (files : FileSystem) (directory : Location) (events : List Event)
    (after : FileSystem) : Prop where
  others : ∀ place, ¬ files.IsTarget directory events place → after.at? place = files.at? place
  targets : ∀ place, files.IsTarget directory events place →
    ∃ mode, Node.Emptied (files.find? place) mode ∧ after.find? place = some (.regular mode [])
  /-- Every file that has been opened has its place. -/
  located : ∀ path handle, ⟨.openOutput path, .ok handle⟩ ∈ events →
    ∃ place, files.placeToCreate directory path false = .ok place
  tree : after.IsTree

/-- As long as nothing has happened, the files are as they were. -/
theorem Reflects.refl (tree : files.IsTree) : files.Reflects directory [] files where
  others _ _ := rfl
  targets := by
    rintro place ⟨_, _, opened, _⟩
    cases opened
  located := by
    rintro path handle opened
    cases opened
  tree := tree

/-- Regular files stand where the files after some events differ from those before. -/
theorem Reflects.resembles (reflects : files.Reflects directory events after) :
    files.Resembles after := by
  intro place
  by_cases target : files.IsTarget directory events place
  · -- What has been opened to be written is a regular file now.
    right
    obtain ⟨mode, emptied, found⟩ := reflects.targets place target
    obtain ⟨file, there, node⟩ := Option.map_eq_some_iff.mp found
    refine ⟨⟨file, there, by rw [node]; rfl⟩, fun old before => ?_⟩
    -- Only a regular file can have been emptied.
    have known : files.find? place = some old.node := by rw [find?, before]; rfl
    rw [known] at emptied
    generalize old.node = node at emptied
    cases emptied
    rfl
  · exact .inl (reflects.others place target)

/-- An event that opens no file to be written shows in no file. -/
theorem Reflects.unopened (reflects : files.Reflects directory events after) {event : Event}
    (other : ∀ path handle, event ≠ ⟨.openOutput path, .ok handle⟩) :
    files.Reflects directory (events ++ [event]) after := by
  -- So no file has been opened by it, and the targets are those of the events before.
  have within {path : String} {handle : Handle}
      (opened : ⟨.openOutput path, .ok handle⟩ ∈ events ++ [event]) :
      ⟨.openOutput path, .ok handle⟩ ∈ events := by
    rcases List.mem_append.mp opened with earlier | last
    · exact earlier
    · exact absurd (List.mem_singleton.mp last).symm (other path handle)
  exact {
    others := by
      intro place apart
      refine reflects.others place fun target => apart ?_
      obtain ⟨path, handle, opened, placed⟩ := target
      exact ⟨path, handle, List.mem_append_left _ opened, placed⟩
    targets := by
      rintro place ⟨path, handle, opened, placed⟩
      exact reflects.targets place ⟨path, handle, within opened, placed⟩
    located := fun path handle opened => reflects.located path handle (within opened)
    tree := reflects.tree }

/-- A file that is opened to be written shows at its place. -/
theorem Reflects.opened {later : FileSystem} (reflects : files.Reflects directory events after)
    {path : String} {handle : Handle} {place : Location}
    (placed : files.placeToCreate directory path false = .ok place)
    (empties : after.Empties place later) :
    files.Reflects directory (events ++ [⟨.openOutput path, .ok handle⟩]) later := by
  -- A target is an old one, or it is the place of this file.
  have split {other : Location} (target : files.IsTarget directory
      (events ++ [⟨.openOutput path, .ok handle⟩]) other) (apart : other ≠ place) :
      files.IsTarget directory events other := by
    obtain ⟨name, given, opened, there⟩ := target
    rcases List.mem_append.mp opened with earlier | last
    · exact ⟨name, given, earlier, there⟩
    · cases List.mem_singleton.mp last
      cases placed.symm.trans there
      exact absurd rfl apart
  have own : files.IsTarget directory (events ++ [⟨.openOutput path, .ok handle⟩]) place :=
    ⟨path, handle, List.mem_append_right _ (List.mem_singleton_self _), placed⟩
  refine ⟨?_, ?_, ?_, empties.tree⟩
  · -- What is no target has been one neither before nor now.
    intro other free
    have apart : other ≠ place := by
      rintro rfl
      exact free own
    rw [empties.others other apart]
    refine reflects.others other fun target => free ?_
    obtain ⟨name, given, opened, there⟩ := target
    exact ⟨name, given, List.mem_append_left _ opened, there⟩
  · intro other target
    by_cases here : other = place
    · subst here
      obtain ⟨mode, emptied, found⟩ := empties.target
      refine ⟨mode, ?_, found⟩
      -- What counts for its permission bits is what was there in the beginning.
      by_cases before : files.IsTarget directory events other
      · -- It has been opened before, so it is emptied once more.
        obtain ⟨earlier, first, known⟩ := reflects.targets other before
        rw [known] at emptied
        cases emptied
        exact first.again
      · have same : after.find? other = files.find? other := by
          rw [find?, reflects.others other before, find?]
        rw [← same]
        exact emptied
    · have same : later.find? other = after.find? other := by
        rw [find?, empties.others other here, find?]
      rw [same]
      exact reflects.targets other (split target here)
  · intro name given opened
    rcases List.mem_append.mp opened with earlier | last
    · exact reflects.located name given earlier
    · cases List.mem_singleton.mp last
      exact ⟨place, placed⟩

/-- A path that is opened to be read leads to a file that there is, and that stays as it is. -/
theorem eq_of_openPath_reading {path : String} {mode number : Nat} {now : Int}
    (opened : files.openPath directory path .reading mode now = .ok (number, after)) :
    after = files ∧ ∃ place file, files.locateFile directory path true = .ok (place, file) ∧
      files.file? number = some file := by
  unfold openPath at opened
  simp only [Manner.reading, Bool.false_eq_true, if_false] at opened
  obtain ⟨place, found, opened⟩ := Machine.exists_of_bind_ok opened
  -- Nothing is created to be read, so the path leads to what there is.
  cases located : files.locateFile directory path true with
  | error number =>
    rw [located] at found
    cases found
  | ok result =>
    obtain ⟨reached, file⟩ := result
    rw [located] at found
    obtain rfl : reached = place := Except.ok.inj found
    have present : files.at? reached = some file := by
      unfold locateFile at located
      obtain ⟨arrival, _, led⟩ := Machine.exists_of_bind_ok located
      split at led
      · cases led
      · split at led
        · cases led
        · cases led
          assumption
    split at opened
    · rename_i other named at_place
      obtain ⟨_, existing, same⟩ := Machine.exists_of_bind_ok opened
      cases same
      cases present.symm.trans at_place
      refine ⟨eq_of_openExisting rfl existing, reached, file, rfl, ?_⟩
      simpa [at?, named] using present
    · -- What is there has a number.
      rename_i absent
      obtain ⟨named, at_number, -⟩ := Option.bind_eq_some_iff.mp present
      exact absurd present (absent named file at_number)

end FileSystem

namespace Machine

variable {machine after : Machine}

/-- The interpreter gets an answer at once when it opens a path that leads to a plain file: an
error, or a handle to that file. -/
theorem exists_openHeld {path : String} {manner : Manner}
    (plain : ∀ number files, machine.files.openPath machine.directory path manner heldMode
      machine.clock = .ok (number, files) →
        ∃ file, files.file? number = some file ∧ file.node.isPlain = true) :
    ∃ result after, machine.openHeld path manner = some (result, after) ∧
      ((∃ cause, result = .error cause ∧ after = machine) ∨
        ∃ number files, machine.files.openPath machine.directory path manner heldMode
          machine.clock = .ok (number, files) ∧ result = .ok (.file machine.openings.length) ∧
            after.files = files) := by
  unfold openHeld
  split
  · exact ⟨_, _, rfl, .inl ⟨_, rfl, rfl⟩⟩
  cases found : machine.files.openPath machine.directory path manner heldMode machine.clock with
  | error number =>
    have refused : machine.openFile machine.directory machine.ownHandle? path manner heldMode =
        .error number := by
      rw [openFile, found]
      rfl
    rw [refused]
    exact ⟨_, _, rfl, .inl ⟨_, rfl, rfl⟩⟩
  | ok result =>
    obtain ⟨number, files⟩ := result
    obtain ⟨file, stored, kind⟩ := plain number files found
    rw [openFile_plain found stored kind]
    -- A file has no other end to wait for.
    exact ⟨_, _, rfl, .inr ⟨number, files, rfl, rfl, rfl⟩⟩

/-- What is answered at once is the answer of the machine as the system around the interpreter. -/
theorem handler_eq {call : Call} {reply : call.Reply}
    (answered : machine.answer call = some (reply, after)) :
    handler call machine = (reply, after) := by
  have rounds : mostRounds = mostRounds - 1 + 1 := rfl
  rw [handler, rounds, respondWithin, answered]

end Machine

open Machine in
/-- A request by which a stage is built is answered at once if it opens no special file, and the
answer shows in the files as it should. -/
theorem FileSystem.Reflects.answer {files : FileSystem} {machine : Machine} {events : List Event}
    (reflects : files.Reflects machine.directory events machine.files) {call : Call}
    (building : call.IsForBuilding) (plain : call.IsPlain files machine.directory) :
    ∃ reply after, machine.answer call = some (reply, after) ∧
      files.Reflects machine.directory (events ++ [⟨call, reply⟩]) after.files := by
  have resembles := reflects.resembles
  cases call with
  | lookup | pipe | close =>
    -- These concern no file.
    refine ⟨_, _, rfl, reflects.unopened fun path handle same => ?_⟩
    cases same
  | openInput path =>
    obtain ⟨reply, after, answered, outcome⟩ := @exists_openHeld machine path .reading (by
      intro number opened found
      obtain ⟨rfl, place, file, located, stored⟩ := FileSystem.eq_of_openPath_reading found
      refine ⟨file, stored, ?_⟩
      -- What is found there now is a regular file, or it has been there all the time.
      rcases FileSystem.cases_of_locateFile resembles located with regular | before
      · rw [Node.isPlain, regular, Bool.true_or]
      · exact plain place file.node (by rw [FileSystem.locate, before]; rfl))
    -- Whatever comes of it, nothing is changed by reading.
    have same : after.files = machine.files := by
      rcases outcome with ⟨_, _, rfl⟩ | ⟨number, opened, found, _, same⟩
      · rfl
      · rw [same, (FileSystem.eq_of_openPath_reading found).1]
    refine ⟨reply, after, answered, ?_⟩
    rw [same]
    refine reflects.unopened fun path handle same => ?_
    cases same
  | openOutput path =>
    -- The path leads to the same place as in the beginning, and to a plain file if to any.
    have kind (place : Location) (node : Node)
        (placed : machine.files.placeToCreate machine.directory path false = .ok place)
        (found : machine.files.find? place = some node) : node.isPlain = true := by
      rcases resembles place with same | ⟨⟨file, there, regular⟩, -⟩
      · refine plain place node ((FileSystem.placeToCreate_eq_ok_iff resembles).mp placed) ?_
        rw [← found, FileSystem.find?, FileSystem.find?, same]
      · rw [FileSystem.find?, there] at found
        cases found
        rw [Node.isPlain, regular, Bool.true_or]
    have emptied {number : Nat} {opened : FileSystem} (found : machine.files.openPath
        machine.directory path .replacing heldMode machine.clock = .ok (number, opened)) :=
      FileSystem.empties_of_openPath reflects.tree kind found
    obtain ⟨reply, after, answered, outcome⟩ := @exists_openHeld machine path .replacing (by
      intro number opened found
      obtain ⟨place, -, empties, named⟩ := emptied found
      obtain ⟨mode, -, there⟩ := empties.target
      obtain ⟨file, stored, node⟩ := Option.map_eq_some_iff.mp there
      refine ⟨file, by simpa [FileSystem.at?, named] using stored, ?_⟩
      rw [node]
      rfl)
    refine ⟨reply, after, answered, ?_⟩
    -- A refusal changes nothing, and any other answer tells that the file is empty now.
    rcases outcome with ⟨cause, rfl, rfl⟩ | ⟨number, opened, found, rfl, same⟩
    · refine reflects.unopened fun path handle same => ?_
      cases same
    · obtain ⟨place, placed, empties, -⟩ := emptied found
      rw [same]
      exact reflects.opened ((FileSystem.placeToCreate_eq_ok_iff resembles).mp placed) empties
  | spawn | reap | wait | join | read | write | flush | report => cases building

namespace Flow

variable {α : Type}

/-- Building carries a machine from files that show what has been opened before to such that show
all that has been opened; and each request is answered by what shows at that moment. -/
theorem reflects_run {files : FileSystem} {flow : Flow α} (asks : flow.Asks Call.IsForBuilding)
    {machine : Machine} {past : List Event}
    (reflects : files.Reflects machine.directory past machine.files)
    (plain : ∀ event ∈ flow.events Machine.handler machine,
      event.call.IsPlain files machine.directory) :
    files.Reflects machine.directory (past ++ flow.events Machine.handler machine)
        (flow.run Machine.handler machine).2.files ∧
      ∀ before call reply later,
        flow.events Machine.handler machine = before ++ ⟨call, reply⟩ :: later →
          ∃ now next : Machine, files.Reflects machine.directory (past ++ before) now.files ∧
            machine.Outlook now ∧ now.answer call = some (reply, next) := by
  -- The induction follows the flow, request by request; the files keep up with the events.
  induction flow generalizing machine past with
  | done result =>
    refine ⟨by simpa using reflects, fun before call reply later split => ?_⟩
    cases before <;> cases split
  | ask call next ih =>
    have first := plain ⟨call, (Machine.handler call machine).1⟩ List.mem_cons_self
    obtain ⟨reply, after, answered, shown⟩ := reflects.answer asks.1 first
    -- The next request is made from the same directory, on the machine behind this answer.
    have here := Machine.outlook_of_answered answered
    rw [events_ask, Machine.handler_eq answered] at plain
    rw [events_ask, run_ask, Machine.handler_eq answered]
    rw [← here.directory] at shown plain
    obtain ⟨last, visible⟩ := ih reply (asks.2 reply) shown fun event seen =>
      plain event (List.mem_cons_of_mem _ seen)
    rw [here.directory] at last visible
    refine ⟨by simpa using last, fun before asked given later split => ?_⟩
    -- An event is the first one, or one of those behind it.
    cases before with
    | nil =>
      cases split
      exact ⟨machine, after, by simpa using reflects, .refl machine, answered⟩
    | cons event before =>
      obtain ⟨rfl, rest⟩ := List.cons.inj split
      obtain ⟨now, next, shows, outlook, answered⟩ := visible before asked given later rest
      exact ⟨now, next, by simpa using shows, here.trans outlook, answered⟩

end Flow

end LineShell
