import LineShell.Proofs.Search.Straying
import LineShell.Proofs.Streams.Stalling

/-! Composing: what comes of a plain line is what its stages make of its input, one after
another. -/

namespace LineShell

/-- A process that ends by itself with a code exits with it. -/
theorem WaitStatus.exitCode_ofCode (code : UInt8) : (ofCode code).exitCode = code.toNat := by
  have all : ∀ number : Fin 256, (ofCode (.ofFin number)).exitCode = number.val := by decide +kernel
  exact all code.toFin

namespace Session

variable {session : Session} {line : String} {numbers : List Nat} {history : List Event}
  {record : Record}

/-- Joins run no line, and give a status for each number that has a reaper. -/
theorem joined_of_joins {reapers : List Reaper}
    (unfolds : (perform (numbers.map .join) session reapers).Unfolds history (.done record)) :
    record.runs = [] ∧ record.joined.map (·.1) = numbers.filter (· < reapers.length) := by
  induction numbers generalizing history record with
  | nil =>
    cases unfolds
    exact ⟨rfl, rfl⟩
  | cons number rest ih =>
    rw [List.map_cons] at unfolds
    cases found : reapers[number]? with
    | none =>
      -- A number beyond the reapers is passed over in silence.
      have beyond : ¬ number < reapers.length := Nat.not_lt.mpr (List.getElem?_eq_none_iff.mp found)
      rw [perform_join_none found] at unfolds
      rw [List.filter_cons_of_neg (by simpa using beyond)]
      exact ih unfolds
    | some reaper =>
      -- Any other takes one answer, which is put in front of what the other joins give.
      have within := (List.getElem?_eq_some_iff.mp found).1
      rw [perform_join found] at unfolds
      cases unfolds with
      | answered behind =>
        obtain ⟨others, last, record, rfl, inner, ended⟩ := behind.of_bind
        cases ended
        obtain ⟨runs, joined⟩ := ih inner
        exact ⟨runs, by rw [List.map_cons, joined, List.filter_cons_of_pos (by simpa using within)]⟩

/-- Behind a line, they do so for the reapers of that. -/
theorem joined_of_run
    (unfolds : (perform (.run line :: numbers.map .join) session []).Unfolds history (.done record)) :
    record.joined.map (·.1) = numbers.filter (· < record.reapers.length) := by
  rw [perform_run] at unfolds
  obtain ⟨part, others, result, rfl, first, behind⟩ := unfolds.of_bind
  obtain ⟨others, last, rest, rfl, inner, ended⟩ := behind.of_bind
  cases ended
  obtain ⟨runs, joined⟩ := joined_of_joins inner
  simpa [Record.reapers, runs] using joined

end Session

namespace Chain

variable {chain : Chain} {wiring : Wiring} {first last : Machine} {session : Session} {line : String}
  {errands : List Errand} {turns : List (Option Machine.Agent)} {history : List Event}
  {record : Record}

section

variable (serves : chain.Serves wiring session line errands first)

include serves

/-- There is a filter at least. -/
theorem Serves.filters_pos : 0 < chain.filters.length :=
  serves.counted ▸ serves.stages_pos

/-- When everything is done, all stages have been started in order, the last one has been waited for
and the others have been handed to reapers. -/
theorem Serves.run_of_done
    (unfolds : (session.perform errands []).Unfolds history (.done record))
    (granted : ∀ event ∈ history, event.error? = none)
    (numbered : history.filterMap Event.process? = List.range' 1 (Tally.of history).starts) :
    (Tally.of history).starts = chain.filters.length ∧
    ∃ run next reply, record.runs = [(run, next)] ∧
      run.outcome = .ofWait (chain.filters.length - 1) reply ∧
      (chain.filters.length, reply) ∈ history.filterMap Event.waited? ∧
      run.reapers.map (·.process) = List.range' 1 (chain.filters.length - 1) := by
  obtain ⟨run, next, started, runs, own, course, ends⟩ :=
    Session.exists_course serves.single (serves.readings ▸ serves.plain) unfolds granted
  have all : (Tally.of history).starts = chain.filters.length := by
    have whole := (course.whole rfl).1
    rw [filterMap_deeds, ← serves.readings] at whole
    rw [Tally.of, whole, serves.plain.tally_all, serves.counted]
  have counted : started.length = chain.filters.length := by
    rw [course.length_started, ← serves.readings, serves.counted]
  refine ⟨all, ?_⟩
  obtain ⟨_, waited, told, processes⟩ := Session.started_of_done own
  have process?_same := Session.Execution.filterMap_isOfLine Event.process?
    (fun event aside => (Event.still_of_isAside aside).1) history
  have waited?_same := Session.Execution.filterMap_isOfLine Event.waited?
    (fun event aside => (Event.still_of_isAside aside).2) history
  cases ends with
  | empty => exact absurd counted.symm (Nat.ne_of_gt serves.filters_pos)
  | @waited front final reply _ spawned reapers outcome seen =>
    obtain ⟨front_length, place⟩ : chain.filters.length = front.length + 1 ∧
        chain.filters.length - 1 = front.length := by
      rw [← counted]
      simp
    have member : (final.process, reply) ∈ history.filterMap Event.waited? := by
      rw [← waited?_same]
      exact List.mem_filterMap.mpr ⟨_, seen, rfl⟩
    -- As processes are numbered in order, the last of them has the number of stages, and the others
    -- those before it.
    have only := member
    rw [← waited?_same, told, Option.mem_toList] at only
    rw [process?_same, numbered, all, only, front_length, List.range'_1_concat] at processes
    obtain ⟨own, last⟩ := List.append_inj' processes rfl
    have final_process : final.process = chain.filters.length := by
      rw [front_length, Nat.add_comm]
      exact (List.singleton_inj.mp last).symm
    obtain rfl : run.reapers = front := reapers.trans (List.nil_append _)
    exact ⟨run, next, reply, runs, by rw [outcome, place, Nat.zero_add], final_process ▸ member,
      by rw [place, own]⟩

/-- A process that has ended has done so with the code of its own stage. -/
theorem Serves.exits {scene : Scene Record}
    (plays : Scene.Plays ⟨session.perform errands [], first⟩ turns history scene)
    (granted : ∀ event ∈ history, event.error? = none) {place : Nat} {status : WaitStatus}
    (exits : Scene.Exits ⟨session.perform errands [], first⟩ turns (place + 1) status) :
    ∃ filter, chain.filters[place]? = some filter ∧ status = .ofCode filter.code := by
  obtain ⟨earlier, later, before, moment, rfl, start, process, found, ended⟩ := exits
  have earlier_granted : ∀ event ∈ before, event.error? = none := fun event seen =>
    granted event ((start.isPrefix plays).subset seen)
  obtain ⟨_, ⟨_, _, ⟨⟨unsent, passing⟩, _⟩, _, _⟩⟩ :=
    serves.moments (Scene.follows_iff.mpr ⟨_, start⟩) earlier_granted
  -- A process that has ended has the code of its filter, at whatever moment that is.
  have inside : place < moment.machine.processes.length := (List.getElem?_eq_some_iff.mp found).1
  have at_place := List.getElem?_eq_getElem (Nat.lt_of_lt_of_le inside passing.few)
  have does := passing.stages place _ at_place
  change moment.machine.processes[place]? = some process at found
  rw [found, Option.map_some, ended] at does
  exact ⟨_, at_place, does.reap.1⟩

/-- When the last stage is over, the last file has all that has come out behind it. -/
theorem Serves.content {scene : Scene Record} {ledger : Ledger}
    (moment : chain.Moment wiring first history ledger scene)
    (all : (Tally.of history).starts = chain.filters.length)
    (reaped : scene.machine.IsReaped chain.filters.length) :
    scene.machine.files.content? chain.sink = some (chain.before ++ chain.result) := by
  obtain ⟨_, _, ⟨⟨unsent, passing⟩, grown⟩, _, _⟩ := moment
  have counted := grown.processes.trans all
  obtain ⟨process, found, progress⟩ := reaped
  -- The process of the last stage has nothing left to write, and all that it has written is there.
  obtain ⟨place, last⟩ := Nat.exists_eq_add_of_lt serves.filters_pos
  rw [Nat.zero_add] at last
  have at_place := List.getElem?_eq_getElem (show place < chain.filters.length by omega)
  have does := passing.stages place _ at_place
  rw [last] at found
  change scene.machine.processes[place]? = some process at found
  rw [found, Option.map_some] at does
  have sent := (does.exhausted (by simp [Process.alive, progress])).2
  have opening := List.getElem?_eq_getElem (passing.drained counted)
  obtain ⟨_, _, content, known, _, whole⟩ := passing.ports.drain _ opening
  rw [last, Nat.add_sub_cancel, sent, List.append_nil] at whole
  rw [known, whole]

variable
  (plays : Scene.Plays ⟨session.perform errands [], first⟩ turns history ⟨.done record, last⟩)
  (granted : ∀ event ∈ history, event.error? = none)

include plays granted

/-- When everything is done, the line has exited with the code of its last stage. -/
theorem Serves.outcome : ∃ filter, chain.filters.getLast? = some filter ∧
    record.runs.map (·.1.outcome) = [.exited filter.code.toNat] := by
  have follows := Scene.follows_iff.mpr ⟨_, plays⟩
  obtain ⟨_, moment⟩ := serves.moments follows granted
  obtain ⟨_, run, next, reply, runs, outcome, waited, _⟩ :=
    serves.run_of_done follows.unfolds granted moment.numbered
  obtain ⟨_, _, tended⟩ := plays.tended serves.moment.sound
  -- The last stage has been waited for, and its process has the number of the stages.
  obtain ⟨status, rfl, exits⟩ := tended.waits _ _ waited
  rw [← Nat.sub_add_cancel serves.filters_pos] at exits
  obtain ⟨filter, found, rfl⟩ := serves.exits plays granted exits
  refine ⟨filter, by rwa [List.getLast?_eq_getElem?], ?_⟩
  rw [runs, List.map_singleton, outcome, Outcome.ofWait, WaitStatus.exitCode_ofCode]

/-- Those of its reapers that have been joined have given the codes of their own stages. -/
theorem Serves.status_of_joined {number : Nat} {status : Option WaitStatus}
    (joined : (number, status) ∈ record.joined) :
    status = (chain.filters[number]?).map fun filter => .ofCode filter.code := by
  have follows := Scene.follows_iff.mpr ⟨_, plays⟩
  obtain ⟨_, moment⟩ := serves.moments follows granted
  obtain ⟨_, run, next, _, runs, _, _, processes⟩ :=
    serves.run_of_done follows.unfolds granted moment.numbered
  obtain ⟨_, _, tended⟩ := plays.tended serves.moment.sound
  obtain ⟨_, joins⟩ := Session.exists_lines follows.unfolds
  obtain ⟨reaper, earlier, later, found, split, handed⟩ := joins number status joined
  obtain ⟨given, rfl, exits⟩ := tended.joins _ _ _ _ split handed
  -- Processes are numbered from one on, and reapers from zero on.
  have own : reaper.process = number + 1 := by
    have listed : run.reapers[number]? = some reaper := by
      simpa [Record.reapers, runs] using found
    have there := congrArg (·[number]?) processes
    rw [List.getElem?_map, listed] at there
    obtain ⟨_, same⟩ := List.getElem?_eq_some_iff.mp there.symm
    rw [List.getElem_range', Nat.one_mul, Nat.add_comm] at same
    exact same.symm
  obtain ⟨filter, at_number, rfl⟩ := serves.exits plays granted (own ▸ exits)
  rw [at_number]
  rfl

/-- The last file has all that comes out in the end. -/
theorem Serves.output :
    last.files.content? chain.sink = some (chain.before ++ chain.result) := by
  have follows := Scene.follows_iff.mpr ⟨_, plays⟩
  obtain ⟨_, moment⟩ := serves.moments follows granted
  obtain ⟨all, _, _, _, _, _, waited, _⟩ :=
    serves.run_of_done follows.unfolds granted moment.numbered
  obtain ⟨_, _, tended⟩ := plays.tended serves.moment.sound
  obtain ⟨status, rfl, _⟩ := tended.waits _ _ waited
  -- The status of the last stage has been given away by the wait for it.
  obtain ⟨earlier, later, rfl⟩ := Event.exists_of_waited? waited
  obtain ⟨_, _, _, _, found, rest⟩ := follows.split
  exact serves.content moment all (rest.isReaped (Machine.isReaped_of_answer found))

end

/-- The reapers that are joined behind a line are all those that it has. -/
theorem Serves.joined {numbers : List Nat}
    (serves : chain.Serves wiring session line (.run line :: numbers.map .join) first)
    (plays : Scene.Plays ⟨session.perform (.run line :: numbers.map .join) [], first⟩ turns history
      ⟨.done record, last⟩)
    (granted : ∀ event ∈ history, event.error? = none) :
    record.joined = (numbers.filter (· < chain.filters.length - 1)).map fun number =>
      (number, (chain.filters[number]?).map fun filter => .ofCode filter.code) := by
  have follows := Scene.follows_iff.mpr ⟨_, plays⟩
  obtain ⟨_, moment⟩ := serves.moments follows granted
  obtain ⟨_, run, _, _, runs, _, _, processes⟩ :=
    serves.run_of_done follows.unfolds granted moment.numbered
  -- Each stage but the last has a reaper, and each of these gives the status of its own stage.
  have length : record.reapers.length = chain.filters.length - 1 := by
    simpa [Record.reapers, runs] using congrArg List.length processes
  rw [← length, ← Session.joined_of_run follows.unfolds, List.map_map]
  refine Eq.trans (List.map_id _).symm (List.map_congr_left fun joined member => ?_)
  exact Prod.ext rfl (serves.status_of_joined plays granted member)

end Chain

/-- A program that gives everything twice, and ends with a code of its own. -/
def Filter.doubling : Filter where
  apply data := data ++ data
  code := 3

/-- A machine all of whose files are that program. -/
def Machine.mill : Machine :=
  { Machine.relay with image := fun _ => some fun _ _ => Filter.doubling.task.toBehaviour }

/-- Two of its programs in a row, from one file to another. -/
def Chain.mill : Chain where
  filters := [.doubling, .doubling]
  input := Utf8.ofString "a | b\n"
  source := 2
  text := Utf8.ofString "a | b\n"
  sink := 3
  before := []
  apart := by decide
  feed := 3
  drain := 4
  pipe := 0

/-- The line that runs them. -/
def Wiring.mill : Wiring where
  readings := [{ command := .word "a", items := [.input (.word "input")], closing := .pipe },
    { command := .word "b", items := [.output (.word "output")] }]
  input := some "input"
  output := some "output"
  opening := 3
  pipe := 0

/-- The interpreter comes as far as to wait for the second stage. Then the first one reads, writes
and ends, its reaper gives up the pipe, and the second one does as the first. -/
def Machine.millTurns : List (Option Agent) :=
  List.replicate 11 none ++ List.replicate 4 (some (.process 1)) ++
    List.replicate 2 (some (.reaper 0)) ++ List.replicate 4 (some (.process 2)) ++ [none, none]

/-- What is told of a success comes from one. -/
theorem exists_of_told {ε α β : Type} {result : Except ε α} {tell : α → β} {told : β}
    (known : result.toOption.map tell = some told) :
    ∃ given, result = .ok given ∧ tell given = told := by
  cases result with
  | error cause => cases known
  | ok given => exact ⟨given, rfl, Option.some.inj known⟩

/-- Whatever is started on the machine is that program. -/
theorem Chain.programmed_mill (errands : List Errand) :
    Chain.mill.Programmed ⟨Session.perform errands {} [], .mill⟩ := by
  intro history command next machine follows _ filter behaviour found loaded
  obtain ⟨_, program, _, _, known, rfl⟩ := Machine.exists_program_of_loadNamed loaded
  have image : machine.image = Machine.mill.image := follows.image
  rw [image] at known
  cases known
  -- There are two stages, and what they read and write is short.
  have inside : (Tally.of history).starts < 2 := (List.getElem?_eq_some_iff.mp found).1
  generalize (Tally.of history).starts = starts at found inside ⊢
  obtain rfl | rfl : starts = 0 ∨ starts = 1 := by omega
  all_goals
    cases found
    exact Filter.acts_task _ (by decide +kernel) (by decide +kernel)

/-- The line is a plain one on that machine, which has just begun. -/
theorem Chain.serves_mill : Chain.mill.Serves .mill {} "a < input | b > output"
    (.run "a < input | b > output" :: [0].map .join) .mill where
  plain := {
    stages := List.cons_ne_nil _ _
    closing := by
      intro index reading found
      match index, found with
      | 0, rfl | 1, rfl => rfl
    files := by
      intro index reading found
      match index, found with
      | 0, rfl | 1, rfl => rfl }
  counted := rfl
  opening := rfl
  pipe := rfl
  same := rfl
  alone := rfl
  known := rfl
  feeds := by
    -- What the opening gives is computed, and only its number is read off.
    have opened : (Machine.mill.files.openPath [] "input" .reading Machine.heldMode 0).toOption.map
        (·.1) = some 2 := by decide +kernel
    obtain ⟨⟨_, files⟩, found, rfl⟩ := exists_of_told opened
    exact .told found rfl rfl
  drains := by
    have opened : (Machine.mill.files.openPath [] "output" .replacing
        Machine.heldMode 0).toOption.map (fun given => (given.1, (given.2.content? 3).isSome)) =
        some (3, true) := by decide +kernel
    obtain ⟨⟨number, files⟩, found, told⟩ := exists_of_told opened
    obtain ⟨rfl, regular⟩ := Prod.mk.inj told
    exact .told found regular rfl rfl
  single := rfl
  readings := by decide +kernel
  fresh := Machine.isFresh_relay _
  programmed := programmed_mill _

end LineShell
