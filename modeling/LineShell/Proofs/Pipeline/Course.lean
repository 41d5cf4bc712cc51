import LineShell.Pipeline.Run
import LineShell.Proofs.Pipeline.Stages

/-! Courses: the deeds of a whole run, stage after stage, up to the first that is refused. -/

namespace LineShell

/-- The deeds for the stages of a line, the first of which reads from a source: with the processes
that the stages have become, and with the error that has ended the line early. -/
inductive Course : List Reading → Source → List Event → List Reaper → Option LineError → Prop
  | finished (stdin : Source) : Course [] stdin [] [] none
  /-- A stage has been started, and only then the next one is begun. -/
  | started {whole : Reading} {others : List Reading} {stdin : Source} {events later : List Event}
      {stage : Stage} {process : Nat} {started : List Reaper} {error : Option LineError}
      (built : whole.Built stdin events (.ok stage))
      (rest : Course others (Reading.inherited events) later started error) :
      Course (whole :: others) stdin (events ++ ⟨.spawn stage.command, .ok process⟩ :: later)
        (⟨stage.name, process⟩ :: started) error
  | unstarted {whole : Reading} {others : List Reading} {stdin : Source} {events : List Event}
      {stage : Stage} (cause : IoError) (built : whole.Built stdin events (.ok stage)) :
      Course (whole :: others) stdin (events ++ [⟨.spawn stage.command, .error cause⟩]) []
        (some (.spawn stage.name cause))
  | unbuilt {whole : Reading} {others : List Reading} {stdin : Source} {events : List Event}
      {error : LineError} (built : whole.Built stdin events (.error error)) :
      Course (whole :: others) stdin events [] (some error)

/-- A stage that has been built and does not end its line has another behind it. -/
theorem Reading.Built.ne_nil {whole : Reading} {others : List Reading} {stdin : Source}
    {events : List Event} {stage : Stage} (built : whole.Built stdin events (.ok stage))
    (line : IsLine (whole :: others)) (unended : whole.closing ≠ .finish) : others ≠ [] := by
  -- A stage at the end of its line is finished or dangles, and one that dangles is not built.
  rintro rfl
  cases built with
  | complete _ _ ended =>
    cases closing : whole.closing with
    | finish => exact unended closing
    | pipe => exact line closing
    | dangling operator => simp [isDangling, closing] at ended

/-- Without an error, every stage has been started. -/
theorem Course.length_started {readings : List Reading} {stdin : Source} {events : List Event}
    {started : List Reaper} (course : Course readings stdin events started none) :
    started.length = readings.length := by
  generalize absent : (none : Option LineError) = error at course
  induction course with
  | finished => rfl
  | started _ _ ih => simp [ih absent]
  | unstarted => cases absent
  | unbuilt => cases absent

namespace Run

/-- What becomes of a run, the next stage of which has a number, by the processes that its stages
become and the error that ends them. Without an error the last process has been waited for. -/
inductive Ends (run : Run) (number : Nat) (events : List Event) :
    List Reaper → Option LineError → Run → Prop
  | empty : Ends run number events [] none run
  | failed {started : List Reaper} {error : LineError} {result : Run}
      (spawned : result.spawned = run.spawned + started.length)
      (reapers : result.reapers = run.reapers ++ started)
      (outcome : result.outcome = .failed (number + started.length) error) :
      Ends run number events started (some error) result
  | waited {first : List Reaper} {last : Reaper} {reply : Except IoError WaitStatus} {result : Run}
      (spawned : result.spawned = run.spawned + first.length + 1)
      (reapers : result.reapers = run.reapers ++ first)
      (outcome : result.outcome = .ofWait (number + first.length) reply)
      (seen : ⟨.wait last.process, reply⟩ ∈ events) :
      Ends run number events (first ++ [last]) none result

/-- Every process that has been started is counted. -/
theorem Ends.spawned_eq {run result : Run} {number : Nat} {events : List Event}
    {started : List Reaper} {error : Option LineError}
    (ends : Ends run number events started error result) :
    result.spawned = run.spawned + started.length := by
  cases ends with
  | empty => rfl
  | failed spawned _ _ => exact spawned
  | waited spawned _ _ _ => rw [spawned, List.length_append, List.length_singleton, Nat.add_assoc]

/-- A run that an error has ended tells where. -/
theorem Ends.outcome_eq {run result : Run} {number : Nat} {events : List Event}
    {started : List Reaper} {error : LineError}
    (ends : Ends run number events started (some error) result) :
    result.outcome = .failed (number + started.length) error := by
  cases ends with
  | failed _ _ outcome => exact outcome

/-- A run that has failed, but not by its wait, has been ended by that error. -/
theorem Ends.eq_of_failed {run result : Run} {number stage : Nat} {events : List Event}
    {started : List Reaper} {error : Option LineError} {cause : LineError}
    (fresh : run.outcome = .empty) (ends : Ends run number events started error result)
    (failed : result.outcome = .failed stage cause) (other : ∀ why, cause ≠ .wait why) :
    error = some cause ∧ stage = number + started.length := by
  -- Besides an error of a stage, only the wait can let a run fail.
  cases ends with
  | empty => rw [fresh] at failed; cases failed
  | failed _ _ outcome =>
    rw [outcome] at failed
    cases failed
    exact ⟨rfl, rfl⟩
  | @waited _ _ reply _ _ _ outcome _ =>
    rw [outcome] at failed
    cases reply with
    | ok status => cases failed
    | error why =>
      cases failed
      exact absurd rfl (other why)

/-- A run that is given up at once has started nothing more. -/
theorem Ends.ofError (run : Run) (number : Nat) (events : List Event) (error : LineError) :
    Ends run number events [] (some error) { run with outcome := .failed number error } :=
  .failed rfl (List.append_nil _).symm rfl

/-- One more stage comes before what a run becomes by the others. -/
theorem Ends.cons {run result : Run} {number : Nat} {events all : List Event}
    {started : List Reaper} {error : Option LineError} {reaper : Reaper} (within : events ⊆ all)
    (occupied : error = none → started ≠ [])
    (ends : Ends { run with spawned := run.spawned + 1, reapers := run.reapers ++ [reaper] }
      (number + 1) events started error result) :
    Ends run number all (reaper :: started) error result := by
  -- Counting from one stage earlier shifts every number by one.
  cases ends with
  | empty => exact absurd rfl (occupied rfl)
  | failed spawned reapers outcome =>
    refine .failed ?_ ?_ ?_
    · simp only [spawned, List.length_cons]
      omega
    · rw [reapers, List.append_assoc, List.singleton_append]
    · rw [outcome, List.length_cons, Nat.add_right_comm, Nat.add_assoc]
  | @waited first last reply _ spawned reapers outcome seen =>
    rw [← List.cons_append]
    refine .waited ?_ ?_ ?_ (within seen)
    · simp only [spawned, List.length_cons]
      omega
    · rw [reapers, List.append_assoc, List.singleton_append]
    · rw [outcome, List.length_cons, Nat.add_right_comm, Nat.add_assoc]

variable {σ : Type} (handler : Handler σ)

/-- Giving a run up takes no deed. -/
theorem giveUp_spec (run : Run) (number : Nat) (rest : Builder) (error : LineError) (state : σ) :
    ((run.giveUp number rest error).run handler state).1 =
        { run with outcome := .failed number error } ∧
      deeds ((run.giveUp number rest error).events handler state) = [] := by
  simp [giveUp]

/-- Launching a stage takes one deed, and gives what comes of that. -/
theorem launch_spec {stage : Stage} {name : String} {arguments : List String}
    (named : stage.arguments = name :: arguments) (state : σ) :
    deeds (stage.launch.events handler state) =
        [⟨.spawn stage.command, (handler (.spawn stage.command) state).1⟩] ∧
      (stage.launch.run handler state).1 =
        match (handler (.spawn stage.command) state).1 with
        | .error cause => .error (.spawn name cause)
        | .ok process => .ok ⟨name, process, stage.keptWriter⟩ := by
  have counted (reply : Except IoError Nat) :
      deeds [⟨.spawn stage.command, reply⟩] = [⟨.spawn stage.command, reply⟩] := rfl
  rw [Stage.launch_eq named, Flow.events_ask, Flow.run_ask, deeds_cons, counted]
  -- Whatever comes of the start, the rest of launching only gives up handles.
  rcases handler (.spawn stage.command) state with ⟨cause | process, after⟩
  · exact ⟨by simp, by simp⟩
  · exact ⟨by simp, by simp⟩

/-- Attending to the last process takes no deed, and gives what comes of the wait. -/
theorem attend_last_spec (run : Run) (number : Nat) (launched : Launched) (state : σ) :
    ∃ reply, deeds ((run.attend number true launched).events handler state) = [] ∧
      ⟨.wait launched.process, reply⟩ ∈ (run.attend number true launched).events handler state ∧
      ((run.attend number true launched).run handler state).1 =
        { run with spawned := run.spawned + 1, outcome := .ofWait number reply } := by
  refine ⟨(handler (.wait launched.process) state).1, ?_, ?_, ?_⟩
  · rw [attend_last, Flow.events_ask, deeds_cons, Flow.events_bind, deeds_append, deeds_release]
    rfl
  · rw [attend_last, Flow.events_ask]
    exact List.mem_cons_self
  · rw [attend_last, Flow.run_ask, Flow.run_bind]
    rfl

/-- Attending to any other process takes no deed, and adds a reaper. -/
theorem attend_other_spec (run : Run) (number : Nat) (launched : Launched) (state : σ) :
    deeds ((run.attend number false launched).events handler state) = [] ∧
      ((run.attend number false launched).run handler state).1 =
        { run with
          spawned := run.spawned + 1
          reapers := run.reapers ++ [⟨launched.name, launched.process⟩] } := by
  rw [attend_other, Flow.events_ask, Flow.run_ask]
  exact ⟨rfl, rfl⟩

/-- The deeds of a run are the course of the stages that are left, and make it end so. -/
theorem stages_course (bound number : Nat) (builder : Builder) (run : Run) (state : σ)
    (enough : builder.readings.length < bound) (line : Reading.IsLine builder.readings) :
    ∃ started error,
      Course builder.readings builder.stdin
        (deeds ((stages bound number builder run).events handler state)) started error ∧
      Ends run number ((stages bound number builder run).events handler state) started error
        ((stages bound number builder run).run handler state).1 := by
  -- The bound exceeds the stages that are left, since finding the end takes a step of its own.
  induction bound generalizing number builder run state with
  | zero => exact absurd enough (Nat.not_lt_zero _)
  | succ bound ih =>
    cases found : builder.pending with
    | none =>
      rw [stages_of_none found, Builder.readings_eq_nil.mpr found]
      exact ⟨[], none, .finished _, .empty⟩
    | some pending =>
      obtain ⟨whole, others, split, built, left⟩ :=
        Builder.build_builds handler pending builder.tokens state
      rw [← Builder.readings_of_pending found] at split
      have source : builder.stdin = pending.stdin := by simp [Builder.stdin, found]
      rw [stages_of_pending found, split, source]
      rw [split] at enough line
      rw [Flow.events_bind, Flow.run_bind, deeds_append]
      rcases ran : (Builder.build pending builder.tokens).run handler state with
        ⟨⟨error | stage, rest⟩, after⟩
      · -- The stage could not be built.
        rw [ran] at built
        have given := giveUp_spec handler run number rest error after
        rw [given.2, List.append_nil]
        exact ⟨[], some error, .unbuilt built, given.1 ▸ .ofError ..⟩
      · rw [ran] at built left
        obtain ⟨readings, stdin⟩ := left
        have named : stage.arguments =
            whole.command.text :: whole.items.filterMap Item.argument? := by
          cases built
          rfl
        have name : stage.name = whole.command.text := by simp [Stage.name, named]
        obtain ⟨deed, result⟩ := launch_spec handler named after
        rw [← name] at result
        dsimp only
        rw [Flow.events_bind, Flow.run_bind, deeds_append, deed]
        cases reply : (handler (.spawn stage.command) after).1 with
        | error cause =>
          -- The program could not be started.
          simp only [reply] at result ⊢
          rw [result]
          have given := giveUp_spec handler run number rest (.spawn stage.name cause)
            (stage.launch.run handler after).2
          dsimp only
          rw [given.1, given.2, List.append_nil]
          exact ⟨[], _, .unstarted cause built, .ofError ..⟩
        | ok process =>
          simp only [reply] at result ⊢
          rw [result]
          dsimp only
          rw [Flow.events_bind, Flow.run_bind, deeds_append, List.singleton_append]
          have terminal : stage.terminal = decide (whole.closing = .finish) := by
            cases built
            rfl
          by_cases ended : whole.closing = .finish
          · -- The last stage is waited for, and nothing is left to build.
            have none_left : others = [] := line.eq_nil (by simp [ended])
            have empty := Builder.readings_eq_nil.mp (readings.trans none_left)
            subst none_left
            obtain ⟨status, silent, seen, attended⟩ := attend_last_spec handler run number
              ⟨stage.name, process, stage.keptWriter⟩ (stage.launch.run handler after).2
            rw [terminal, decide_eq_true ended, stages_of_none empty, silent, attended]
            refine ⟨[] ++ [_], none, .started built (.finished _), ?_⟩
            exact .waited rfl (List.append_nil _).symm rfl
              (List.mem_append_right _ (List.mem_append_right _ (List.mem_append_left _ seen)))
          · -- Any other stage gets a reaper, and the run goes on with the others.
            obtain ⟨silent, attended⟩ := attend_other_spec handler run number
              ⟨stage.name, process, stage.keptWriter⟩ (stage.launch.run handler after).2
            rw [terminal, decide_eq_false ended, silent, attended, List.nil_append]
            obtain ⟨started, error, course, ends⟩ := ih (number + 1) rest _ _
              (by rw [readings]; simpa using enough) (readings ▸ line.tail)
            rw [readings, stdin] at course
            refine ⟨_, _, .started built course, ends.cons ?_ ?_⟩
            · exact List.subset_append_of_subset_right _ (List.subset_append_of_subset_right _
                (List.subset_append_right _ _))
            · rintro rfl rfl
              -- Such a stage has another behind it, which has been started too.
              have counted := course.length_started
              exact built.ne_nil line ended (List.eq_nil_of_length_eq_zero counted.symm)

/-- The deeds of a line are the course of its stages, and make its run end so. -/
theorem ofTokens_course (tokens : List Token) (state : σ) :
    ∃ started error,
      Course (Reading.ofTokens tokens) .inherit
        (deeds ((ofTokens tokens).events handler state)) started error ∧
      Ends {} 0 ((ofTokens tokens).events handler state) started error
        ((ofTokens tokens).run handler state).1 := by
  -- The readings of the fresh builder are those of the whole line.
  have course := stages_course handler (tokens.length + 1) 0 (Builder.ofTokens tokens) {} state
  simp only [Builder.readings_ofTokens, Builder.stdin_ofTokens] at course
  exact course (Nat.lt_succ_of_le (Reading.length_ofTokens_le tokens))
    (Reading.isLine_ofTokens tokens)

end Run

end LineShell
