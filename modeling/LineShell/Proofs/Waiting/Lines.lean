import LineShell.Proofs.Pipeline.Order
import LineShell.Proofs.Waiting.Conduct

/-! Lines: who waits for the processes of a line, stage by stage, at every moment. -/

namespace LineShell

/-- Every stage of a line but the last leads to a pipe, and the last one does not. -/
theorem Reading.IsLine.of_concat {front : List Reading} {last : Reading}
    (line : IsLine (front ++ [last])) :
    (∀ reading ∈ front, reading.closing = .pipe) ∧ last.closing ≠ .pipe := by
  induction front with
  | nil => exact ⟨nofun, line⟩
  | cons reading rest ih =>
    obtain ⟨others, ended⟩ := ih line.tail
    refine ⟨List.forall_mem_cons.mpr ⟨?_, others⟩, ended⟩
    cases rest with
    | nil => exact line.1
    | cons => exact line.1

/-- A stage of a line that is not the last leads to a pipe. -/
theorem Reading.IsLine.piped {readings : List Reading} (line : IsLine readings) {index : Nat}
    (inner : index + 1 < readings.length) :
    ∃ reading, readings[index]? = some reading ∧ reading.closing = .pipe := by
  obtain rfl | ⟨front, last, rfl⟩ := List.eq_nil_or_concat readings
  · cases inner
  · rw [List.concat_eq_append] at line inner ⊢
    have inside : index < front.length := by simpa using inner
    exact ⟨front[index], List.getElem?_append_left inside ▸ List.getElem?_eq_getElem inside,
      line.of_concat.1 _ (List.getElem_mem _)⟩

/-- The last stage of a line leads to no pipe. -/
theorem Reading.IsLine.closing_last {readings : List Reading} (line : IsLine readings)
    {index : Nat} {reading : Reading} (found : readings[index]? = some reading)
    (last : readings.length = index + 1) : reading.closing ≠ .pipe := by
  obtain rfl | ⟨front, final, rfl⟩ := List.eq_nil_or_concat readings
  · cases last
  · rw [List.concat_eq_append] at line last found
    obtain rfl : front.length = index := by simpa using last
    obtain rfl : final = reading := by simpa using found
    exact line.of_concat.2

/-- The processes of a line have the names of its first stages. -/
theorem Course.names {readings : List Reading} {stdin : Source} {events : List Event}
    {started : List Reaper} {error : Option LineError}
    (course : Course readings stdin events started error) :
    started.map (·.name) = (readings.take started.length).map (·.command.text) := by
  induction course with
  | finished | unstarted | unbuilt => rfl
  | started built _ ih =>
    simp only [List.map_cons, List.length_cons, List.take_succ_cons, ih, Stage.name,
      built.arguments_eq]
    rfl

/-- How a run goes with the stages of its line: it has reapers for stages that lead to a pipe, and
an outcome that tells of a wait when that was for the last stage of all. -/
structure Run.Fits (run : Run) (readings : List Reading) : Prop where
  piped : ∀ index < run.reapers.length,
    ∃ reading, readings[index]? = some reading ∧ reading.closing = .pipe
  names : run.reapers.map (·.name) =
    (readings.take run.reapers.length).map (·.command.text)
  last : ∀ number reply, run.outcome = .ofWait number reply →
    ∃ reading, readings[run.reapers.length]? = some reading ∧ reading.closing = .finish ∧
      readings.length = run.reapers.length + 1

/-- A run that has come to its end goes with the stages of its line. -/
theorem Run.Ends.fits {readings : List Reading} {events deeds : List Event}
    {started : List Reaper} {error : Option LineError} {run : Run}
    (ends : Ends {} 0 events started error run)
    (course : Course readings .inherit deeds started error) (line : Reading.IsLine readings) :
    run.Fits readings := by
  have names := course.names
  -- With an error there is a stage that has not been started, and without one the last process is
  -- the one that is waited for.
  cases ends with
  | empty => exact ⟨nofun, rfl, fun _ reply => by cases reply <;> exact fun absent => nomatch absent⟩
  | @failed _ error _ spawned reapers outcome =>
    obtain rfl : run.reapers = started := reapers.trans (List.nil_append _)
    obtain ⟨reading, part, found, _, breaks⟩ := course.broken rfl
    have inside := (List.getElem?_eq_some_iff.mp found).1
    refine ⟨fun index within => line.piped (Nat.lt_of_le_of_lt within inside), names, ?_⟩
    rintro number (cause | status) told
    · rw [outcome] at told
      cases told
      exact absurd rfl (breaks.ne_wait cause)
    · rw [outcome] at told
      cases told
  | @waited first last reply _ spawned reapers outcome seen =>
    obtain rfl : run.reapers = first := reapers.trans (List.nil_append _)
    have length : readings.length = run.reapers.length + 1 := by
      simpa using course.length_started.symm
    refine ⟨fun index within => line.piped (by omega), ?_, fun number reply told => ?_⟩
    · have shorter := congrArg (List.take run.reapers.length) names
      simpa [← List.map_take, List.take_take] using shorter
    · have inside : run.reapers.length < readings.length := by omega
      have closed := course.started_eq.2 readings[run.reapers.length]
        (List.mem_take_iff_getElem.mpr ⟨run.reapers.length, Nat.lt_min.mpr ⟨by simp, inside⟩, rfl⟩)
      have unpiped := line.closing_last (List.getElem?_eq_getElem inside) length
      refine ⟨_, List.getElem?_eq_getElem inside, ?_, length⟩
      cases closing : readings[run.reapers.length].closing with
      | finish => rfl
      | pipe => exact absurd closing unpiped
      | dangling => simp [Reading.isDangling, closing] at closed

namespace Conduct

variable {α : Type} {conduct last : Conduct}

/-- What a line does next about its processes: one that has been started is waited for or handed on
before anything else, and behind the wait nothing is left to be done. -/
structure Pursues (conduct : Conduct) (flow : Flow α) : Prop where
  launched : ∀ process, conduct.launched = some process →
    flow.upcoming? = some (.wait process) ∨ ∃ keeps, flow.upcoming? = some (.reap process keeps)
  unlaunched : conduct.launched = none → ∀ process, flow.upcoming? ≠ some (.wait process)
  waited : conduct.waited ≠ none → flow.upcoming? = none

/-- A line that keeps to its conduct pursues it. -/
theorem pursues {post : Conduct → α → Prop} {flow : Flow α} (keeps : flow.Keeps Step post conduct)
    (leaves : ∀ left result, post left result → left.launched = none) : conduct.Pursues flow := by
  -- There must be a step for every answer, so a refusal shows which requests are possible.
  induction flow with
  | done result =>
    have none_left := leaves _ _ keeps
    exact ⟨fun _ some => (nomatch none_left.symm.trans some), fun _ _ => nofun, fun _ => rfl⟩
  | ask call next ih =>
    obtain ⟨after, step, keeps⟩ := keeps (Machine.refuse call)
    generalize Machine.refuse call = reply at step keeps
    cases step with
    | closed =>
      have further := ih _ keeps
      exact ⟨further.launched, further.unlaunched, further.waited⟩
    | quiet going _ await =>
      have further := ih _ keeps
      refine ⟨fun _ some => (nomatch going.1.symm.trans some), fun free => ?_,
        fun given => absurd going.2 given⟩
      intro process same
      cases call with
      | wait | reap => cases await
      | close => exact further.unlaunched free process same
      | _ => cases same
    | started => exact ⟨nofun, fun _ _ same => (by cases same), fun given => absurd rfl given⟩
    | handed =>
      exact ⟨by rintro process ⟨⟩; exact .inr ⟨_, rfl⟩, nofun, fun given => absurd rfl given⟩
    | waited => exact ⟨by rintro process ⟨⟩; exact .inl rfl, nofun, fun given => absurd rfl given⟩

/-- What a line does next is a step of its conduct, whatever it is answered. -/
theorem advance {post : Conduct → α → Prop} {flow : Flow α} (keeps : flow.Keeps Step post conduct)
    {call : Call} (upcoming : flow.upcoming? = some call) (reply : call.Reply) :
    ∃ events middle after, flow.Unfolds events middle ∧ Step conduct ⟨call, reply⟩ after ∧
      middle.Keeps Step post after := by
  induction flow with
  | done result => cases upcoming
  | ask other next ih =>
    -- Giving up a handle leaves the conduct as it is, and anything else is what comes next.
    have here (same : other = call) : ∃ events middle after,
        (Flow.ask other next).Unfolds events middle ∧ Step conduct ⟨call, reply⟩ after ∧
          middle.Keeps Step post after := by
      subst same
      obtain ⟨after, step, keeps⟩ := keeps reply
      exact ⟨_, _, after, .answered (.refl _), step, keeps⟩
    cases other with
    | close handle =>
      obtain ⟨same, closed, kept⟩ := keeps ()
      obtain rfl : same = conduct := by cases closed <;> rfl
      obtain ⟨events, middle, after, unfolds, step, others⟩ := ih () kept upcoming
      exact ⟨_, middle, after, .answered unfolds, step, others⟩
    | _ => exact here (Option.some.inj upcoming)

/-- Behind the wait a conduct does not change any more. -/
theorem eq_of_waited {events : List Event} (leads : Flow.Leads Step conduct events last)
    (waited : conduct.waited ≠ none) : last = conduct := by
  induction leads with
  | refl => rfl
  | append _ taken ih =>
    subst ih
    cases taken with
    | closed | quiet => rfl
    | _ => exact absurd rfl waited

/-- What has been handed on stays so. -/
theorem isPrefix_of_leads {events : List Event} (leads : Flow.Leads Step conduct events last) :
    conduct.handed <+: last.handed := by
  induction leads with
  | refl => exact List.prefix_rfl
  | append _ taken ih =>
    refine ih.trans ?_
    cases taken with
    | handed => exact List.prefix_append _ _
    | _ => exact List.prefix_rfl

end Conduct

namespace Session

variable {session : Session} {line : String} {history : List Event}
  {flow : Flow (Run × Session)}

/-- The stages of a line that is run. -/
abbrev readings (session : Session) (line : String) : List Reading :=
  Reading.ofTokens (Token.ofLine line session.lastCode)

/-- A line that has come to its end has taken the course of its stages. -/
theorem course_of_done {run : Run} {next : Session}
    (unfolds : (session.run line).Unfolds history (.done (run, next))) :
    ∃ started error, Course (session.readings line) .inherit (deeds history) started error ∧
      Run.Ends {} 0 history started error run := by
  obtain ⟨returned, same⟩ := unfolds.replayed
  obtain ⟨started, error, course, ends⟩ := Run.ofTokens_course Handler.replay
    (Token.ofLine line session.lastCode) history
  -- What the stages of the line become is the first part of the result.
  rw [Session.run, Flow.run_bind] at returned
  have result : ((Run.ofTokens (Token.ofLine line session.lastCode)).run Handler.replay
      history).1 = run :=
    congrArg Prod.fst returned
  rw [Session.run, Flow.events_bind] at same
  have events : (Run.ofTokens (Token.ofLine line session.lastCode)).events Handler.replay history =
      history :=
    (List.append_nil _).symm.trans same
  rw [events] at course ends
  rw [result] at ends
  exact ⟨started, error, course, ends⟩

/-- A line that has come to its end has kept to its conduct. -/
theorem conduct_of_done {run : Run} {next : Session}
    (unfolds : (session.run line).Unfolds history (.done (run, next))) :
    next = session.after run.outcome ∧
      ∃ conduct : Conduct, conduct.Tells history ∧ conduct.Left run := by
  obtain ⟨conduct, leads, left, after⟩ := unfolds.keeps (Conduct.keeps_run session line)
  exact ⟨after, conduct, Conduct.tells_of_leads leads, left⟩

/-- A line that has come to its end goes with its stages. -/
theorem fits_of_done {run : Run} {next : Session}
    (unfolds : (session.run line).Unfolds history (.done (run, next))) :
    run.Fits (session.readings line) := by
  obtain ⟨started, error, course, ends⟩ := course_of_done unfolds
  exact ends.fits course (Reading.isLine_ofTokens _)

/-- How far a line has come with its processes goes with its stages. -/
theorem fits_of_unfolds {conduct : Conduct} (unfolds : (session.run line).Unfolds history flow)
    (keeps : flow.Keeps Conduct.Step (fun left result => left.Left result.1 ∧
      result.2 = session.after result.1.outcome) conduct) :
    (∀ index < conduct.handed.length,
      ∃ reading, (session.readings line)[index]? = some reading ∧ reading.closing = .pipe) ∧
    ∀ process reply, conduct.waited = some (process, reply) →
      ∃ reading, (session.readings line)[conduct.handed.length]? = some reading ∧
        reading.closing = .finish ∧
        (session.readings line).length = conduct.handed.length + 1 := by
  -- Whatever follows, the line comes to an end of which that is known.
  have rest := Flow.unfolds_events Handler.replay flow []
  obtain ⟨last, leads, left, _⟩ := rest.keeps keeps
  have fits := fits_of_done (unfolds.trans rest)
  have handed := congrArg List.length left.reapers
  rw [List.length_map] at handed
  constructor
  · intro index within
    exact fits.piped index
      (handed ▸ Nat.lt_of_lt_of_le within (Conduct.isPrefix_of_leads leads).length_le)
  · intro process reply waited
    obtain rfl := Conduct.eq_of_waited leads (by simp [waited])
    obtain ⟨number, outcome⟩ := left.waited process reply waited
    exact handed ▸ fits.last number reply outcome

/-- Who waits for the processes that a line has started so far: they are told in order, those with
a reaper first. -/
structure Attends (readings : List Reading) (history : List Event)
    (flow : Flow (Run × Session)) : Prop where
  /-- The stages whose processes have been handed to reapers lead to pipes. -/
  piped : ∀ index < (Ledger.handedOn history).length,
    ∃ reading, readings[index]? = some reading ∧ reading.closing = .pipe
  /-- At most one process has no reaper. It is that of the next stage, and it is handed on next if
  that leads to a pipe. The process of the last stage is waited for instead, once. -/
  other : history.filterMap Event.process? = Ledger.handedOn history ∧
      history.filterMap Event.waited? = [] ∨
    ∃ process reading,
      history.filterMap Event.process? = Ledger.handedOn history ++ [process] ∧
      readings[(Ledger.handedOn history).length]? = some reading ∧
      (reading.closing = .pipe ∧ history.filterMap Event.waited? = [] ∧
          (∃ keeps, flow.upcoming? = some (.reap process keeps)) ∨
        reading.closing = .finish ∧
          (history.filterMap Event.waited? = [] ∧ flow.upcoming? = some (.wait process) ∨
            (∃ reply, history.filterMap Event.waited? = [(process, reply)]) ∧
              flow.upcoming? = none))
  /-- When the line is over it has one reaper for each process that has been handed on, in order and
  under the name of its stage. -/
  reapers : ∀ run next, flow = .done (run, next) →
    run.reapers.map (·.process) = Ledger.handedOn history ∧
    run.reapers.map (·.name) = (readings.take run.reapers.length).map (·.command.text) ∧
    run.spawned = (history.filterMap Event.process?).length

/-- At every moment of a line its processes are attended to, each by its own kind of owner. -/
theorem attends_of_unfolds (unfolds : (session.run line).Unfolds history flow) :
    Attends (session.readings line) history flow := by
  obtain ⟨conduct, leads, keeps⟩ := unfolds.keeps (Conduct.keeps_run session line)
  have tells := Conduct.tells_of_leads leads
  have pursues := Conduct.pursues keeps fun left result post => post.1.launched
  obtain ⟨piped, last⟩ := fits_of_unfolds unfolds keeps
  rw [← tells.handed] at piped last
  refine ⟨piped, ?_, fun run next reached => ?_⟩
  case refine_2 =>
    subst reached
    obtain ⟨_, conduct, tells, left⟩ := conduct_of_done unfolds
    refine ⟨left.reapers.trans tells.handed.symm, (fits_of_done unfolds).names, ?_⟩
    rw [left.spawned, tells.started, left.launched]
    cases conduct.waited <;> simp
  rw [tells.started, tells.waited, ← tells.handed]
  obtain ⟨handed, launched, waited⟩ := conduct
  cases waited with
  | some given =>
    obtain ⟨process, reply⟩ := given
    have silent := pursues.waited nofun
    cases launched with
    | some other =>
      -- A process that is waited for comes next, and nothing does.
      rcases pursues.launched other rfl with next | ⟨_, next⟩ <;> cases silent.symm.trans next
    | none =>
      obtain ⟨reading, found, finish, _⟩ := last process reply rfl
      exact .inr ⟨process, reading, by simp, found, .inr ⟨finish, .inr ⟨⟨reply, rfl⟩, silent⟩⟩⟩
  | none =>
    cases launched with
    | none => exact .inl ⟨by simp, rfl⟩
    | some process =>
      right
      rcases pursues.launched process rfl with next | ⟨given, next⟩
      · -- The wait comes next, and after it the stage is known to be the last.
        obtain ⟨events, middle, after, further, step, keeps⟩ :=
          Conduct.advance keeps next (.error .writeZero)
        cases step with
        | quiet going => cases going.1
        | waited =>
          obtain ⟨reading, found, finish, _⟩ :=
            (fits_of_unfolds (unfolds.trans further) keeps).2 _ _ rfl
          rw [← tells.handed] at found
          exact ⟨process, reading, by simp, found, .inr ⟨finish, .inl ⟨rfl, next⟩⟩⟩
      · -- The hand-over comes next, and after it the stage is known to lead to a pipe.
        obtain ⟨events, middle, after, further, step, keeps⟩ := Conduct.advance keeps next ()
        cases step with
        | quiet going => cases going.1
        | handed =>
          obtain ⟨reading, found, piped⟩ :=
            (fits_of_unfolds (unfolds.trans further) keeps).1 handed.length (by simp)
          exact ⟨process, reading, by simp, tells.handed ▸ found, .inl ⟨piped, rfl, given, next⟩⟩

end Session

end LineShell
