import LineShell.Proofs.Pipeline.Agreement
import LineShell.Proofs.Waiting.Lines

/-! Errands: lines are run and reapers are joined, at once, later or never, and what comes of it. -/

namespace LineShell

/-- What is to be done next in a session. -/
inductive Errand
  | run (line : String)
  /-- Waits for the reaper of a number, counted from the beginning of the session. -/
  | join (number : Nat)
  deriving DecidableEq, Repr, Inhabited

/-- Whether an event belongs to a line. -/
def Event.isOfLine (event : Event) : Bool :=
  !event.call.isAside

/-- The line of an errand that runs one. -/
def Errand.line? : Errand → Option String
  | .run line => some line
  | .join _ => none

/-- What comes of the errands of a session. -/
structure Record where
  /-- What came of each line, and what it left to the next. -/
  runs : List (Run × Session) := []
  /-- What the reapers of some numbers gave. -/
  joined : List (Nat × Option WaitStatus) := []
  deriving DecidableEq, Repr, Inhabited

/-- The reapers of all lines, in the order of their numbers. -/
def Record.reapers (record : Record) : List Reaper :=
  record.runs.flatMap (·.1.reapers)

/-- What a run tells apart from the numbers of its processes. -/
structure Report where
  outcome : Outcome
  spawned : Nat
  names : List String
  deriving DecidableEq, Repr, Inhabited

/-- What a run tells of itself. -/
def Run.report (run : Run) : Report :=
  ⟨run.outcome, run.spawned, run.reapers.map (·.name)⟩

namespace Session

/-- Does the errands of a session in order, with the reapers that there are. One that has no reaper
to wait for is passed over. -/
def perform : List Errand → Session → List Reaper → Flow Record
  | [], _, _ => pure {}
  | .run line :: rest, session, reapers => do
    let result ← session.run line
    let record ← perform rest result.2 (reapers ++ result.1.reapers)
    pure { record with runs := result :: record.runs }
  | .join number :: rest, session, reapers =>
    match reapers[number]? with
    | none => perform rest session reapers
    | some reaper => do
      let status ← reaper.join
      let record ← perform rest session reapers
      pure { record with joined := (number, status) :: record.joined }

/-- A line comes before the other errands. -/
theorem perform_run (line : String) (rest : List Errand) (session : Session)
    (reapers : List Reaper) :
    perform (.run line :: rest) session reapers = session.run line >>= fun result =>
      perform rest result.2 (reapers ++ result.1.reapers) >>= fun record =>
        .done { record with runs := result :: record.runs } :=
  rfl

/-- A reaper is joined before the other errands. -/
theorem perform_join {number : Nat} {reapers : List Reaper} {reaper : Reaper}
    (found : reapers[number]? = some reaper) (rest : List Errand) (session : Session) :
    perform (.join number :: rest) session reapers = .ask (.join reaper.process) fun status =>
      perform rest session reapers >>= fun record =>
        .done { record with joined := (number, status) :: record.joined } := by
  simp only [perform, found]
  rfl

/-- Without such a reaper nothing is done. -/
theorem perform_join_none {number : Nat} {reapers : List Reaper}
    (absent : reapers[number]? = none) (rest : List Errand) (session : Session) :
    perform (.join number :: rest) session reapers = perform rest session reapers := by
  simp only [perform, absent]

/-- Doing errands is a way to run lines. -/
theorem drives_perform (errands : List Errand) (session : Session) (reapers : List Reaper) :
    Drives (perform errands session reapers) := by
  -- A join is none of a line's doings, so it stands beside them.
  induction errands generalizing session reapers with
  | nil => exact .done _
  | cons errand rest ih =>
    cases errand with
    | run line => exact .run session line fun result => (ih _ _).bind fun record => .done _
    | join number =>
      cases found : reapers[number]? with
      | none =>
        rw [perform_join_none found]
        exact ih _ _
      | some reaper =>
        rw [perform_join found]
        exact .aside rfl fun status => (ih _ _).bind fun record => .done _

/-- The lines of a session, the first of which is run next, each with its own events and what came
of it. -/
inductive Lines : Session → List String → List (List Event) → List (Run × Session) → Prop
  | nil (session : Session) : Lines session [] [] []
  | cons {session next : Session} {line : String} {lines : List String} {part : List Event}
      {parts : List (List Event)} {run : Run} {runs : List (Run × Session)}
      (first : (session.run line).Unfolds part (.done (run, next)))
      (rest : Lines next lines parts runs) :
      Lines session (line :: lines) (part :: parts) ((run, next) :: runs)

variable {session : Session} {history : List Event} {record : Record}

/-- The events of a line belong to it. -/
theorem isOfLine_of_unfolds {line : String} {flow : Flow (Run × Session)}
    (unfolds : (session.run line).Unfolds history flow) :
    history.filter Event.isOfLine = history := by
  refine List.filter_eq_self.mpr fun event member => ?_
  have ofLine : event.call.isAside = false :=
    (session.asks_run line).of_unfolds unfolds event member
  simp [Event.isOfLine, ofLine]

/-- What has been handed on along some events and further ones. -/
theorem handedOn_append (first second : List Event) :
    Ledger.handedOn (first ++ second) = Ledger.handedOn first ++ Ledger.handedOn second := by
  simp [Ledger.handedOn]

/-- When all errands are done, their lines have been run one after another, and each reaper that has
been joined is one that had been handed its process before. -/
theorem exists_lines {errands : List Errand} {reapers : List Reaper}
    (unfolds : (perform errands session reapers).Unfolds history (.done record)) :
    (∃ parts, Lines session (errands.filterMap Errand.line?) parts record.runs ∧
      history.filter Event.isOfLine = parts.flatten) ∧
    ∀ number status, (number, status) ∈ record.joined →
      ∃ reaper earlier later, (reapers ++ record.reapers)[number]? = some reaper ∧
        history = earlier ++ ⟨.join reaper.process, status⟩ :: later ∧
        reaper.process ∈ reapers.map (·.process) ++ Ledger.handedOn earlier := by
  -- A reaper is found in what there is at the join, so the list of reapers grows along.
  induction errands generalizing session reapers history record with
  | nil =>
    cases unfolds
    exact ⟨⟨[], .nil session, rfl⟩, nofun⟩
  | cons errand rest ih =>
    cases errand with
    | run line =>
      rw [perform_run] at unfolds
      obtain ⟨part, others, ⟨run, next⟩, rfl, first, behind⟩ := unfolds.of_bind
      obtain ⟨others, last, record, rfl, inner, ended⟩ := behind.of_bind
      cases ended
      obtain ⟨⟨parts, lines, same⟩, joins⟩ := ih inner
      rw [List.append_nil]
      obtain ⟨_, conduct, tells, left⟩ := conduct_of_done first
      refine ⟨⟨part :: parts, .cons first lines, ?_⟩, fun number status joined => ?_⟩
      · rw [List.filter_append, isOfLine_of_unfolds first, same, List.flatten_cons]
      · -- The reapers of this line have been handed their processes by it.
        obtain ⟨reaper, earlier, later, found, rfl, handed⟩ := joins number status joined
        refine ⟨reaper, part ++ earlier, later, ?_, by simp, ?_⟩
        · rw [← found, List.append_assoc]
          rfl
        · rw [List.map_append, left.reapers, ← tells.handed] at handed
          rw [handedOn_append, ← List.append_assoc]
          exact handed
    | join number =>
      cases found : reapers[number]? with
      | none =>
        rw [perform_join_none found] at unfolds
        exact ih unfolds
      | some reaper =>
        rw [perform_join found] at unfolds
        cases unfolds with
        | @answered _ _ status others _ behind =>
          obtain ⟨others, last, record, rfl, inner, ended⟩ := behind.of_bind
          cases ended
          obtain ⟨⟨parts, lines, same⟩, joins⟩ := ih inner
          rw [List.append_nil]
          refine ⟨⟨parts, lines, same⟩, fun other result joined => ?_⟩
          -- It is the join at hand, or one that comes later.
          rcases List.mem_cons.mp joined with this | later
          · cases this
            have within := (List.getElem?_eq_some_iff.mp found).1
            refine ⟨reaper, [], others, ?_, rfl, ?_⟩
            · rw [List.getElem?_append_left within, found]
            · exact List.mem_append_left _ (List.mem_map_of_mem (List.mem_of_getElem? found))
          · obtain ⟨owner, earlier, further, at_number, rfl, handed⟩ := joins other result later
            exact ⟨owner, _ :: earlier, further, at_number, rfl, handed⟩

/-- Whether the waits for processes that have been started at the same place give the same. -/
def WaitsAgree (first second : List Event) : Prop :=
  ∀ (place process other : Nat) (reply answer : Except IoError WaitStatus),
    (first.filterMap Event.process?)[place]? = some process →
    (second.filterMap Event.process?)[place]? = some other →
    (process, reply) ∈ first.filterMap Event.waited? →
    (other, answer) ∈ second.filterMap Event.waited? → reply = answer

/-- The processes of a line that is over: those of its reapers, and then the one that has been
waited for. -/
theorem started_of_done {line : String} {run : Run} {next : Session}
    (unfolds : (session.run line).Unfolds history (.done (run, next))) :
    (history.filterMap Event.process?).length = run.spawned ∧
      ∃ waited : Option (Nat × Except IoError WaitStatus),
        history.filterMap Event.waited? = waited.toList ∧
        history.filterMap Event.process? =
          run.reapers.map (·.process) ++ (waited.map (·.1)).toList := by
  obtain ⟨_, conduct, tells, left⟩ := conduct_of_done unfolds
  have started := tells.started
  rw [left.launched, ← left.reapers] at started
  refine ⟨?_, conduct.waited, tells.waited, by simpa using started⟩
  rw [started, left.spawned, left.reapers]
  cases conduct.waited <;> simp

/-- The process that a line has waited for comes behind those of its reapers. -/
theorem place_of_waited {line : String} {run : Run} {next : Session} {process : Nat}
    {reply : Except IoError WaitStatus}
    (unfolds : (session.run line).Unfolds history (.done (run, next)))
    (seen : ⟨.wait process, reply⟩ ∈ history) :
    (history.filterMap Event.process?)[run.reapers.length]? = some process := by
  obtain ⟨-, waited, told, started⟩ := started_of_done unfolds
  have member : (process, reply) ∈ history.filterMap Event.waited? :=
    List.mem_filterMap.mpr ⟨_, seen, rfl⟩
  rw [told, Option.mem_toList] at member
  rw [started, member]
  simp

/-- What comes of a line is settled by the verdicts and by the status of its last process. -/
theorem run_determined {line : String} {others : List Event} {run alike : Run}
    {next after : Session} (first : (session.run line).Unfolds history (.done (run, next)))
    (second : (session.run line).Unfolds others (.done (alike, after)))
    (agree : Agree (verdicts (deeds history)) (verdicts (deeds others)))
    (waits : WaitsAgree history others) :
    (deeds history).length = (deeds others).length ∧ run.report = alike.report ∧ next = after := by
  have areDeeds (events : List Event) : AreDeeds (deeds events) := fun event member =>
    (List.mem_filter.mp member).2
  obtain ⟨started, error, course, ends⟩ := course_of_done first
  obtain ⟨started', error', course', ends'⟩ := course_of_done second
  obtain ⟨length, counted, rfl⟩ := course.determined course' (areDeeds _) (areDeeds _) agree
  have names := course.names.trans (counted ▸ course'.names.symm)
  have same : run.report = alike.report := by
    cases ends with
    | empty =>
      cases ends' with
      | empty => rfl
      | waited => simp at counted
    | failed spawned reapers outcome =>
      cases ends' with
      | failed spawned' reapers' outcome' =>
        simp only [Run.report, spawned, spawned', reapers, reapers', outcome, outcome', counted,
          List.nil_append, names]
    | @waited firsts last reply _ spawned reapers outcome seen =>
      cases ends' with
      | empty => simp at counted
      | @waited firsts' last' reply' _ spawned' reapers' outcome' seen' =>
        -- Both have waited for a process at the same place, so both have got the same.
        obtain rfl : run.reapers = firsts := reapers.trans (List.nil_append _)
        obtain rfl : alike.reapers = firsts' := reapers'.trans (List.nil_append _)
        have lengths : run.reapers.length = alike.reapers.length := by simpa using counted
        have replies : reply = reply' := waits _ _ _ _ _ (place_of_waited first seen)
          (lengths ▸ place_of_waited second seen') (List.mem_filterMap.mpr ⟨_, seen, rfl⟩)
          (List.mem_filterMap.mpr ⟨_, seen', rfl⟩)
        rw [List.map_append, List.map_append] at names
        simp only [Run.report, spawned, spawned', outcome, outcome', lengths, replies,
          (List.append_inj' names rfl).1]
  refine ⟨length, same, ?_⟩
  rw [(conduct_of_done first).1, (conduct_of_done second).1]
  exact congrArg session.after (congrArg Report.outcome same)

/-- Waits that agree do so in their first parts. -/
theorem WaitsAgree.left {part other rest others : List Event}
    (agree : WaitsAgree (part ++ rest) (other ++ others)) : WaitsAgree part other := by
  simp only [WaitsAgree, List.filterMap_append] at agree
  intro place process another reply answer found there waited waitedThere
  have within := (List.getElem?_eq_some_iff.mp found).1
  have inside := (List.getElem?_eq_some_iff.mp there).1
  exact agree place process another reply answer (by rwa [List.getElem?_append_left within])
    (by rwa [List.getElem?_append_left inside]) (List.mem_append_left _ waited)
    (List.mem_append_left _ waitedThere)

/-- Behind parts in which as many processes are started, the waits agree as well. -/
theorem WaitsAgree.right {part other rest others : List Event}
    (agree : WaitsAgree (part ++ rest) (other ++ others))
    (same : (part.filterMap Event.process?).length = (other.filterMap Event.process?).length) :
    WaitsAgree rest others := by
  simp only [WaitsAgree, List.filterMap_append] at agree
  intro place process another reply answer found there waited waitedThere
  refine agree ((part.filterMap Event.process?).length + place) process another reply answer
    ?_ ?_ (List.mem_append_right _ waited) (List.mem_append_right _ waitedThere)
  · rwa [List.getElem?_append_right (Nat.le_add_right ..), Nat.add_sub_cancel_left]
  · rwa [same, List.getElem?_append_right (Nat.le_add_right ..), Nat.add_sub_cancel_left]

/-- What comes of lines is settled by the verdicts and by the statuses of their last processes. -/
theorem Lines.determined {lines : List String} {parts others : List (List Event)}
    {runs alike : List (Run × Session)} (first : Lines session lines parts runs)
    (second : Lines session lines others alike)
    (agree : Agree (verdicts (deeds parts.flatten)) (verdicts (deeds others.flatten)))
    (waits : WaitsAgree parts.flatten others.flatten) :
    runs.map (fun result => (result.1.report, result.2)) =
      alike.map fun result => (result.1.report, result.2) := by
  induction first generalizing others alike with
  | nil =>
    cases second
    rfl
  | @cons session next line lines part parts run runs own rest ih =>
    cases second with
    | @cons _ next' _ _ other others run' alike own' rest' =>
      rw [List.flatten_cons, List.flatten_cons] at waits agree
      rw [deeds_append, deeds_append, verdicts_append, verdicts_append] at agree
      obtain ⟨length, same, rfl⟩ := run_determined own own'
        (agree.mono (List.prefix_append ..) (List.prefix_append ..)) waits.left
      -- The first lines have the same report, so they have started as many processes.
      have counted : (part.filterMap Event.process?).length =
          (other.filterMap Event.process?).length :=
        (started_of_done own).1.trans
          ((congrArg Report.spawned same).trans (started_of_done own').1.symm)
      rw [List.map_cons, List.map_cons, same,
        ih rest' (agree.right (by simp [verdicts, length])) (waits.right counted)]

/-- The places at which the processes of reapers have been started, counted from the beginning of
the session. -/
def places : List Report → List Nat
  | [] => []
  | report :: rest =>
    List.range report.names.length ++ (places rest).map (report.spawned + ·)

/-- Every reaper has the process of its own place. -/
theorem Lines.process_of_reaper {lines : List String} {parts : List (List Event)}
    {runs : List (Run × Session)} (all : Lines session lines parts runs) {number : Nat}
    {reaper : Reaper} (found : (runs.flatMap (·.1.reapers))[number]? = some reaper) :
    ∃ place, (places (runs.map (·.1.report)))[number]? = some place ∧
      (parts.flatten.filterMap Event.process?)[place]? = some reaper.process := by
  induction all generalizing number with
  | nil => cases found
  | @cons session next line lines part parts run runs own rest ih =>
    obtain ⟨length, waited, _, started⟩ := started_of_done own
    rw [List.flatMap_cons] at found
    rw [List.flatten_cons, List.filterMap_append, List.map_cons, places]
    have names : run.report.names.length = run.reapers.length := List.length_map _
    rcases Nat.lt_or_ge number run.reapers.length with within | beyond
    · -- The reapers of the first line have its first processes.
      rw [List.getElem?_append_left within] at found
      refine ⟨number, ?_, ?_⟩
      · rw [names, List.getElem?_append_left (by simpa using within), List.getElem?_range within]
      rw [started, List.append_assoc, List.getElem?_append_left (by simpa using within)]
      simp [found]
    · rw [List.getElem?_append_right beyond] at found
      obtain ⟨place, at_number, process⟩ := ih found
      refine ⟨run.spawned + place, ?_, ?_⟩
      · rw [names, List.getElem?_append_right (by simpa using beyond), List.length_range,
          List.getElem?_map, at_number]
        rfl
      · rw [← length, List.getElem?_append_right (Nat.le_add_right ..), Nat.add_sub_cancel_left,
          process]

end Session

end LineShell
