import LineShell.Proofs.Text.Decimal
import LineShell.Proofs.Waiting.Consistency
import LineShell.Proofs.Waiting.Errands

/-! Remembering: the last exit code that a session knows, along any lines that it is given. -/

namespace LineShell

namespace WaitStatus

/-- A process ended by itself if nothing is left in the part of its status that tells of signals. -/
theorem exitCode_eq (status : WaitStatus) :
    status.exitCode =
      if status.raw &&& 0x7F = 0 then (((status.raw >>> 8) &&& 0xFF).toNat : Int) else -1 := by
  -- The part that tells of signals is compared as a word here and as a number there.
  have zero : status.signalPart = 0 ↔ status.raw &&& 0x7F = 0 :=
    ⟨fun none_left => UInt32.toNat_inj.mp none_left, congrArg UInt32.toNat⟩
  by_cases ended : status.raw &&& 0x7F = 0 <;> simp [exitCode, code?, zero, ended]

/-- The code of a process takes eight bits. -/
theorem code_le (raw : UInt32) : ((raw >>> 8) &&& 0xFF).toNat ≤ 255 := by
  rw [UInt32.toNat_and]
  exact Nat.and_le_right

/-- A process that ended by itself has a code, and any other is told by a number that is none. -/
theorem exitCode_spec (status : WaitStatus) :
    -1 ≤ status.exitCode ∧ status.exitCode ≤ 255 ∧
      (status.exitCode = -1 ↔ status.raw &&& 0x7F ≠ 0) := by
  have small := code_le status.raw
  rw [exitCode_eq]
  by_cases ended : status.raw &&& 0x7F = 0
  · rw [if_pos ended]
    simp only [ended, ne_eq, not_true_eq_false, iff_false]
    omega
  · rw [if_neg ended]
    simp [ended]

end WaitStatus

/-- The code of a line that has run to its end. -/
def Outcome.code? : Outcome → Option Int
  | .exited code => some code
  | .empty | .failed .. => none

/-- What is told of a run to whoever does not wait for its reapers: the error, if any. -/
def Run.verdict (run : Run) : Except LineError Unit :=
  match run.outcome with
  | .failed _ error => .error error
  | .empty | .exited _ => .ok ()

/-- The error is that of the failure, and there is none without one. -/
theorem Run.verdict_eq_error {run : Run} {error : LineError} :
    run.verdict = .error error ↔ ∃ stage, run.outcome = .failed stage error := by
  unfold verdict
  cases run.outcome <;> simp

/-- What a session is given: a line to run, or one of which only the error is asked for. -/
inductive Entry
  | run (line : String)
  | execute (line : String)
  deriving DecidableEq, Repr, Inhabited

/-- What a session gives back. -/
inductive Answer
  | ran (run : Run)
  | executed (result : Except LineError Unit)

namespace Entry

/-- The line of an entry. -/
def line : Entry → String
  | .run line | .execute line => line

/-- What is told of the run of an entry. -/
def answer : Entry → Run → Answer
  | .run _, result => .ran result
  | .execute _, result => .executed result.verdict

end Entry

namespace Session

/-- Takes one entry. -/
def enter (session : Session) : Entry → Flow (Answer × Session)
  | .run line => do
    let (run, next) ← session.run line
    pure (.ran run, next)
  | .execute line => do
    let (result, next) ← session.execute line
    pure (.executed result, next)

/-- Takes entries one after another, and gives for each what is told of it and the session that it
leaves. -/
def enterAll : List Entry → Session → Flow (List (Answer × Session))
  | [], _ => pure []
  | entry :: rest, session => do
    let answer ← session.enter entry
    let answers ← enterAll rest answer.2
    pure (answer :: answers)

/-- A line that is executed is run, and only what is told of it differs. -/
theorem execute_eq (session : Session) (line : String) :
    session.execute line =
      session.run line >>= fun result => .done (result.1.verdict, result.2) := by
  rw [execute]
  refine congrArg (session.run line >>= ·) (funext fun result => ?_)
  obtain ⟨run, next⟩ := result
  cases ended : run.outcome <;> simp [Run.verdict, ended]

/-- Every entry runs its line. -/
theorem enter_eq (session : Session) (entry : Entry) :
    session.enter entry =
      session.run entry.line >>= fun result => .done (entry.answer result.1, result.2) := by
  cases entry with
  | run line => rfl
  | execute line =>
    rw [enter, execute_eq, bind_assoc]
    rfl

variable {session : Session}

/-- Entries run their lines one after another. -/
theorem exists_lines_of_enterAll {entries : List Entry} {history : List Event}
    {answers : List (Answer × Session)}
    (unfolds : (enterAll entries session).Unfolds history (.done answers)) :
    ∃ parts runs, Lines session (entries.map Entry.line) parts runs ∧ history = parts.flatten ∧
      answers = List.zipWith (fun entry result => (entry.answer result.1, result.2)) entries
        runs := by
  -- Each entry is the run of a line, with something told of it that asks for nothing more.
  induction entries generalizing session history answers with
  | nil =>
    cases unfolds
    exact ⟨[], [], .nil session, rfl, rfl⟩
  | cons entry rest ih =>
    rw [enterAll, enter_eq, bind_assoc] at unfolds
    obtain ⟨part, behind, ⟨run, next⟩, rfl, first, unfolds⟩ := unfolds.of_bind
    rw [Flow.done_bind] at unfolds
    obtain ⟨later, last, others, rfl, inner, ended⟩ := unfolds.of_bind
    cases ended
    obtain ⟨parts, runs, lines, rfl, rfl⟩ := ih inner
    exact ⟨part :: parts, (run, next) :: runs, .cons first lines, by simp, rfl⟩

/-- The code of a line is that of its last process, which is the only one that is waited for. -/
theorem exited_of_done {line : String} {history : List Event} {run : Run} {next : Session}
    {code : Int} (unfolds : (session.run line).Unfolds history (.done (run, next)))
    (exited : run.outcome = .exited code) :
    run.spawned = (session.readings line).length ∧ ∃ process status,
      history.filterMap Event.process? = run.reapers.map (·.process) ++ [process] ∧
      history.filterMap Event.waited? = [(process, .ok status)] ∧ code = status.exitCode := by
  -- Only a wait gives a line its code, and a line waits for one process, behind all others.
  obtain ⟨started, error, course, ends⟩ := course_of_done unfolds
  obtain ⟨-, whole, process, number, reply, seen, outcome⟩ := ends.waits course
    (by simp [exited]) (by simp [exited])
  obtain ⟨-, waited, told, processes⟩ := started_of_done unfolds
  have member : (process, reply) ∈ history.filterMap Event.waited? :=
    List.mem_filterMap.mpr ⟨_, seen, rfl⟩
  rw [told, Option.mem_toList] at member
  subst member
  cases reply with
  | error cause => cases exited.symm.trans outcome
  | ok status =>
    exact ⟨whole, process, status, processes, told,
      Outcome.exited.inj (exited.symm.trans outcome)⟩

/-- The sessions before each of some lines, and the one behind them. -/
abbrev sessions (session : Session) (runs : List (Run × Session)) : List Session :=
  session :: runs.map (·.2)

/-- Each line is run by the session that the lines before have left. -/
theorem Lines.exists_unfolds {lines : List String} {parts : List (List Event)}
    {runs : List (Run × Session)} (known : Lines session lines parts runs) {place : Nat}
    {result : Run × Session} (found : runs[place]? = some result) :
    ∃ before line part, (sessions session runs)[place]? = some before ∧
      lines[place]? = some line ∧ parts[place]? = some part ∧
      (before.run line).Unfolds part (.done result) := by
  induction known generalizing place with
  | nil => cases found
  | @cons session next line lines part parts run runs first rest ih =>
    cases place with
    | zero =>
      cases found
      exact ⟨session, line, part, rfl, rfl, rfl, first⟩
    | succ place => exact ih found

/-- The codes of those lines that have run to their end. -/
def codes (runs : List (Run × Session)) : List Int :=
  runs.filterMap (·.1.outcome.code?)

/-- One more line comes before the others. -/
theorem codes_cons (result : Run × Session) (runs : List (Run × Session)) :
    codes (result :: runs) = result.1.outcome.code?.toList ++ codes runs := by
  unfold codes
  cases ended : result.1.outcome.code? <;> simp [ended]

/-- A line that has run to its end leaves its code, and any other the code that was known before. -/
theorem lastCode_after (session : Session) (outcome : Outcome) :
    (session.after outcome).lastCode = outcome.code?.getD session.lastCode := by
  cases outcome <;> rfl

/-- After a line a session knows the code of the last line that has run to its end. -/
theorem Lines.lastCode_eq {lines : List String} {parts : List (List Event)}
    {runs : List (Run × Session)} (known : Lines session lines parts runs) {place : Nat}
    {after : Session} (found : (sessions session runs)[place]? = some after) :
    after.lastCode = (codes (runs.take place)).getLastD session.lastCode := by
  induction known generalizing place with
  | nil =>
    cases place with
    | zero =>
      cases found
      rfl
    | succ place => cases found
  | @cons session next line lines part parts run runs first rest ih =>
    cases place with
    | zero =>
      cases found
      rfl
    | succ place =>
      -- The code of the first line counts until another line has run to its end.
      rw [ih found, (conduct_of_done first).1, lastCode_after, List.take_succ_cons, codes_cons]
      cases run.outcome.code? with
      | none => rfl
      | some code => exact (List.getLastD_cons ..).symm

/-- The codes of lines are those of processes. -/
theorem Lines.exists_status {lines : List String} {parts : List (List Event)}
    {runs : List (Run × Session)} (known : Lines session lines parts runs) {code : Int}
    (member : code ∈ codes runs) : ∃ status : WaitStatus, code = status.exitCode := by
  obtain ⟨⟨run, next⟩, ran, told⟩ := List.mem_filterMap.mp member
  obtain ⟨place, found⟩ := List.mem_iff_getElem?.mp ran
  obtain ⟨before, line, part, -, -, -, unfolds⟩ := known.exists_unfolds found
  have exited : run.outcome = .exited code := by
    cases ended : run.outcome <;> simp_all [Outcome.code?]
  obtain ⟨-, process, status, -, -, same⟩ := exited_of_done unfolds exited
  exact ⟨status, same⟩

/-- Lines ask for nothing but what their stages ask for. -/
theorem Lines.isAside_eq {lines : List String} {parts : List (List Event)}
    {runs : List (Run × Session)} (known : Lines session lines parts runs) :
    ∀ part ∈ parts, ∀ event ∈ part, event.call.isAside = false := by
  induction known with
  | nil => exact List.forall_mem_nil _
  | cons first _ ih =>
    exact List.forall_mem_cons.mpr ⟨(asks_run _ _).of_unfolds first, ih⟩

/-- What a session knows along some lines, with what has been done for each and what has come of
it. -/
structure Remembers (session : Session) (lines : List String) (parts : List (List Event))
    (runs : List (Run × Session)) : Prop where
  /-- After any number of lines the code is that of the last one that has run to its end. -/
  last : ∀ (place : Nat) (after : Session), (sessions session runs)[place]? = some after →
    after.lastCode = (codes (runs.take place)).getLastD session.lastCode
  /-- A code takes eight bits, and one more number stands for having none. -/
  range : ∀ after ∈ sessions session runs, -1 ≤ after.lastCode ∧ after.lastCode ≤ 255
  /-- A line is run with the code that the lines before have left. It has a code if it has started
  all of its stages and has waited for the last of their processes, and the code tells with which
  status that has ended. -/
  exited : ∀ (place : Nat) (run : Run) (next : Session) (code : Int),
    runs[place]? = some (run, next) → run.outcome = .exited code →
    ∃ (before : Session) (line : String) (part : List Event) (process : Nat)
      (status : WaitStatus), (sessions session runs)[place]? = some before ∧
      lines[place]? = some line ∧ parts[place]? = some part ∧
      run.spawned = (before.readings line).length ∧
      part.filterMap Event.process? = run.reapers.map (·.process) ++ [process] ∧
      part.filterMap Event.waited? = [(process, .ok status)] ∧
      code = status.exitCode ∧ (code = -1 ↔ status.raw &&& 0x7F ≠ 0)
  /-- No line is told with which status any other process has ended. -/
  unjoined : ∀ part ∈ parts, ∀ event ∈ part, ∀ process, event.call ≠ .join process

/-- Whatever lines are run, a session knows the code of the last one that has run to its end. -/
theorem Lines.remembers {lines : List String} {parts : List (List Event)}
    {runs : List (Run × Session)} (known : Lines session lines parts runs)
    (start : -1 ≤ session.lastCode ∧ session.lastCode ≤ 255) :
    Remembers session lines parts runs where
  last place after found := known.lastCode_eq found
  range := by
    intro after member
    obtain ⟨place, found⟩ := List.mem_iff_getElem?.mp member
    rw [known.lastCode_eq found]
    -- It is the code at the beginning, or the code of some line.
    have known_before : (codes (runs.take place)).getLastD session.lastCode ∈
        session.lastCode :: codes (runs.take place) := List.getLastD_mem_cons
    rcases List.mem_cons.mp known_before with same | told
    · rwa [same]
    · have within : codes (runs.take place) ⊆ codes runs :=
        ((List.take_prefix place runs).filterMap _).subset
      obtain ⟨status, same⟩ := known.exists_status (within told)
      rw [same]
      exact ⟨status.exitCode_spec.1, status.exitCode_spec.2.1⟩
  exited place run next code found exited := by
    obtain ⟨before, line, part, began, told, own, unfolds⟩ := known.exists_unfolds found
    obtain ⟨whole, process, status, started, waited, rfl⟩ := exited_of_done unfolds exited
    exact ⟨before, line, part, process, status, began, told, own, whole, started, waited, rfl,
      status.exitCode_spec.2.2⟩
  unjoined := by
    intro part inner event member process same
    have ofLine := known.isAside_eq part inner event member
    rw [same] at ofLine
    cases ofLine

/-- How a code comes into the line that is typed next: in the place of each word that stands for it,
as a word that reads back as the code. -/
structure Expands (line : String) (code : Int) : Prop where
  /-- Only the words that stand for the code are replaced. -/
  tokens : Token.ofLine line code = (Token.scan line).map fun token =>
    if token = .word Token.lastCode then .word (Text.decimal code) else token
  /-- None of them is left. -/
  gone : .word Token.lastCode ∉ Token.ofLine line code
  /-- What comes in their place is a word, and no operator. -/
  word : Token.ofWord (Text.decimal code).toList = [.word (Text.decimal code)]
  unlike : ∀ operator : Operator, Text.decimal code ≠ operator.text
  /-- It reads back as the code. -/
  read : Text.integer? (Text.decimal code).toList = some code

/-- Any code comes into any line. -/
theorem expands (line : String) (code : Int) : Expands line code where
  tokens := by
    refine congrArg (List.map · _) (funext fun token => ?_)
    -- The word is replaced wherever it stands, and operators are left alone.
    cases token with
    | word text => by_cases same : text = Token.lastCode <;> simp [Token.expand, same]
    | operator kind => rfl
  gone := by
    intro member
    -- A decimal number is never the word that stands for it.
    obtain ⟨token, _, same⟩ := List.mem_map.mp member
    cases token with
    | word text =>
      simp only [Token.expand, Token.word.injEq] at same
      split at same
      · exact Text.decimal_ne_lastCode code same
      · contradiction
    | operator kind => cases same
  word := by rw [Text.decimal, String.toList_ofList, Token.ofWord_decimalDigits]; rfl
  unlike := Text.decimal_ne_text code
  read := by rw [Text.decimal, String.toList_ofList, Text.integer?_decimalDigits]

end Session

end LineShell
