import LineShell.Proofs.Pipeline.Faults
import LineShell.Proofs.Search.Precedence
import LineShell.Proofs.Text.OneLine
import LineShell.Proofs.Token.Writing
import LineShell.Proofs.Waiting.Consistency
import LineShell.Proofs.Waiting.Remembering
import LineShell.Repl

/-! Diagnosing: what a failing line shows to the user. -/

namespace LineShell

open Text (IsOneLine)

namespace Token

/-- No token that can stand in a line has a line feed in it. -/
theorem isOneLine_of_writable {glued : Bool} {tokens : List Token}
    (writable : Writable glued tokens) : ∀ token ∈ tokens, IsOneLine token.text := by
  induction tokens generalizing glued with
  | nil => exact List.forall_mem_nil _
  | cons token rest ih =>
    cases token with
    | operator kind => exact List.forall_mem_cons.mpr ⟨by cases kind <;> decide, ih writable⟩
    | word text =>
      obtain ⟨word, -, others⟩ := writable
      refine List.forall_mem_cons.mpr ⟨fun feed => ?_, ih others⟩
      -- A line feed is blank, and nothing blank stands in a word.
      have solid := (isWord_of_isWritable word).solid _ feed
      cases solid

/-- So no token of a line has one, whatever is in the line. -/
theorem isOneLine_of_mem_ofLine {line : String} {code : Int} {token : Token}
    (member : token ∈ ofLine line code) : IsOneLine token.text :=
  isOneLine_of_writable (writable_ofLine line code) token member

end Token

namespace Search

variable {files : FileSystem} {directory : Location} {searchPath name : String}

/-- Why a name is refused is told on one line: by the name as it is, or by the name in quotes. -/
theorem Answers.isOneLine_message {error : LookupError} (one : IsOneLine name)
    (answers : Answers searchPath files directory name (.error error)) :
    IsOneLine error.message := by
  -- A name that is not found is quoted, which leaves no line feed in it; any other is as it was
  -- typed.
  have quoted : IsOneLine (LookupError.notFound name).message :=
    (Text.isOneLine_quoteString name).append (by decide)
  cases answers with
  | unnamed => exact quoted
  | miss => exact quoted
  | refused slash refuses =>
    cases refuses with
    | nul => exact one.about (by decide)
    | @unreadable number => exact one.about (IoError.isOneLine_message number)
    | directory => exact one.append (by decide)
    | notExecutable => exact one.append (by decide)

end Search

/-- The words for what was being done stay on one line. -/
theorem LineError.isOneLine_phase (error : LineError) : IsOneLine error.phase := by
  cases error <;> (dsimp only [LineError.phase]; decide)

/-- A start that has been refused names the first of its arguments. -/
theorem Event.eq_spawn_of_refused {event : Event} {error : LineError} {name : String}
    {arguments : List String} (refused : event.error? = some error)
    (asked : event.action? = some (.spawn (name :: arguments))) :
    ∃ command cause, event = ⟨.spawn command, .error cause⟩ ∧
      command.arguments = name :: arguments ∧ error = .spawn name cause := by
  obtain ⟨call, reply⟩ := event
  cases call with
  | spawn command =>
    have named : command.arguments = name :: arguments := by simpa [Event.action?] using asked
    cases reply with
    | ok => cases refused
    | error cause =>
      cases refused
      exact ⟨command, cause, rfl, named, by rw [named, List.headD_cons]⟩
  | _ => cases asked

/-- An event as it can be when names are looked up along a search path, what the system says about
its errors stays on one line, and pipes and waits do not fail. -/
def Event.IsOrdinary (searchPath : String) : Event → Prop
  | ⟨.lookup name, reply⟩ =>
    ∃ files directory, reply = Search.resolve searchPath files directory name
  | ⟨.openInput _, .error cause⟩ | ⟨.openOutput _, .error cause⟩ | ⟨.spawn _, .error cause⟩ =>
    IsOneLine cause.message
  | ⟨.pipe, .error _⟩ | ⟨.wait _, .error _⟩ => False
  | _ => True

/-- How the deeds for some tokens come to an error, and the words for what was being done: the last
deed has been refused, or there was none and an operator lacks its operand. -/
inductive Failing (tokens : List Token) (deeds : List Event) : LineError → String → Prop
  | lookup {name : String} {error : LookupError}
      (last : deeds.getLast? = some ⟨.lookup name, .error error⟩) :
      Failing tokens deeds (.lookup error) "Resolving binary: "
  | input {path : String} {cause : IoError}
      (last : deeds.getLast? = some ⟨.openInput path, .error cause⟩) :
      Failing tokens deeds (.redirectInput path cause) "Redirecting stdin: "
  | output {path : String} {cause : IoError}
      (last : deeds.getLast? = some ⟨.openOutput path, .error cause⟩) :
      Failing tokens deeds (.redirectOutput path cause) "Redirecting stdout: "
  | spawn {command : Command} {name : String} {arguments : List String} {cause : IoError}
      (named : command.arguments = name :: arguments)
      (last : deeds.getLast? = some ⟨.spawn command, .error cause⟩) :
      Failing tokens deeds (.spawn name cause) "Forking process: "
  | operand {operator : Operator} (granted : ∀ event ∈ deeds, event.error? = none)
      (ended : tokens.getLast? = some (.operator operator)) :
      Failing tokens deeds (.missingOperand operator) "Missing operand: "

/-- A message begins with the words for what was being done. -/
theorem Failing.message_eq {tokens : List Token} {deeds : List Event} {error : LineError}
    {phase : String} (failing : Failing tokens deeds error phase) :
    error.message = phase ++ error.detail := by
  cases failing <;> rfl

/-- A line that lacks an operand has been refused nothing. -/
theorem Course.granted_of_operand {readings : List Reading} {stdin : Source} {events : List Event}
    {started : List Reaper} {error : Option LineError}
    (course : Course readings stdin events started error) {operator : Operator}
    (lacking : error = some (.missingOperand operator)) :
    ∀ event ∈ events, event.error? = none := by
  induction course with
  | finished => cases lacking
  | started built _ ih =>
    rw [List.append_cons]
    exact List.forall_mem_append.mpr ⟨Event.granted_append built.granted rfl, ih lacking⟩
  | unstarted => cases lacking
  | unbuilt built =>
    cases lacking
    cases built with
    | dangling granted => exact granted
    | refused _ _ refused =>
      -- Nothing that is refused lacks an operand.
      unfold Event.error? at refused
      split at refused <;> cases refused

namespace Reading

variable {reading : Reading} {tokens : List Token} {deeds : List Event} {event : Event}
  {error : LineError} {searchPath : String}

/-- What goes wrong in preparing a stage is told in words of its own. -/
theorem Fails.failing (fails : reading.Fails event error) (ordinary : event.IsOrdinary searchPath)
    (last : deeds.getLast? = some event) : ∃ phase, Failing tokens deeds error phase := by
  cases fails with
  | lookup => exact ⟨_, .lookup last⟩
  | input => exact ⟨_, .input last⟩
  | output => exact ⟨_, .output last⟩
  | pipe => exact ordinary.elim

/-- It is told on one line, for the tokens of the stage stay on one line each. -/
theorem Fails.isOneLine_message (fails : reading.Fails event error)
    (ordinary : event.IsOrdinary searchPath)
    (written : ∀ token ∈ reading.tokens, IsOneLine token.text) : IsOneLine error.message := by
  have command : IsOneLine reading.command.text := written _ (by simp [Reading.tokens])
  have operand {item : Item} (told : item ∈ reading.items) (path : Token)
      (own : path ∈ item.tokens) : IsOneLine path.text :=
    written _ (by simpa [Reading.tokens] using .inr (.inl ⟨item, told, own⟩))
  -- Behind the phase comes what a name is blamed for, and the name is a token of the line.
  refine .append (LineError.isOneLine_phase _) ?_
  cases fails with
  | lookup error =>
    obtain ⟨files, directory, answer⟩ := ordinary
    have answers := Search.answers_resolve searchPath files directory reading.command.text
    rw [← answer] at answers
    exact answers.isOneLine_message command
  | @input path told cause =>
    exact (operand told path (by simp [Item.tokens])).about ordinary
  | @output path told cause =>
    exact (operand told path (by simp [Item.tokens])).about ordinary
  | pipe => exact ordinary.elim

/-- A line that breaks at a stage fails by what has been done last, or for want of an operand, and
that is told on one line. -/
theorem Breaks.failing {part : List Action} (breaks : reading.Breaks part deeds.getLast? error)
    (ordinary : ∀ event ∈ deeds, event.IsOrdinary searchPath)
    (written : ∀ token ∈ reading.tokens, IsOneLine token.text)
    (operand : ∀ operator, error = .missingOperand operator →
      reading.closing = .dangling operator → Failing tokens deeds error "Missing operand: ") :
    (∃ phase, Failing tokens deeds error phase) ∧ IsOneLine error.message := by
  cases breaks with
  | @dangling operator _ ended =>
    refine ⟨⟨_, operand operator rfl ended⟩, ?_⟩
    cases operator <;> decide
  | @refused event _ order own final refused =>
    have usual := ordinary event (List.mem_of_getLast? final)
    obtain ⟨action, asked⟩ := Event.action?_of_error? refused
    rw [asked] at own
    have planned := order.subset (List.mem_of_getLast? own)
    rw [actions, List.mem_append] at planned
    rcases planned with prepared | started
    · have fails := fails_of_refused refused asked prepared
      exact ⟨fails.failing usual final, fails.isOneLine_message usual written⟩
    · -- The program of the stage could not be started, under the name of its command.
      split at started
      · cases started
      · obtain rfl := List.mem_singleton.mp started
        obtain ⟨command, cause, rfl, named, rfl⟩ := Event.eq_spawn_of_refused refused asked
        have name : IsOneLine reading.command.text := written _ (by simp [Reading.tokens])
        exact ⟨⟨_, .spawn named final⟩, (LineError.isOneLine_phase _).append (name.about usual)⟩

end Reading

namespace Session

variable {σ : Type} (handler : Handler σ)

/-- A line that fails does so by what has been done last, or for want of an operand, and that is
told on one line. -/
theorem failing_of_failed {searchPath : String} {session : Session} {line : String} {state : σ}
    (ordinary : ∀ event ∈ (session.run line).events handler state, event.IsOrdinary searchPath)
    {stage : Nat} {error : LineError}
    (failed : ((session.run line).run handler state).1.1.outcome = .failed stage error) :
    (∃ phase, Failing (Token.ofLine line session.lastCode)
      (deeds ((session.run line).events handler state)) error phase) ∧
      IsOneLine error.message := by
  have events : (session.run line).events handler state =
      (Run.ofTokens (Token.ofLine line session.lastCode)).events handler state := by
    simp [run]
  have outcome : ((session.run line).run handler state).1.1 =
      ((Run.ofTokens (Token.ofLine line session.lastCode)).run handler state).1 := by
    simp [run]
  rw [events] at ordinary ⊢
  rw [outcome] at failed
  obtain ⟨started, ended, course, ends⟩ :=
    Run.ofTokens_course handler (Token.ofLine line session.lastCode) state
  have waits (process : Nat) (why : IoError) :
      ⟨.wait process, .error why⟩ ∉
        (Run.ofTokens (Token.ofLine line session.lastCode)).events handler state :=
    fun seen => ordinary _ seen
  obtain ⟨rfl, -⟩ := ends.of_failed failed waits
  obtain ⟨reading, part, found, -, breaks⟩ := course.broken rfl
  -- What is written in the stage is written in the line.
  have written : ∀ token ∈ reading.tokens, IsOneLine token.text := by
    intro token member
    have told : token ∈ Token.ofLine line session.lastCode := by
      rw [← Reading.flatMap_tokens_ofTokens (Token.ofLine line session.lastCode)]
      exact List.mem_flatMap.mpr ⟨reading, List.mem_of_getElem? found, member⟩
    exact Token.isOneLine_of_mem_ofLine told
  refine breaks.failing (fun event done => ordinary event (List.mem_filter.mp done).1) written ?_
  rintro operator rfl dangling
  obtain ⟨before, concluded⟩ := Reading.tokens_eq_concat found dangling
  exact .operand (course.granted_of_operand rfl) (by simp [concluded])

end Session

namespace Repl

/-- What an event shows on the standard error stream. -/
def shown? : Event → Option Bytes
  | ⟨.report data, _⟩ => some data
  | _ => none

/-- What the user is shown about the result of a line. -/
def diagnostics : Except LineError Unit → List Bytes
  | .ok () => []
  | .error error => [Utf8.ofString (error.message ++ "\n")]

/-- Of a line that is a text, nothing is shown but its result. -/
theorem filterMap_shown?_runLine {σ : Type} (handler : Handler σ) (session : Session)
    {bytes : Bytes} {line : String} (text : Utf8.toString? bytes = some line) (state : σ) :
    ((runLine session bytes).events handler state).filterMap shown? =
      diagnostics ((session.execute line).run handler state).1.1 := by
  -- While the line runs nothing is reported; what is shown comes behind it.
  have silent : ((session.execute line).events handler state).filterMap shown? = [] := by
    rw [List.filterMap_eq_nil_iff]
    intro event seen
    have aside := (Session.asks_execute session line).of_mem_events seen
    obtain ⟨call, reply⟩ := event
    cases call <;> first | rfl | cases aside
  rw [runLine, text]
  dsimp only
  rw [Flow.events_bind, List.filterMap_append, silent]
  rcases ran : (session.execute line).run handler state with ⟨⟨result, after⟩, left⟩
  cases result <;> rfl

/-- Whatever is in a line, and along whatever search path its commands are looked up: if it fails,
its error is told on one line, in words that begin with what was being done when it failed, and the
user is shown that line and no other. Of a line that was empty or has ended with an exit code,
nothing is shown. -/
theorem execute_diagnosed {σ : Type} (handler : Handler σ) {searchPath : String}
    (session : Session) (line : String) (state : σ)
    (ordinary : ∀ event ∈ (session.run line).events handler state, event.IsOrdinary searchPath) :
    let outcome := ((session.run line).run handler state).1.1.outcome
    let result := ((session.execute line).run handler state).1.1
    (∀ error, result = .error error → (∃ stage, outcome = .failed stage error) ∧
      (∃ phase, Failing (Token.ofLine line session.lastCode)
        (deeds ((session.run line).events handler state)) error phase ∧
        error.message = phase ++ error.detail) ∧ '\n' ∉ error.message.toList) ∧
    ∀ bytes, Utf8.toString? bytes = some line →
      let shown := ((runLine session bytes).events handler state).filterMap shown?
      (∀ error, result = .error error →
        ∃ report, shown = [report] ∧ Lines.Splits report [Utf8.ofString error.message] []) ∧
      ((outcome = .empty ∨ ∃ code, outcome = .exited code) → shown = []) := by
  intro outcome result
  have verdict : result = ((session.run line).run handler state).1.1.verdict := by
    simp [result, Session.execute_eq]
  -- The result is an error just if the run has failed.
  have failed (error : LineError) (wrong : result = .error error) :
      (∃ stage, outcome = .failed stage error) ∧
        (∃ phase, Failing (Token.ofLine line session.lastCode)
          (deeds ((session.run line).events handler state)) error phase) ∧
        IsOneLine error.message := by
    obtain ⟨stage, broken⟩ := Run.verdict_eq_error.mp (verdict ▸ wrong)
    exact ⟨⟨stage, broken⟩, Session.failing_of_failed handler ordinary broken⟩
  refine ⟨fun error wrong => ?_, fun bytes text => ?_⟩
  · obtain ⟨broken, ⟨phase, failing⟩, one⟩ := failed error wrong
    exact ⟨broken, ⟨phase, failing, failing.message_eq⟩, one⟩
  · dsimp only
    rw [filterMap_shown?_runLine handler session text]
    refine ⟨fun error wrong => ?_, fun ended => ?_⟩
    · obtain ⟨-, -, one⟩ := failed error wrong
      exact ⟨_, congrArg diagnostics wrong, Utf8.splits_ofString one⟩
    · have fine : result = .ok () := by
        cases told : result with
        | ok => rfl
        | error error =>
          obtain ⟨⟨stage, broken⟩, -⟩ := failed error told
          rw [broken] at ended
          rcases ended with empty | ⟨code, exited⟩
          · cases empty
          · cases exited
      exact congrArg diagnostics fine

/-- A system without any files, which refuses all but look-ups. -/
def barren (searchPath : String) : Handler Unit
  | .lookup name, _ => (Search.resolve searchPath {} [] name, ())
  | call, _ => (Machine.refuse call, ())

/-- A line feed in a line ends a word like any other blank, and a control character is shown as it
is. -/
theorem execute_diagnosed_torn :
    (∀ event ∈ (Session.run {} "./no\x01\nwhere <in").events (barren "/bin:") (),
      event.IsOrdinary "/bin:") ∧
    ∃ error, ((Session.execute {} "./no\x01\nwhere <in").run (barren "/bin:") ()).1.1 =
        .error error ∧
      error.message = "Resolving binary: ./no\x01: No such file or directory (os error 2)" ∧
      '\n' ∉ error.message.toList ∧
      ∃ report, ((runLine {} (Utf8.ofString "./no\x01\nwhere <in")).events (barren "/bin:")
          ()).filterMap shown? = [report] ∧
        Lines.Splits report [Utf8.ofString error.message] [] := by
  -- The line ends with the look-up of its first word, which is refused.
  have single : (Session.run {} "./no\x01\nwhere <in").events (barren "/bin:") () =
      [⟨.lookup "./no\x01", Search.resolve "/bin:" {} [] "./no\x01"⟩] := rfl
  have ordinary : ∀ event ∈ (Session.run {} "./no\x01\nwhere <in").events (barren "/bin:") (),
      event.IsOrdinary "/bin:" := by
    rw [single, List.forall_mem_singleton]
    exact ⟨{}, [], rfl⟩
  have wrong : ((Session.execute {} "./no\x01\nwhere <in").run (barren "/bin:") ()).1.1 =
      .error (.lookup (.unreadable "./no\x01" (.system .noEntry))) := rfl
  have told := execute_diagnosed (barren "/bin:") {} "./no\x01\nwhere <in" () ordinary
  have shown := told.2 _ (Utf8.toString?_ofString "./no\x01\nwhere <in")
  exact ⟨ordinary, _, wrong, by decide, (told.1 _ wrong).2.2, shown.1 _ wrong⟩

end Repl

end LineShell
