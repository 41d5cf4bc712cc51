import LineShell.Pipeline.Plan
import LineShell.Proofs.Flow.Keeping
import LineShell.Session

/-! Ledgers: which handles a line has to hold and which it has to give up, request by request. -/

namespace LineShell

/-- How far the interpreter has come with a stage, by the handles that it holds for it. -/
inductive Phase
  /-- Between two stages, the next of which has something to read from, or between two lines. -/
  | idle (next : Option Handle)
  | building (stdin stdout : Option Handle)
  /-- Built, with a pipe that leads to the next stage. -/
  | piped (stdin : Option Handle) (reader writer : Handle)
  /-- Started, but not yet waited for or handed on. -/
  | launched (process : Nat) (keeps next : Option Handle)
  deriving DecidableEq, Repr, Inhabited

/-- All that the interpreter holds for a line. -/
structure Ledger where
  phase : Phase := .idle none
  /-- What has to be given up before anything else is done. -/
  stray : List Handle := []
  deriving DecidableEq, Repr, Inhabited

namespace Phase

/-- The handles that are held in a phase. -/
def handles : Phase → List Handle
  | .idle next => next.toList
  | .building stdin stdout => stdin.toList ++ stdout.toList
  | .piped stdin reader writer => stdin.toList ++ [writer, reader]
  | .launched _ keeps next => keeps.toList ++ next.toList

/-- Whether a stage can begin that has the given handle to read from. A stage that holds nothing
can be given up without a request. -/
def Awaits (source : Option Handle) : Phase → Prop
  | .idle next => next = source
  | .building none none => source = none
  | .building .. | .piped .. | .launched .. => False

/-- A stage begins between two stages, or in place of one that holds nothing. -/
theorem cases_of_awaits {phase : Phase} {source : Option Handle} (awaits : phase.Awaits source) :
    phase = .idle source ∨ phase = .building none none ∧ source = none := by
  unfold Phase.Awaits at awaits
  split at awaits
  · exact .inl (congrArg Phase.idle awaits)
  · exact .inr ⟨rfl, awaits⟩
  all_goals exact awaits.elim

/-- What a stage can begin with is all that is held. -/
theorem handles_of_awaits {phase : Phase} {source : Option Handle}
    (awaits : phase.Awaits source) : phase.handles = source.toList := by
  rcases cases_of_awaits awaits with rfl | ⟨rfl, rfl⟩
  · rfl
  · rfl

end Phase

namespace Ledger

/-- All handles of a ledger. -/
def handles (ledger : Ledger) : List Handle :=
  ledger.phase.handles ++ ledger.stray

/-- Whether no line is being dealt with. -/
def Rests (ledger : Ledger) : Prop :=
  ledger.stray = [] ∧ ledger.phase.Awaits none

/-- What becomes of a ledger by an event. -/
inductive Step : Ledger → Event → Ledger → Prop
  | found {phase : Phase} {source : Option Handle} {name program : String}
      (awaits : phase.Awaits source) :
      Step ⟨phase, []⟩ ⟨.lookup name, .ok program⟩ ⟨.building source none, []⟩
  | unfound {phase : Phase} {source : Option Handle} {name : String} {error : LookupError}
      (awaits : phase.Awaits source) :
      Step ⟨phase, []⟩ ⟨.lookup name, .error error⟩ ⟨.idle none, source.toList⟩
  | input {stdin stdout : Option Handle} {path : String} {handle : Handle} :
      Step ⟨.building stdin stdout, []⟩ ⟨.openInput path, .ok handle⟩
        ⟨.building (some handle) stdout, stdin.toList⟩
  | output {stdin stdout : Option Handle} {path : String} {handle : Handle} :
      Step ⟨.building stdin stdout, []⟩ ⟨.openOutput path, .ok handle⟩
        ⟨.building stdin (some handle), stdout.toList⟩
  | pipe {stdin stdout : Option Handle} {reader writer : Handle} :
      Step ⟨.building stdin stdout, []⟩ ⟨.pipe, .ok (reader, writer)⟩
        ⟨.piped stdin reader writer, stdout.toList⟩
  /-- A stage for which anything is refused is given up. -/
  | refused {stdin stdout : Option Handle} {event : Event} {error : LineError}
      (refused : event.error? = some error) (known : event.name? = none) :
      Step ⟨.building stdin stdout, []⟩ event ⟨.idle none, stdin.toList ++ stdout.toList⟩
  /-- A stage at which its line ends is given up when there is something to give up. -/
  | abandoned {stdin stdout : Option Handle} {handle : Handle} {rest : List Handle}
      (split : stdin.toList ++ stdout.toList = handle :: rest) :
      Step ⟨.building stdin stdout, []⟩ ⟨.close handle, ()⟩ ⟨.idle none, rest⟩
  | last {stdin stdout : Option Handle} {command : Command} {process : Nat}
      (input : command.stdin = stdin) (output : command.stdout = stdout) :
      Step ⟨.building stdin stdout, []⟩ ⟨.spawn command, .ok process⟩
        ⟨.launched process none none, stdin.toList ++ stdout.toList⟩
  | started {stdin : Option Handle} {reader writer : Handle} {command : Command} {process : Nat}
      (input : command.stdin = stdin) (output : command.stdout = some writer) :
      Step ⟨.piped stdin reader writer, []⟩ ⟨.spawn command, .ok process⟩
        ⟨.launched process (some writer) (some reader), (stdin.toList ++ [writer]).erase writer⟩
  /-- With a stage that could not be started, the next one is given up. -/
  | unstarted {stdin : Option Handle} {reader writer : Handle} {command : Command}
      {cause : IoError} : Step ⟨.piped stdin reader writer, []⟩ ⟨.spawn command, .error cause⟩
        ⟨.idle none, stdin.toList ++ [writer, reader]⟩
  | reaped {process : Nat} {reader writer : Handle} :
      Step ⟨.launched process (some writer) (some reader), []⟩ ⟨.reap process (some writer), ()⟩
        ⟨.idle (some reader), []⟩
  | waited {process : Nat} {reply : Except IoError WaitStatus} :
      Step ⟨.launched process none none, []⟩ ⟨.wait process, reply⟩ ⟨.idle none, []⟩
  | closed {phase : Phase} {handle : Handle} {rest : List Handle} :
      Step ⟨phase, handle :: rest⟩ ⟨.close handle, ()⟩ ⟨phase, rest⟩
  | aside {phase : Phase} {event : Event} (awaits : phase.Awaits none)
      (aside : event.call.isAside = true) : Step ⟨phase, []⟩ event ⟨phase, []⟩

/-- Whether a flow keeps to a ledger, whatever it is answered, and leaves what it should. -/
abbrev Keeps {α : Type} (post : Ledger → α → Prop) : Ledger → Flow α → Prop :=
  Flow.Keeps Step post

variable {α : Type}

/-- The first of what is stray is given up, in order, and then the rest is left. -/
theorem keeps_release {post : Ledger → α → Prop} {phase : Phase} {next : Unit → Flow α}
    (handles rest : List Handle) (left : Keeps post ⟨phase, rest⟩ (next ())) :
    Keeps post ⟨phase, handles ++ rest⟩ (Flow.release handles >>= next) := by
  -- Each handle is one request, and its answer is always the same.
  induction handles with
  | nil => exact left
  | cons handle others ih => exact fun _ => ⟨_, .closed, ih⟩

/-- All that is stray is given up. -/
theorem keeps_release_all {post : Ledger → α → Prop} {phase : Phase} {next : Unit → Flow α}
    (handles : List Handle) (left : Keeps post ⟨phase, []⟩ (next ())) :
    Keeps post ⟨phase, handles⟩ (Flow.release handles >>= next) := by
  have released := keeps_release handles [] left
  rwa [List.append_nil] at released

/-- What a stage at which its line ends has held is given up in order. -/
theorem keeps_abandon {post : Ledger → α → Prop} {stdin stdout : Option Handle}
    {next : Unit → Flow α} (left : ∀ ledger : Ledger, ledger.Rests → Keeps post ledger (next ())) :
    Keeps post ⟨.building stdin stdout, []⟩
      (Flow.release (stdin.toList ++ stdout.toList) >>= next) := by
  -- With nothing to give up there is no request by which the ledger could notice the end, so the
  -- phase stays as it is.
  cases held : stdin.toList ++ stdout.toList with
  | nil =>
    obtain ⟨rfl, rfl⟩ : stdin = none ∧ stdout = none := by simpa using held
    exact left _ ⟨rfl, rfl⟩
  | cons handle rest =>
    exact fun _ => ⟨_, .abandoned held, keeps_release_all rest (left _ ⟨rfl, rfl⟩)⟩

end Ledger

/-- What a step of a builder leaves of a ledger: nothing after an error, and otherwise what its
stage needs. A line goes on behind a pipe only, with fewer tokens. -/
inductive Builder.Ready (bound : Nat) : Ledger → Builder.Step → Prop
  | failed {ledger : Ledger} {error : LineError} {rest : Builder} (rests : ledger.Rests)
      (ended : rest.pending = none) : Ready bound ledger (.error error, rest)
  | last {stage : Stage} {rest : Builder} (named : stage.arguments ≠ [])
      (quiet : stage.stderr = .inherit) (terminal : stage.terminal = true)
      (unpiped : stage.stdout.pipe? = none) (ended : rest.pending = none) :
      Ready bound ⟨.building stage.stdin.handle? stage.stdout.handle?, []⟩ (.ok stage, rest)
  | piped {stage : Stage} {rest : Builder} {command : Token} {reader writer : Handle}
      (named : stage.arguments ≠ []) (quiet : stage.stderr = .inherit)
      (terminal : stage.terminal = false) (output : stage.stdout = .pipe writer)
      (goes_on : rest.pending = some ⟨command, .pipe reader⟩)
      (shorter : rest.tokens.length < bound) :
      Ready bound ⟨.piped stage.stdin.handle? reader writer, []⟩ (.ok stage, rest)

namespace Builder

open Ledger (Keeps)

/-- The handles of a stage without an error stream of its own. -/
theorem handles_of_quiet {stage : Stage} (quiet : stage.stderr = .inherit) :
    stage.handles = stage.stdin.handle?.toList ++ stage.stdout.handle?.toList := by
  simp [Stage.handles, quiet, Sink.handle?]

/-- Completing a stage keeps to the ledger. -/
theorem keeps_complete (stage : Stage) (tokens : List Token) {bound : Nat}
    (enough : tokens.length ≤ bound) (named : stage.arguments ≠ [])
    (quiet : stage.stderr = .inherit) (unpiped : stage.stdout.pipe? = none)
    (unended : stage.terminal = false) :
    Keeps (Ready bound) ⟨.building stage.stdin.handle? stage.stdout.handle?, []⟩
      (complete stage tokens) := by
  -- Token by token, the phase names the two handles of the stage so far.
  induction stage, tokens using complete.induct with
  | case1 stage =>
    exact @Ready.last bound { stage with terminal := true } _ named quiet rfl unpiped rfl
  | case2 stage word rest ih =>
    rw [complete]
    exact ih (Nat.le_of_succ_le enough) (by simp [Stage.withArgument]) quiet unpiped unended
  | case3 stage operator =>
    -- The line ends behind an operator, and what has been opened is given up.
    rw [complete, fail, handles_of_quiet quiet]
    exact Ledger.keeps_abandon fun ledger rests => .failed rests rfl
  | case4 stage path rest ih =>
    -- The file takes the place of what the stage would have read, which becomes stray.
    rw [complete_input, handles_of_quiet quiet]
    rintro (cause | handle)
    · exact ⟨_, .refused rfl rfl, Ledger.keeps_release_all _ (.failed ⟨rfl, rfl⟩ rfl)⟩
    · exact ⟨_, .input, Ledger.keeps_release_all _
        (ih handle (Nat.le_of_succ_le (Nat.le_of_succ_le enough)) named quiet unpiped unended)⟩
  | case5 stage path rest ih =>
    -- As before, for what the stage would have written.
    rw [complete_output, handles_of_quiet quiet]
    rintro (cause | handle)
    · exact ⟨_, .refused rfl rfl, Ledger.keeps_release_all _ (.failed ⟨rfl, rfl⟩ rfl)⟩
    · exact ⟨_, .output, Ledger.keeps_release_all _
        (ih handle (Nat.le_of_succ_le (Nat.le_of_succ_le enough)) named quiet rfl unended)⟩
  | case6 stage command rest =>
    -- A file that was to be written gives way to the pipe.
    rw [complete_pipe, handles_of_quiet quiet]
    rintro (cause | ⟨reader, writer⟩)
    · exact ⟨_, .refused rfl rfl, Ledger.keeps_release_all _ (.failed ⟨rfl, rfl⟩ rfl)⟩
    · refine ⟨_, .pipe, Ledger.keeps_release_all _ ?_⟩
      exact @Ready.piped bound { stage with stdout := .pipe writer } _ command reader writer named
        quiet unended rfl rfl (Nat.lt_of_succ_le (Nat.le_of_succ_le enough))

/-- Building a stage keeps to the ledger. -/
theorem keeps_build (pending : Pending) (tokens : List Token) {phase : Phase}
    (awaits : phase.Awaits pending.stdin.handle?) {bound : Nat} (enough : tokens.length ≤ bound) :
    Keeps (Ready bound) ⟨phase, []⟩ (build pending tokens) := by
  rw [build_eq]
  -- Whatever the answer, the stage now answers for what it has to read from.
  rintro (error | program)
  · exact ⟨_, .unfound awaits, Ledger.keeps_release_all _ (.failed ⟨rfl, rfl⟩ rfl)⟩
  · exact ⟨_, .found awaits, keeps_complete
      { program, arguments := [pending.command.text], stdin := pending.stdin } tokens enough
      (List.cons_ne_nil _ _) rfl rfl rfl⟩

end Builder

namespace Run

open Ledger (Keeps)

/-- Only the other stages of a line have anything to give up when one fails. -/
theorem giveUp_of_none {rest : Builder} (ended : rest.pending = none) (run : Run) (number : Nat)
    (error : LineError) :
    run.giveUp number rest error = .done { run with outcome := .failed number error } := by
  simp [giveUp, Builder.handles, ended, Flow.release]

/-- The next stage of a line gives up the pipe that it would have read from. -/
theorem giveUp_of_pipe {rest : Builder} {command : Token} {reader : Handle}
    (goes_on : rest.pending = some ⟨command, .pipe reader⟩) (run : Run) (number : Nat)
    (error : LineError) :
    run.giveUp number rest error = Flow.release [reader] >>= fun _ =>
      .done { run with outcome := .failed number error } := by
  simp [giveUp, Builder.handles, goes_on, Source.handle?]

/-- A stage whose output is no pipe keeps no end of one. -/
theorem keptWriter_of_last {stage : Stage} (quiet : stage.stderr = .inherit)
    (unpiped : stage.stdout.pipe? = none) : stage.keptWriter = none := by
  rw [Stage.keptWriter, quiet, unpiped]
  rfl

/-- A stage whose output is a pipe keeps the end that it writes. -/
theorem keptWriter_of_piped {stage : Stage} {writer : Handle} (quiet : stage.stderr = .inherit)
    (output : stage.stdout = .pipe writer) : stage.keptWriter = some writer := by
  rw [Stage.keptWriter, quiet, output]
  rfl

/-- What a line does with a stage that has been built. -/
def further (run : Run) (bound number : Nat) (stage : Stage) (rest : Builder) : Flow Run :=
  stage.launch >>= fun
    | .error error => run.giveUp number rest error
    | .ok launched => run.attend number stage.terminal launched >>= stages bound (number + 1) rest

/-- Starting the last stage and waiting for it leaves nothing. -/
theorem keeps_last (run : Run) (bound number : Nat) {stage : Stage} {rest : Builder}
    (named : stage.arguments ≠ []) (quiet : stage.stderr = .inherit)
    (terminal : stage.terminal = true) (unpiped : stage.stdout.pipe? = none)
    (ended : rest.pending = none) :
    Keeps (fun left _ => left.Rests) ⟨.building stage.stdin.handle? stage.stdout.handle?, []⟩
      (run.further bound number stage rest) := by
  obtain ⟨name, others, named⟩ := List.exists_cons_of_ne_nil named
  rw [further, Stage.launch_eq named, keptWriter_of_last quiet unpiped, terminal,
    Flow.ask_bind]
  rintro (cause | process)
  · -- Not started: the stage gives up both its handles, and there is no further one.
    refine ⟨_, .refused rfl rfl, ?_⟩
    dsimp only
    rw [Builder.handles_of_quiet quiet, bind_assoc]
    refine Ledger.keeps_release_all _ ?_
    simp only [Flow.done_bind, giveUp_of_none ended]
    exact ⟨rfl, rfl⟩
  · -- Started: no end of a pipe is kept, so both handles are given up before the wait.
    refine ⟨_, .last rfl rfl, ?_⟩
    have released : stage.released =
        stage.stdin.handle?.toList ++ stage.stdout.handle?.toList := by
      rw [← Builder.handles_of_quiet quiet, Stage.released, keptWriter_of_last quiet unpiped]
      rfl
    dsimp only
    rw [released, bind_assoc]
    refine Ledger.keeps_release_all _ ?_
    simp only [Flow.done_bind, attend_last, Flow.ask_bind, bind_assoc]
    refine fun reply => ⟨_, .waited, ?_⟩
    refine Ledger.keeps_release_all [] ?_
    rw [stages_of_none ended]
    exact ⟨rfl, rfl⟩

/-- Starting a stage before a pipe and handing it on leaves the pipe to the next stage. -/
theorem keeps_piped (run : Run) (bound number : Nat) {stage : Stage} {rest : Builder}
    {command : Token} {reader writer : Handle} (named : stage.arguments ≠ [])
    (quiet : stage.stderr = .inherit) (terminal : stage.terminal = false)
    (output : stage.stdout = .pipe writer) (goes_on : rest.pending = some ⟨command, .pipe reader⟩)
    (others : ∀ run, Keeps (fun left _ => left.Rests) ⟨.idle (some reader), []⟩
      (stages bound (number + 1) rest run)) :
    Keeps (fun left _ => left.Rests) ⟨.piped stage.stdin.handle? reader writer, []⟩
      (run.further bound number stage rest) := by
  obtain ⟨name, arguments, named⟩ := List.exists_cons_of_ne_nil named
  have handle : stage.stdout.handle? = some writer := by rw [output]; rfl
  have handles : stage.handles = stage.stdin.handle?.toList ++ [writer] := by
    rw [Builder.handles_of_quiet quiet, handle]
    rfl
  rw [further, Stage.launch_eq named, keptWriter_of_piped quiet output, terminal,
    Flow.ask_bind]
  rintro (cause | process)
  · -- Not started: the stage gives up its own handles first, and then the next stage what it would
    -- have read from.
    refine ⟨_, .unstarted, ?_⟩
    dsimp only
    rw [handles, bind_assoc, List.append_cons]
    refine Ledger.keeps_release _ [reader] ?_
    simp only [Flow.done_bind, giveUp_of_pipe goes_on]
    exact Ledger.keeps_release_all [reader] ⟨rfl, rfl⟩
  · -- Started: all but the end that is kept is given up, and that goes to the reaper.
    refine ⟨_, .started rfl handle, ?_⟩
    have released : stage.released = (stage.stdin.handle?.toList ++ [writer]).erase writer := by
      rw [← handles, Stage.released, keptWriter_of_piped quiet output]
      rfl
    dsimp only
    rw [released, bind_assoc]
    refine Ledger.keeps_release_all _ ?_
    simp only [Flow.done_bind, attend_other, Flow.ask_bind]
    exact fun reply => ⟨_, .reaped, others _⟩

/-- The ledger with which a line goes on: the next stage has its source, if there is one. -/
def Resumes (builder : Builder) (ledger : Ledger) : Prop :=
  ledger.stray = [] ∧ ledger.phase.Awaits (builder.pending.bind (·.stdin.handle?))

/-- Running the stages of a line keeps to the ledger and leaves nothing. -/
theorem keeps_stages (bound number : Nat) (builder : Builder) (run : Run)
    (enough : builder.pending = none ∨ builder.tokens.length < bound) {ledger : Ledger}
    (resumes : Resumes builder ledger) :
    Keeps (fun left _ => left.Rests) ledger (stages bound number builder run) := by
  -- The bound is as large as the tokens that are left, so it never cuts a line short.
  induction bound generalizing number builder run ledger with
  | zero =>
    have ended : builder.pending = none := enough.resolve_right (Nat.not_lt_zero _)
    rw [Resumes, ended] at resumes
    rw [stages_of_none ended]
    exact resumes
  | succ bound ih =>
    cases found : builder.pending with
    | none =>
      rw [Resumes, found] at resumes
      rw [stages_of_none found]
      exact resumes
    | some pending =>
      obtain ⟨phase, stray⟩ := ledger
      obtain ⟨rfl, awaits⟩ := resumes
      rw [found] at awaits
      have shorter : builder.tokens.length ≤ bound := by
        rcases enough with ended | enough
        · simp [found] at ended
        · exact Nat.le_of_lt_succ enough
      rw [stages_of_pending found]
      refine Flow.keeps_bind.mpr ?_
      have building := Builder.keeps_build pending builder.tokens awaits shorter
      refine building.mono fun left step ready => ?_
      -- What a step leaves tells which of the three ways the line takes.
      cases ready with
      | failed rests ended =>
        dsimp only
        rw [giveUp_of_none ended]
        exact rests
      | last named quiet terminal unpiped ended =>
        exact keeps_last run bound number named quiet terminal unpiped ended
      | @piped stage rest command reader writer named quiet terminal output goes_on shorter =>
        refine keeps_piped run bound number named quiet terminal output goes_on fun run => ?_
        refine ih (number + 1) rest run (.inr shorter) ⟨rfl, ?_⟩
        rw [goes_on]
        rfl

/-- Running a line keeps to the ledger and leaves nothing. -/
theorem keeps_ofTokens (tokens : List Token) {ledger : Ledger} (rests : ledger.Rests) :
    Keeps (fun left _ => left.Rests) ledger (ofTokens tokens) := by
  -- One token is the first command, so the others are fewer than the steps.
  cases tokens with
  | nil => exact keeps_stages _ 0 _ {} (.inl rfl) rests
  | cons command rest =>
    exact keeps_stages _ 0 _ {} (.inr (Nat.lt_succ_of_lt (Nat.lt_succ_self _))) rests

end Run

/-- Whoever runs lines keeps to the ledger and leaves nothing. -/
theorem Session.Drives.keeps {α : Type} {flow : Flow α} (drives : Session.Drives flow)
    {ledger : Ledger} (rests : ledger.Rests) : ledger.Keeps (fun left _ => left.Rests) flow := by
  -- Between lines the ledger rests, so the next line can begin as the first one did.
  induction drives generalizing ledger with
  | done result => exact rests
  | aside aside rest ih =>
    obtain ⟨phase, stray⟩ := ledger
    obtain ⟨rfl, awaits⟩ := rests
    exact fun reply => ⟨_, .aside awaits aside, ih reply ⟨rfl, awaits⟩⟩
  | run session line rest ih =>
    rw [Session.run, bind_assoc]
    exact Flow.keeps_bind.mpr <|
      (Run.keeps_ofTokens _ rests).mono fun left result rests => ih _ rests

end LineShell
