import LineShell.Machine.Serve
import LineShell.Proofs.Pipeline.Stages
import Mathlib.Data.List.Forall2

/-! Likeness: lines that are built among the same files come to the same, but for their handles. -/

namespace LineShell

variable {φ σ : Type}

/-- What the building of a line sees of the files: which program a command name stands for, and what
becomes of a file that is opened for reading or for writing. -/
structure Storage (φ : Type) where
  find : φ → String → Except LookupError String
  read : φ → String → Except IoError Unit × φ
  write : φ → String → Except IoError Unit × φ

/-- Whether a handler answers by some files, whatever handles it gives: it finds and opens what the
files tell, and it always has a pipe. -/
structure Handler.Shows (handler : Handler σ) (storage : Storage φ) (files : σ → φ) : Prop where
  lookup : ∀ name state, (handler (.lookup name) state).1 = storage.find (files state) name ∧
    files (handler (.lookup name) state).2 = files state
  openInput : ∀ path state,
    ((handler (.openInput path) state).1.map fun _ => ()) = (storage.read (files state) path).1 ∧
      files (handler (.openInput path) state).2 = (storage.read (files state) path).2
  openOutput : ∀ path state,
    ((handler (.openOutput path) state).1.map fun _ => ()) = (storage.write (files state) path).1 ∧
      files (handler (.openOutput path) state).2 = (storage.write (files state) path).2
  pipe : ∀ state, (∃ ends, (handler .pipe state).1 = .ok ends) ∧
    files (handler .pipe state).2 = files state
  close : ∀ handle state, files (handler (.close handle) state).2 = files state

namespace Storage

/-- Answers by some files, and numbers the handles that it gives. -/
def handler (storage : Storage φ) : Handler (φ × Nat)
  | .lookup name, (files, count) => (storage.find files name, files, count)
  | .openInput path, (files, count) =>
    ((storage.read files path).1.map fun _ => .file count, (storage.read files path).2, count + 1)
  | .openOutput path, (files, count) =>
    ((storage.write files path).1.map fun _ => .file count, (storage.write files path).2, count + 1)
  | .pipe, (files, count) => (.ok (.reader count, .writer count), files, count + 1)
  | call, state => (Machine.refuse call, state)

/-- Whatever the files are, there is a handler that answers by them. -/
theorem shows_handler (storage : Storage φ) : storage.handler.Shows storage Prod.fst where
  lookup _ _ := ⟨rfl, rfl⟩
  openInput path state := by
    refine ⟨?_, rfl⟩
    simp only [handler]
    cases (storage.read state.1 path).1 <;> rfl
  openOutput path state := by
    refine ⟨?_, rfl⟩
    simp only [handler]
    cases (storage.write state.1 path).1 <;> rfl
  pipe _ := ⟨⟨_, rfl⟩, rfl⟩
  close _ _ := rfl

/-- What comes of opening a file in a directory, at some time. -/
def opened (directory : Location) (now : Int) (manner : Manner) (files : FileSystem)
    (path : String) : Except IoError Unit × FileSystem :=
  if Search.holds path '\x00' then (.error .nulInPath, files)
  else match files.openPath directory path manner Machine.heldMode now with
    | .error number => (.error (.system number), files)
    | .ok (_, files) => (.ok (), files)

/-- The files that are seen from a directory, at some time, with what finds the programs. -/
def ofDirectory (resolver : Resolver) (directory : Location) (now : Int) : Storage FileSystem where
  find files name := resolver files directory name
  read := opened directory now .reading
  write := opened directory now .replacing

end Storage

/-- Whether a source is another one but for its handle, with a given one in the place of what is
inherited. -/
inductive Source.Like (fed : Source) : Source → Source → Prop
  | inherited : Like fed .inherit fed
  | file (path : String) (one other : Handle) : Like fed (.file path one) (.file path other)
  | pipe (one other : Handle) : Like fed (.pipe one) (.pipe other)

/-- Whether a sink is another one but for its handle. -/
inductive Sink.Like : Sink → Sink → Prop
  | inherited : Like .inherit .inherit
  | file (path : String) (one other : Handle) : Like (.file path one) (.file path other)
  | pipe (one other : Handle) : Like (.pipe one) (.pipe other)

/-- Whether a stage is another one but for its handles, with a given source in the place of what the
one inherits. -/
structure Stage.Like (fed : Source) (one other : Stage) : Prop where
  program : one.program = other.program
  arguments : one.arguments = other.arguments
  stdin : Source.Like fed one.stdin other.stdin
  stdout : one.stdout.Like other.stdout
  stderr : one.stderr = other.stderr
  terminal : one.terminal = other.terminal

/-- Whether an event is another one but for the handles that are given. -/
inductive Event.Like : Event → Event → Prop
  | same (event : Event) : Like event event
  | input (path : String) (one other : Handle) :
      Like ⟨.openInput path, .ok one⟩ ⟨.openInput path, .ok other⟩
  | output (path : String) (one other : Handle) :
      Like ⟨.openOutput path, .ok one⟩ ⟨.openOutput path, .ok other⟩
  | pipe (one other : Handle × Handle) : Like ⟨.pipe, .ok one⟩ ⟨.pipe, .ok other⟩

/-- The same names are looked up by events that are alike. -/
theorem Event.Like.names {first second : List Event} (alike : List.Forall₂ Event.Like first second) :
    first.filterMap Event.name? = second.filterMap Event.name? := by
  induction alike with
  | nil => rfl
  | cons like _ ih =>
    cases like with
    | same event => rw [List.filterMap_cons, List.filterMap_cons, ih]
    | input | output | pipe => simpa [List.filterMap_cons, Event.name?] using ih

namespace Builder

/-- Whether a step gives what another one gives, but for handles. -/
inductive StepLike (fed : Source) : Except LineError Stage → Except LineError Stage → Prop
  | stage {one other : Stage} (like : one.Like fed other) : StepLike fed (.ok one) (.ok other)
  | error (error : LineError) : StepLike fed (.error error) (.error error)

/-- Whether what is left of a line is what is left of another one, but for the handle that the next
stage reads from. -/
inductive Like (fed : Source) : Builder → Builder → Prop
  | finished (tokens : List Token) : Like fed ⟨tokens, none⟩ ⟨tokens, none⟩
  | pending (tokens : List Token) (command : Token) {one other : Source}
      (like : Source.Like fed one other) :
      Like fed ⟨tokens, some ⟨command, one⟩⟩ ⟨tokens, some ⟨command, other⟩⟩

/-- How two steps that are made among the same files come to the same: with the events of each. -/
structure Meets (fed : Source) (files : σ → φ) (first second : Step × σ)
    (events others : List Event) : Prop where
  step : StepLike fed first.1.1 second.1.1
  /-- Only the first stage can inherit what it reads. -/
  rest : Like .inherit first.1.2 second.1.2
  files : files first.2 = files second.2
  deeds : List.Forall₂ Event.Like (deeds events) (deeds others)

/-- Whether steps give what other steps give, but for handles; the first of them may have been given
something else to read. -/
inductive StepsLike (fed : Source) :
    List (Except LineError Stage) → List (Except LineError Stage) → Prop
  | nil : StepsLike fed [] []
  | cons {one other : Except LineError Stage} {steps others : List (Except LineError Stage)}
      (first : StepLike fed one other) (rest : List.Forall₂ (StepLike .inherit) steps others) :
      StepsLike fed (one :: steps) (other :: others)

/-- Nothing stands in the place of what is inherited behind a stage that inherits nothing else. -/
theorem StepsLike.forall₂ {steps others : List (Except LineError Stage)}
    (alike : StepsLike .inherit steps others) : List.Forall₂ (StepLike .inherit) steps others := by
  cases alike with
  | nil => exact .nil
  | cons first rest => exact .cons first rest

/-- How all steps of two lines that are built among the same files come to the same. -/
structure Matches (fed : Source) (files : σ → φ) (first second : List (Except LineError Stage) × σ)
    (events others : List Event) : Prop where
  steps : StepsLike fed first.1 second.1
  files : files first.2 = files second.2
  deeds : List.Forall₂ Event.Like (deeds events) (deeds others)

end Builder

variable {handler : Handler σ} {storage : Storage φ} {files : σ → φ}

/-- Answers that grant the same things are both refusals, for the same reason, or neither is. -/
theorem cases_of_map_eq {ε α : Type} {one other : Except ε α}
    (same : (one.map fun _ => ()) = other.map fun _ => ()) :
    (∃ error, one = .error error ∧ other = .error error) ∨
      ∃ first second, one = .ok first ∧ other = .ok second := by
  cases one with
  | error error =>
    cases other with
    | error => exact .inl ⟨error, rfl, by cases same; rfl⟩
    | ok => cases same
  | ok first =>
    cases other with
    | error => cases same
    | ok second => exact .inr ⟨first, second, rfl, rfl⟩

/-- A file that is taken for a source or a sink keeps everything else alike. -/
theorem Stage.Like.withInput {fed : Source} {one other : Stage} (like : one.Like fed other)
    (path : String) (first second : Handle) :
    ({ one with stdin := .file path first } : Stage).Like fed
      { other with stdin := .file path second } where
  __ := like
  stdin := .file path first second

theorem Stage.Like.withOutput {fed : Source} {one other : Stage} (like : one.Like fed other)
    (path : String) (first second : Handle) :
    ({ one with stdout := .file path first } : Stage).Like fed
      { other with stdout := .file path second } where
  __ := like
  stdout := .file path first second

theorem Stage.Like.withPipe {fed : Source} {one other : Stage} (like : one.Like fed other)
    (first second : Handle) :
    ({ one with stdout := .pipe first } : Stage).Like fed { other with stdout := .pipe second } where
  __ := like
  stdout := .pipe first second

theorem Stage.Like.withArgument {fed : Source} {one other : Stage} (like : one.Like fed other)
    (word : String) : (one.withArgument word).Like fed (other.withArgument word) where
  __ := like
  arguments := congrArg (· ++ [word]) like.arguments

namespace Builder

variable {fed : Source} {state later : σ}

/-- What is a deed among events that are alike is one in both. -/
theorem deeds_like {event other : Event} (like : event.Like other) {events others : List Event}
    (alike : List.Forall₂ Event.Like (deeds events) (deeds others)) :
    List.Forall₂ Event.Like (deeds (event :: events)) (deeds (other :: others)) := by
  -- Both events are deeds or neither is, so none is set against another one.
  rw [deeds_cons, deeds_cons other]
  refine List.rel_append ?_ alike
  cases like with
  | same event => exact List.forall₂_same.mpr fun event _ => .same event
  | input path one other => exact .cons (.input path one other) .nil
  | output path one other => exact .cons (.output path one other) .nil
  | pipe one other => exact .cons (.pipe one other) .nil

/-- Events that are alike may come before. -/
theorem Meets.cons {first second : Step × σ} {events others : List Event}
    (meets : Meets fed files first second events others) {event other : Event}
    (like : event.Like other) :
    Meets fed files first second (event :: events) (other :: others) where
  __ := meets
  deeds := deeds_like like meets.deeds

/-- Handles may be given up before. -/
theorem Meets.release {first second : Step × σ} {events others : List Event}
    (meets : Meets fed files first second events others) (handles given : List Handle) :
    Meets fed files first second ((Flow.release handles).events handler state ++ events)
      ((Flow.release given).events handler later ++ others) where
  __ := meets
  deeds := by simpa using meets.deeds

end Builder

namespace Handler.Shows

variable (shown : handler.Shows storage files)

include shown

/-- Giving handles up leaves the files as they are. -/
theorem release (handles : List Handle) (state : σ) :
    files ((Flow.release handles).run handler state).2 = files state := by
  induction handles generalizing state with
  | nil => rfl
  | cons handle rest ih => exact (ih _).trans (shown.close handle state)

/-- A file that is opened for reading is refused to both or to none. -/
theorem openInput_cases {state later : σ} (same : files state = files later) (path : String) :
    ((∃ cause, (handler (.openInput path) state).1 = .error cause ∧
        (handler (.openInput path) later).1 = .error cause) ∨
      ∃ first second, (handler (.openInput path) state).1 = .ok first ∧
        (handler (.openInput path) later).1 = .ok second) ∧
    files (handler (.openInput path) state).2 = files (handler (.openInput path) later).2 := by
  obtain ⟨given, after⟩ := shown.openInput path state
  obtain ⟨other, behind⟩ := shown.openInput path later
  rw [← same] at other behind
  exact ⟨cases_of_map_eq (given.trans other.symm), after.trans behind.symm⟩

/-- A file that is opened for writing is refused to both or to none. -/
theorem openOutput_cases {state later : σ} (same : files state = files later) (path : String) :
    ((∃ cause, (handler (.openOutput path) state).1 = .error cause ∧
        (handler (.openOutput path) later).1 = .error cause) ∨
      ∃ first second, (handler (.openOutput path) state).1 = .ok first ∧
        (handler (.openOutput path) later).1 = .ok second) ∧
    files (handler (.openOutput path) state).2 = files (handler (.openOutput path) later).2 := by
  obtain ⟨given, after⟩ := shown.openOutput path state
  obtain ⟨other, behind⟩ := shown.openOutput path later
  rw [← same] at other behind
  exact ⟨cases_of_map_eq (given.trans other.symm), after.trans behind.symm⟩

variable {fed : Source}

/-- Giving up for the same reason comes to the same. -/
theorem fail_meets {state later : σ} (same : files state = files later) (error : LineError)
    (owned others : List Handle) (rest : List Token) :
    Builder.Meets fed files ((Builder.fail error owned rest).run handler state)
      ((Builder.fail error others rest).run handler later)
      ((Builder.fail error owned rest).events handler state)
      ((Builder.fail error others rest).events handler later) := by
  simp only [Builder.fail, Flow.run_bind, Flow.events_bind, Flow.pure_eq_done, Flow.run_done,
    Flow.events_done]
  exact {
    step := .error error
    rest := .finished rest
    files := by rw [shown.release, shown.release, same]
    deeds := by simp }

/-- Stages that are alike are completed alike. -/
theorem complete_meets {one other : Stage} (like : one.Like fed other) (tokens : List Token)
    {state later : σ} (same : files state = files later) :
    Builder.Meets fed files ((Builder.complete one tokens).run handler state)
      ((Builder.complete other tokens).run handler later)
      ((Builder.complete one tokens).events handler state)
      ((Builder.complete other tokens).events handler later) := by
  -- Both stages take the same tokens. They may give up different handles on the way, which is no
  -- deed and changes no files.
  induction one, tokens using Builder.complete.induct generalizing other state later with
  | case1 one =>
    exact { step := .stage { like with terminal := rfl }, rest := .finished [], files := same
            deeds := .nil }
  | case2 one word rest ih =>
    rw [Builder.complete, Builder.complete]
    exact ih (like.withArgument word) same
  | case3 one operator => exact shown.fail_meets same ..
  | case4 one path rest ih =>
    obtain ⟨answers, files⟩ := shown.openInput_cases same path.text
    rw [Builder.complete_input, Builder.complete_input]
    simp only [Flow.run_ask, Flow.events_ask]
    rcases answers with ⟨cause, first, second⟩ | ⟨given, taken, first, second⟩
    · rw [first, second]
      exact (shown.fail_meets files ..).cons (.same _)
    · rw [first, second]
      simp only [Flow.run_bind, Flow.events_bind]
      exact ((ih given (like.withInput path.text given taken) (by
        rw [shown.release, shown.release, files])).release _ _).cons (.input ..)
  | case5 one path rest ih =>
    obtain ⟨answers, files⟩ := shown.openOutput_cases same path.text
    rw [Builder.complete_output, Builder.complete_output]
    simp only [Flow.run_ask, Flow.events_ask]
    rcases answers with ⟨cause, first, second⟩ | ⟨given, taken, first, second⟩
    · rw [first, second]
      exact (shown.fail_meets files ..).cons (.same _)
    · rw [first, second]
      simp only [Flow.run_bind, Flow.events_bind]
      exact ((ih given (like.withOutput path.text given taken) (by
        rw [shown.release, shown.release, files])).release _ _).cons (.output ..)
  | case6 one command rest =>
    obtain ⟨⟨⟨reader, writer⟩, first⟩, after⟩ := shown.pipe state
    obtain ⟨⟨⟨readable, writable⟩, second⟩, behind⟩ := shown.pipe later
    rw [Builder.complete_pipe, Builder.complete_pipe]
    simp only [Flow.run_ask, Flow.events_ask, first, second, Flow.run_bind, Flow.events_bind,
      Flow.run_done, Flow.events_done]
    refine Builder.Meets.cons (.release ?_ _ _) (.pipe ..)
    exact {
      step := .stage (like.withPipe writer writable)
      rest := .pending rest command (.pipe reader readable)
      files := by rw [shown.release, shown.release, after, behind, same]
      deeds := .nil }

/-- The stages that come next are built alike. -/
theorem build_meets {one other : Source} (like : Source.Like fed one other) (command : Token)
    (tokens : List Token) {state later : σ} (same : files state = files later) :
    Builder.Meets fed files ((Builder.build ⟨command, one⟩ tokens).run handler state)
      ((Builder.build ⟨command, other⟩ tokens).run handler later)
      ((Builder.build ⟨command, one⟩ tokens).events handler state)
      ((Builder.build ⟨command, other⟩ tokens).events handler later) := by
  -- The files alone settle what the look-up finds.
  obtain ⟨given, after⟩ := shown.lookup command.text state
  obtain ⟨found, behind⟩ := shown.lookup command.text later
  rw [Builder.build_eq, Builder.build_eq]
  simp only [Flow.run_ask, Flow.events_ask]
  rw [given, found, same]
  have left := after.trans (same.trans behind.symm)
  refine Builder.Meets.cons ?_ (.same _)
  cases storage.find (files later) command.text with
  | error error => exact shown.fail_meets left ..
  | ok program =>
    refine shown.complete_meets ?_ tokens left
    exact { program := rfl, arguments := rfl, stdin := like, stdout := .inherited, stderr := rfl
            terminal := rfl }

/-- What is left of a line is built alike, but for the first stage, which may read something
else. -/
theorem collect_matches (bound limit : Nat) {one other : Builder} (like : one.Like fed other)
    (enough : one.readings.length ≤ bound) (plenty : one.readings.length ≤ limit)
    {state later : σ} (same : files state = files later) :
    Builder.Matches fed files ((Builder.collect bound one).run handler state)
      ((Builder.collect limit other).run handler later)
      ((Builder.collect bound one).events handler state)
      ((Builder.collect limit other).events handler later) := by
  -- Behind the first stage nothing is inherited, so the others are alike but for their handles.
  induction bound generalizing limit fed one other state later with
  | zero =>
    have empty : one.pending = none :=
      Builder.readings_eq_nil.mp (List.eq_nil_of_length_eq_zero (Nat.le_zero.mp enough))
    cases like with
    | finished tokens =>
      rw [Builder.collect_of_none rfl, Builder.collect_of_none rfl]
      exact { steps := .nil, files := same, deeds := .nil }
    | pending => cases empty
  | succ bound ih =>
    cases like with
    | finished tokens =>
      rw [Builder.collect_of_none rfl, Builder.collect_of_none rfl]
      exact { steps := .nil, files := same, deeds := .nil }
    | @pending tokens command first second like =>
      have fewer := @Builder.length_left_lt _ handler ⟨tokens, some ⟨command, first⟩⟩ _ rfl state
      have begun := shown.build_meets like command tokens same
      obtain ⟨limit, rfl⟩ : ∃ less, limit = less + 1 := ⟨limit - 1, by omega⟩
      have others := ih limit begun.rest (Nat.le_of_lt_succ (Nat.lt_of_lt_of_le fewer enough))
        (Nat.le_of_lt_succ (Nat.lt_of_lt_of_le fewer plenty)) begun.files
      rw [Builder.collect_succ rfl, Builder.collect_succ rfl]
      simp only [Flow.run_bind, Flow.events_bind, Flow.run_done, Flow.events_done, List.append_nil]
      exact {
        steps := .cons begun.step others.steps.forall₂
        files := others.files
        deeds := by
          rw [deeds_append, deeds_append]
          exact List.rel_append begun.deeds others.deeds }

end Handler.Shows

end LineShell
