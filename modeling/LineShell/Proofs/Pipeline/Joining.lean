import LineShell.Proofs.Pipeline.Faults
import LineShell.Proofs.Pipeline.Likeness

/-! Joining: a line behind another one, with a pipe between them, is built as they are built one
after the other. -/

namespace LineShell

variable {σ : Type}

namespace Reading

/-- Whether no stage of a line dangles, the first of which is read up to the given tokens. -/
def Closed (reading : Reading) (tokens : List Token) : Prop :=
  ∀ whole ∈ reading.continued tokens, whole.isDangling = false

end Reading

namespace Builder

/-- The line goes on behind what is left of it. -/
def joined (builder : Builder) (command : Token) (rest : List Token) : Builder :=
  { builder with tokens := builder.tokens ++ .operator .pipe :: command :: rest }

/-- A line of which nothing has been built, and whose first stage reads a pipe. -/
def ofPipe (reader : Handle) (command : Token) (rest : List Token) : Builder :=
  ⟨rest, some ⟨command, .pipe reader⟩⟩

/-- What becomes of a step when the line goes on behind it: the last stage gets a pipe, and any
other step stays as it is. -/
def onward (command : Token) (rest : List Token) (step : Step) : Flow Step :=
  match step.1, step.2.pending with
  | .ok stage, none => .ask .pipe fun
    | .error cause => fail (.pipe cause) stage.handles rest
    | .ok (reader, writer) => Flow.release stage.stdout.handle?.toList >>= fun _ =>
        .done (.ok { stage with stdout := .pipe writer, terminal := false },
          ofPipe reader command rest)
  | result, _ => .done (result, step.2.joined command rest)

/-- The last stage asks for a pipe. -/
theorem onward_last {stage : Stage} {left : Builder} (empty : left.pending = none) (command : Token)
    (rest : List Token) :
    onward command rest (.ok stage, left) = .ask .pipe fun
      | .error cause => fail (.pipe cause) stage.handles rest
      | .ok (reader, writer) => Flow.release stage.stdout.handle?.toList >>= fun _ =>
          .done (.ok { stage with stdout := .pipe writer, terminal := false },
            ofPipe reader command rest) := by
  rw [onward, empty]

/-- Any other stage has a pipe already. -/
theorem onward_other {stage : Stage} {left : Builder} {pending : Pending}
    (found : left.pending = some pending) (command : Token) (rest : List Token) :
    onward command rest (.ok stage, left) = .done (.ok stage, left.joined command rest) := by
  rw [onward, found]

/-- A step that gives up does so whatever is behind. -/
theorem fail_onward (error : LineError) (owned : List Handle) (left : List Token) (command : Token)
    (rest : List Token) :
    fail error owned (left ++ .operator .pipe :: command :: rest) =
      fail error owned left >>= onward command rest := by
  rw [fail, fail, bind_assoc]
  rfl

/-- A stage that is completed in front of a pipe is completed as at the end of a line, and then gets
the pipe. -/
theorem complete_joined (reading : Reading) (tokens : List Token) (closed : reading.Closed tokens)
    (stage : Stage) (unended : stage.terminal = false) (command : Token) (rest : List Token) :
    complete stage (tokens ++ .operator .pipe :: command :: rest) =
      complete stage tokens >>= onward command rest := by
  -- Reading takes the same tokens as building, so that no stage dangles rules out the one case in
  -- which the pipe between the lines would be taken for an operand.
  fun_induction Reading.continued reading tokens generalizing stage with
  | case1 reading =>
    obtain ⟨program, arguments, stdin, stdout, stderr, terminal⟩ := stage
    cases unended
    rw [List.nil_append, complete_pipe]
    rfl
  | case2 reading word others ih =>
    rw [List.cons_append, complete, complete]
    exact ih closed _ unended
  | case3 reading operator =>
    -- An operator at the end would take the pipe.
    exact absurd (closed _ List.mem_cons_self) (by simp [Reading.isDangling])
  | case4 reading path others ih =>
    rw [List.cons_append, List.cons_append, complete_input, complete_input, Flow.ask_bind]
    -- The two flows make the same request, so they have to go on alike behind each answer.
    congr 1
    funext answer
    cases answer with
    | error cause => exact fail_onward ..
    | ok handle =>
      rw [bind_assoc]
      refine congrArg (Flow.release _ >>= ·) (funext fun _ => ?_)
      exact ih closed { stage with stdin := .file path.text handle } unended
  | case5 reading path others ih =>
    rw [List.cons_append, List.cons_append, complete_output, complete_output, Flow.ask_bind]
    congr 1
    funext answer
    cases answer with
    | error cause => exact fail_onward ..
    | ok handle =>
      rw [bind_assoc]
      refine congrArg (Flow.release _ >>= ·) (funext fun _ => ?_)
      exact ih closed { stage with stdout := .file path.text handle } unended
  | case6 reading name others ih =>
    rw [List.cons_append, List.cons_append, complete_pipe, complete_pipe, Flow.ask_bind]
    congr 1
    funext answer
    obtain cause | ⟨reader, writer⟩ := answer
    · exact fail_onward ..
    · rw [bind_assoc]
      rfl

/-- The same for a stage that is built from its beginning. -/
theorem build_joined (pending : Pending) (tokens : List Token)
    (closed : Reading.Closed { command := pending.command } tokens) (command : Token)
    (rest : List Token) :
    build pending (tokens ++ .operator .pipe :: command :: rest) =
      build pending tokens >>= onward command rest := by
  rw [build_eq, build_eq, Flow.ask_bind]
  congr 1
  funext answer
  cases answer with
  | error error => exact fail_onward ..
  | ok program => exact complete_joined _ tokens closed _ rfl command rest

/-- A line that comes to nothing but stages does not dangle. -/
theorem Yields.closed {readings : List Reading} {stdin : Source} {deeds : List Event}
    {steps : List (Except LineError Stage)} (yields : Yields readings stdin deeds steps)
    (complete : ∀ step ∈ steps, ∃ stage, step = .ok stage) :
    ∀ reading ∈ readings, reading.isDangling = false := by
  induction yields with
  | nothing => exact List.forall_mem_nil _
  | stage built _ ih =>
    obtain ⟨_, others⟩ := List.forall_mem_cons.mp complete
    exact List.forall_mem_cons.mpr ⟨built.not_dangling, ih others⟩
  | error =>
    obtain ⟨stage, same⟩ := complete _ List.mem_cons_self
    cases same

variable (handler : Handler σ)

/-- It does not matter how many steps are allowed for, as long as there are enough. -/
theorem collect_congr (bound limit : Nat) (builder : Builder) (state : σ)
    (enough : builder.readings.length ≤ bound) (plenty : builder.readings.length ≤ limit) :
    (collect bound builder).run handler state = (collect limit builder).run handler state ∧
      (collect bound builder).events handler state =
        (collect limit builder).events handler state := by
  -- Both of them take the same step, and what it leaves is less than either allows for.
  induction bound generalizing limit builder state with
  | zero =>
    have empty := readings_eq_nil.mp (List.eq_nil_of_length_eq_zero (Nat.le_zero.mp enough))
    simp [collect_of_none empty]
  | succ bound ih =>
    cases found : builder.pending with
    | none => simp [collect_of_none found]
    | some pending =>
      have fewer := length_left_lt handler found state
      obtain ⟨limit, rfl⟩ : ∃ less, limit = less + 1 := ⟨limit - 1, by omega⟩
      obtain ⟨runs, events⟩ := ih limit ((build pending builder.tokens).run handler state).1.2
        ((build pending builder.tokens).run handler state).2 (by omega) (by omega)
      rw [collect_succ found, collect_succ found]
      simp only [Flow.run_bind, Flow.events_bind, Flow.run_done, Flow.events_done, runs, events,
        and_self]

/-- With a stage left, a line that another one follows builds it as it would without the other, and
then goes on. -/
theorem collect_joined_succ {builder : Builder} {pending : Pending}
    (found : builder.pending = some pending)
    (closed : ∀ reading ∈ builder.readings, reading.isDangling = false) (limit : Nat)
    (command : Token) (rest : List Token) :
    collect (limit + 1) (builder.joined command rest) =
      build pending builder.tokens >>= fun step => onward command rest step >>= fun given =>
        collect limit given.2 >>= fun steps => .done (given.1 :: steps) := by
  rw [readings_of_pending found] at closed
  have further : (builder.joined command rest).pending = some pending := found
  rw [collect_succ further, joined, build_joined pending builder.tokens closed, bind_assoc]

/-- What comes of a line, and of the same line when another one follows it that is built behind: the
last stage gets a pipe, and all steps and deeds before stay as they are. -/
inductive Continues (next : Flow (List (Except LineError Stage))) (reader writer : Handle)
    (after : σ) : List (Except LineError Stage) × σ → List (Except LineError Stage) × σ →
      List Event → List Event → Prop
  | last (stage : Stage) (state : σ) (part : List Event) {freed : σ}
      (gone : freed = ((Flow.release stage.stdout.handle?.toList).run handler after).2) :
      Continues next reader writer after ([.ok stage], state)
        (.ok { stage with stdout := .pipe writer, terminal := false } ::
          (next.run handler freed).1, (next.run handler freed).2)
        part (part ++ ⟨.pipe, .ok (reader, writer)⟩ :: deeds (next.events handler freed))
  | cons (stage : Stage) (part : List Event)
      {first whole : List (Except LineError Stage) × σ} {events all : List Event}
      (rest : Continues next reader writer after first whole events all) :
      Continues next reader writer after (.ok stage :: first.1, first.2)
        (.ok stage :: whole.1, whole.2) (part ++ events) (part ++ all)

/-- All of the stages before the last one are the same. -/
theorem Continues.exists_last {next : Flow (List (Except LineError Stage))}
    {reader writer : Handle} {after : σ} {first whole : List (Except LineError Stage) × σ}
    {events all : List Event}
    (continues : Continues handler next reader writer after first whole events all) :
    ∃ (front : List Stage) (last : Stage) (freed : σ), first.1 = (front ++ [last]).map .ok ∧
      freed = ((Flow.release last.stdout.handle?.toList).run handler after).2 ∧
      whole = (front.map .ok ++ .ok { last with stdout := .pipe writer, terminal := false } ::
        (next.run handler freed).1, (next.run handler freed).2) ∧
      all = events ++ ⟨.pipe, .ok (reader, writer)⟩ :: deeds (next.events handler freed) := by
  induction continues with
  | last stage state part gone => exact ⟨[], stage, _, rfl, gone, rfl, rfl⟩
  | cons stage part _ ih =>
    obtain ⟨front, last, freed, stages, gone, rfl, rfl⟩ := ih
    exact ⟨stage :: front, last, freed, by simp [stages], gone, rfl, by simp⟩

/-- A line that comes to nothing but stages, with another one behind it: its last stage gets a pipe,
and then the other line is built, whose first stage reads that pipe. -/
theorem collect_joined {bound limit less : Nat} {builder : Builder} {command : Token}
    {rest : List Token} {state after : σ} {reader writer : Handle}
    (enough : builder.readings.length ≤ bound)
    (plenty : (builder.joined command rest).readings.length ≤ limit)
    (ample : (ofPipe reader command rest).readings.length ≤ less)
    (begun : builder.pending ≠ none)
    (whole : ∀ step ∈ ((collect bound builder).run handler state).1, ∃ stage, step = .ok stage)
    (made : handler .pipe ((collect bound builder).run handler state).2 =
      (.ok (reader, writer), after)) :
    Continues handler (collect less (ofPipe reader command rest)) reader writer after
      ((collect bound builder).run handler state)
      ((collect limit (builder.joined command rest)).run handler state)
      (deeds ((collect bound builder).events handler state))
      (deeds ((collect limit (builder.joined command rest)).events handler state)) := by
  -- The induction is on the stages of the first line; the other one is begun behind the last.
  induction bound generalizing limit builder state with
  | zero =>
    have empty := readings_eq_nil.mp (List.eq_nil_of_length_eq_zero (Nat.le_zero.mp enough))
    exact absurd empty begun
  | succ bound ih =>
    obtain ⟨pending, found⟩ := Option.ne_none_iff_exists'.mp begun
    have closed := (collect_yields handler (bound + 1) builder state enough).closed whole
    have fewer := length_left_lt handler found state
    have shorter := @length_left_lt _ handler (builder.joined command rest) pending found state
    rw [readings_of_pending found] at closed
    rw [joined, build_joined pending builder.tokens closed, ← joined] at shorter
    rw [← readings_of_pending found] at closed
    obtain ⟨limit, rfl⟩ : ∃ fewer, limit = fewer + 1 := ⟨limit - 1, by omega⟩
    replace plenty := Nat.le_of_lt_succ (Nat.lt_of_lt_of_le shorter plenty)
    rw [collect_succ found] at whole made ⊢
    rw [collect_joined_succ found closed]
    simp only [Flow.run_bind, Flow.events_bind, Flow.run_done, Flow.events_done,
      List.append_nil] at whole made plenty ⊢
    generalize (build pending builder.tokens).run handler state = step at whole made fewer plenty ⊢
    obtain ⟨⟨error | stage, left⟩, next⟩ := step
    · obtain ⟨stage, same⟩ := whole _ List.mem_cons_self
      cases same
    · dsimp only at whole made fewer plenty ⊢
      cases remains : left.pending with
      | none =>
        -- This is the last stage, and the pipe is asked for.
        rw [collect_of_none remains, Flow.run_done] at made
        rw [onward_last remains] at plenty ⊢
        rw [collect_of_none remains]
        simp only [Flow.run_ask, Flow.events_ask, made, Flow.run_bind, Flow.events_bind,
          Flow.run_done, Flow.events_done, List.append_nil] at plenty ⊢
        have same := collect_congr handler limit less (ofPipe reader command rest)
          ((Flow.release stage.stdout.handle?.toList).run handler after).2 plenty ample
        rw [same.1, same.2, deeds_append, deeds_append, deeds_cons, deeds_release, List.append_nil]
        exact .last stage next _ rfl
      | some later =>
        rw [onward_other remains] at plenty ⊢
        simp only [Flow.run_done, Flow.events_done, deeds_append] at plenty ⊢
        exact .cons stage _ (ih (Nat.le_of_lt_succ (Nat.lt_of_lt_of_le fewer enough)) plenty
          (by simp [remains]) (fun step member => whole step (List.mem_cons_of_mem _ member)) made)

/-- A line behind another one, with a pipe between them, is built among the same files as it would
be behind the end of that one. The last stage of the first line writes a pipe that is made for it,
and the first stage of the second reads that pipe, unless it is told to read a file. All other
stages, and an error of the second line, are as they were, but for handles. -/
theorem steps_joined {φ : Type} {handler : Handler σ} {storage : Storage φ} {files : σ → φ}
    (shown : handler.Shows storage files) {first second : List Token} (begun : first ≠ [])
    (filled : second ≠ []) {state other : σ}
    (whole : ∀ step ∈ ((steps first).run handler state).1, ∃ stage, step = .ok stage)
    (same : files other = files ((steps first).run handler state).2) :
    ∃ (front : List Stage) (last : Stage) (reader writer : Handle)
      (later : List (Except LineError Stage)) (behind : List Event),
      ((steps first).run handler state).1 = (front ++ [last]).map .ok ∧
      ((steps (first ++ .operator .pipe :: second)).run handler state).1 =
        front.map .ok ++ .ok { last with stdout := .pipe writer, terminal := false } :: later ∧
      StepsLike (.pipe reader) ((steps second).run handler other).1 later ∧
      Yields (Reading.ofTokens second) (.pipe reader) behind later ∧
      deeds ((steps (first ++ .operator .pipe :: second)).events handler state) =
        deeds ((steps first).events handler state) ++ ⟨.pipe, .ok (reader, writer)⟩ :: behind ∧
      List.Forall₂ Event.Like (deeds ((steps second).events handler other)) behind ∧
      ((steps (first ++ .operator .pipe :: second)).events handler state).filterMap Event.name? =
        ((steps first).events handler state).filterMap Event.name? ++
          ((steps second).events handler other).filterMap Event.name? ∧
      files ((steps (first ++ .operator .pipe :: second)).run handler state).2 =
        files ((steps second).run handler other).2 := by
  -- Neither line is empty, so each has a first command, and that of the second is behind the pipe.
  obtain ⟨program, words, rfl⟩ := List.exists_cons_of_ne_nil begun
  obtain ⟨command, rest, rfl⟩ := List.exists_cons_of_ne_nil filled
  unfold steps at whole same ⊢
  have enough (tokens : List Token) : (ofTokens tokens).readings.length ≤ tokens.length := by
    simpa using Reading.length_ofTokens_le tokens
  obtain ⟨⟨⟨reader, writer⟩, made⟩, kept⟩ :=
    shown.pipe ((collect (program :: words).length (ofTokens (program :: words))).run handler
      state).2
  have ample : (ofPipe reader command rest).readings.length ≤ (command :: rest).length :=
    enough (command :: rest)
  have joins : ofTokens (program :: words ++ .operator .pipe :: command :: rest) =
      (ofTokens (program :: words)).joined command rest := rfl
  obtain ⟨front, last, freed, stages, gone, result, asked⟩ := (collect_joined handler
    (enough (program :: words)) (enough (program :: words ++ .operator .pipe :: command :: rest))
    ample nofun whole (Prod.ext made rfl)).exists_last
  rw [← joins] at result asked
  -- The pipe leaves the files as they are, and so do the handles that are given up for it.
  have left : files other = files freed := by
    rw [gone, shown.release, kept, same]
  have fed : Like (.pipe reader) (ofTokens (command :: rest)) (ofPipe reader command rest) :=
    .pending rest command .inherited
  have alike := shown.collect_matches (command :: rest).length (command :: rest).length fed
    (enough (command :: rest)) (enough (command :: rest)) left
  have names := Event.Like.names alike.deeds
  rw [filterMap_name?_deeds, filterMap_name?_deeds] at names
  refine ⟨front, last, reader, writer, _, _, stages, congrArg Prod.fst result, alike.steps,
    collect_yields handler _ (ofPipe reader command rest) freed ample, asked, alike.deeds, ?_, ?_⟩
  · rw [← filterMap_name?_deeds, asked, List.filterMap_append, filterMap_name?_deeds,
      List.filterMap_cons_none rfl, filterMap_name?_deeds]
    exact congrArg _ names.symm
  · rw [result]
    exact alike.files.symm

/-- What is seen from a directory, with three programs. -/
def workshop : Storage FileSystem :=
  .ofDirectory (Search.withTable [("ls", "/bin/ls"), ("sort", "/bin/sort"), ("wc", "/bin/wc")]
    (Search.resolve "")) ["home"] 0

/-- The directory belongs to the user, and there are no files in it yet. -/
def emptyWorkshop : FileSystem × Nat :=
  (({} : FileSystem).put ["home"] (.directory 0o755), 0)

/-- A line that makes a file. -/
def makingLine : List Token :=
  [.word "ls", .operator .output, .word "list"]

/-- A line whose second stage reads that file. -/
def readingLine : List Token :=
  [.word "sort", .operator .pipe, .word "wc", .operator .input, .word "list"]

theorem steps_joined_making :
    (∀ step ∈ ((steps makingLine).run workshop.handler emptyWorkshop).1,
      ∃ stage, step = .ok stage) ∧
    ∃ reader writer later,
      ((steps (makingLine ++ .operator .pipe :: readingLine)).run workshop.handler
          emptyWorkshop).1 =
        .ok { program := "/bin/ls", arguments := ["ls"], stdout := .pipe writer } :: later ∧
      StepsLike (.pipe reader)
        [.ok { program := "/bin/sort", arguments := ["sort"], stdout := .pipe (.writer 1) },
          .ok { program := "/bin/wc", arguments := ["wc"], stdin := .file "list" (.file 2)
                terminal := true }] later := by
  -- What either line comes to by itself is computed; the whole line is left to the theorem.
  have built : ((steps makingLine).run workshop.handler emptyWorkshop).1 =
      [.ok { program := "/bin/ls", arguments := ["ls"], stdout := .file "list" (.file 0)
             terminal := true }] := by decide +kernel
  have behind : ((steps readingLine).run workshop.handler
      ((steps makingLine).run workshop.handler emptyWorkshop).2).1 =
      [.ok { program := "/bin/sort", arguments := ["sort"], stdout := .pipe (.writer 1) },
        .ok { program := "/bin/wc", arguments := ["wc"], stdin := .file "list" (.file 2)
              terminal := true }] := by decide +kernel
  have whole : ∀ step ∈ ((steps makingLine).run workshop.handler emptyWorkshop).1,
      ∃ stage, step = .ok stage := by
    simp [built]
  obtain ⟨front, last, reader, writer, later, -, stages, joined, alike, -⟩ :=
    @steps_joined _ _ _ _ _ workshop.shows_handler makingLine readingLine (List.cons_ne_nil _ _)
      (List.cons_ne_nil _ _) _ _ whole rfl
  rw [behind] at alike
  rw [built] at stages
  refine ⟨whole, reader, writer, later, ?_, alike⟩
  cases front with
  | nil =>
    cases stages
    exact joined
  | cons stage front => simp at stages

end Builder

end LineShell
