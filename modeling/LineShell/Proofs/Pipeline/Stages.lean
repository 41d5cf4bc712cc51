import LineShell.Proofs.Pipeline.Building

/-! Stages: a line for which nothing is refused becomes the stages that its tokens read as. -/

namespace LineShell

variable {σ : Type} (handler : Handler σ)

namespace Reading

/-- No more stages than tokens can be read. -/
theorem length_ofTokens_le (line : List Token) : (ofTokens line).length ≤ line.length := by
  -- Each stage is written with its command at least.
  have spread (readings : List Reading) :
      readings.length ≤ (readings.flatMap tokens).length := by
    induction readings with
    | nil => exact Nat.le_refl 0
    | cons reading rest ih =>
      simp only [List.flatMap_cons, List.length_append, List.length_cons, tokens]
      omega
  simpa only [flatMap_tokens_ofTokens] using spread (ofTokens line)

/-- Where nothing is refused, a reading comes to its step. -/
theorem Built.eq_step {reading : Reading} {stdin : Source} {events : List Event}
    {result : Except LineError Stage} (built : reading.Built stdin events result)
    (granted : ∀ event ∈ events, event.error? = none) :
    result = reading.step stdin events ∧
      events.filterMap Event.action? = reading.preparation := by
  -- A stage that is refused anything would have a refusal as its last deed.
  cases built with
  | complete _ order ended =>
    refine ⟨?_, order⟩
    cases closing : reading.closing <;> simp_all [step, isDangling]
  | dangling _ order ended => exact ⟨by simp [step, ended], order⟩
  | @refused before last error split _ refused _ =>
    have silent := granted last (by simp [split])
    simp [refused] at silent

/-- A stage at which the line ends has no other behind it. -/
theorem IsLine.eq_nil {whole : Reading} {others : List Reading} (line : IsLine (whole :: others))
    (last : whole.closing ≠ .pipe) : others = [] := by
  cases others with
  | nil => rfl
  | cons next others => exact absurd line.1 last

/-- The stages behind a stage make up a line. -/
theorem IsLine.tail {whole : Reading} {others : List Reading} (line : IsLine (whole :: others)) :
    IsLine others := by
  cases others with
  | nil => trivial
  | cons next others => exact line.2

end Reading

namespace Builder

/-- The whole of a line is left before anything has been built. -/
@[simp] theorem readings_ofTokens (tokens : List Token) :
    (ofTokens tokens).readings = Reading.ofTokens tokens := by
  cases tokens <;> rfl

/-- The first stage of a line reads what the interpreter reads. -/
@[simp] theorem stdin_ofTokens (tokens : List Token) : (ofTokens tokens).stdin = .inherit := by
  cases tokens <;> rfl

/-- There is nothing left to read exactly when no stage comes next. -/
theorem readings_eq_nil {builder : Builder} : builder.readings = [] ↔ builder.pending = none := by
  -- A pending command is the beginning of a stage, so there is one at least.
  cases found : builder.pending with
  | none => simp [readings, found]
  | some pending =>
    obtain ⟨whole, others, split, _⟩ := Reading.preparation_isPrefix_continued
      { command := pending.command } rfl builder.tokens
    simp [readings, found, split]

/-- A step leaves less of a line than there was. -/
theorem Builds.length_lt {readings : List Reading} {stdin : Source} {events : List Event}
    {step : Step} (builds : Builds readings stdin events step) :
    step.2.readings.length < readings.length := by
  obtain ⟨whole, others, rfl, _, left⟩ := builds
  obtain ⟨error | stage, rest⟩ := step
  · have empty : rest.readings = [] := readings_eq_nil.mpr left
    simp [empty]
  · have fewer : rest.readings = others := left.1
    simp [fewer]

/-- What is left is read from the command of the stage that comes next. -/
theorem readings_of_pending {builder : Builder} {pending : Pending}
    (found : builder.pending = some pending) :
    builder.readings = Reading.continued { command := pending.command } builder.tokens := by
  simp [readings, found]

/-- Building the stage that comes next leaves less of a line than there was. -/
theorem length_left_lt {builder : Builder} {pending : Pending}
    (found : builder.pending = some pending) (state : σ) :
    ((build pending builder.tokens).run handler state).1.2.readings.length <
      builder.readings.length := by
  rw [readings_of_pending found]
  exact (build_builds handler pending builder.tokens state).length_lt

/-- With a stage left, it is the first of the further steps. -/
theorem collect_succ {builder : Builder} {pending : Pending}
    (found : builder.pending = some pending) (bound : Nat) :
    collect (bound + 1) builder = build pending builder.tokens >>= fun step =>
      collect bound step.2 >>= fun steps => .done (step.1 :: steps) := by
  simp only [collect, next_eq_build found, bind_assoc, Flow.done_bind, Flow.pure_eq_done]

/-- Nothing comes of a line of which nothing is left. -/
theorem collect_of_none {builder : Builder} (empty : builder.pending = none) (bound : Nat) :
    collect bound builder = .done [] := by
  cases bound with
  | zero => rfl
  | succ bound => simp [collect, next_eq_none empty]

/-- Steps to which nothing is refused give what is left of a line, in order. -/
theorem collect_eq_steps (bound : Nat) (builder : Builder) (state : σ)
    (enough : builder.readings.length ≤ bound) (line : Reading.IsLine builder.readings)
    (granted : ∀ event ∈ deeds ((collect bound builder).events handler state),
      event.error? = none) :
    ∃ parts : List (List Event),
      deeds ((collect bound builder).events handler state) = parts.flatten ∧
      parts.map (·.filterMap Event.action?) = builder.readings.map Reading.preparation ∧
      ((collect bound builder).run handler state).1 =
        Reading.steps builder.stdin builder.readings parts := by
  -- The induction is on the bound; the builder changes with every stage, and with it the source of
  -- the next one.
  induction bound generalizing builder state with
  | zero =>
    have none_left := List.eq_nil_of_length_eq_zero (Nat.le_zero.mp enough)
    exact ⟨[], by simp [collect, none_left, Reading.steps]⟩
  | succ bound ih =>
    cases found : builder.pending with
    | none =>
      have none_left := readings_eq_nil.mpr found
      exact ⟨[], by simp [collect_of_none found, none_left, Reading.steps]⟩
    | some pending =>
      obtain ⟨whole, others, split, built, left⟩ :=
        build_builds handler pending builder.tokens state
      rw [← readings_of_pending found] at split
      rw [collect_succ found] at granted ⊢
      simp only [Flow.events_bind, Flow.run_bind, Flow.events_done, Flow.run_done, List.append_nil,
        deeds_append] at granted ⊢
      rw [split] at enough line ⊢
      have source : builder.stdin = pending.stdin := by simp [Builder.stdin, found]
      -- Nothing is refused to the first stage, so it comes to its step.
      obtain ⟨result, order⟩ := built.eq_step
        (fun event member => granted event (List.mem_append_left _ member))
      rw [result] at left ⊢
      cases ended : whole.closing with
      | dangling operator =>
        -- The step is an error, and there is nothing behind it.
        simp only [Reading.step, ended] at left
        have empty : (((build pending builder.tokens).run handler state).1.2).pending = none := left
        simp only [line.eq_nil (by simp [ended]), collect_of_none empty]
        exact ⟨[deeds ((build pending builder.tokens).events handler state)], by simp,
          by simp [order], by simp [Reading.steps, source]⟩
      | finish | pipe =>
        simp only [Reading.step, ended] at left
        obtain ⟨readings, stdin⟩ := left
        obtain ⟨parts, events, actions, steps⟩ := ih _ _
          (by rw [readings]; simpa using enough) (readings ▸ line.tail)
          (fun event member => granted event (List.mem_append_right _ member))
        refine ⟨deeds ((build pending builder.tokens).events handler state) :: parts, ?_, ?_, ?_⟩
        · rw [events, List.flatten_cons]
        · rw [List.map_cons, List.map_cons, order, actions, readings]
        · rw [steps, readings, stdin, source, Reading.steps]

/-- Where nothing is refused, the steps of a line are what its tokens read as, from left to right:
a stage for each reading, or an error for an operator at which the line ends. Every token is read,
and none is read twice. Each stage is made of its own answers, which are asked for in the order of
its tokens. -/
theorem steps_eq_readings (tokens : List Token) (state : σ)
    (granted : ∀ event ∈ deeds ((steps tokens).events handler state), event.error? = none) :
    (Reading.ofTokens tokens).flatMap Reading.tokens = tokens ∧
    Reading.IsLine (Reading.ofTokens tokens) ∧
    ∃ parts : List (List Event),
      deeds ((steps tokens).events handler state) = parts.flatten ∧
      parts.map (·.filterMap Event.action?) =
        (Reading.ofTokens tokens).map Reading.preparation ∧
      ((steps tokens).run handler state).1 =
        Reading.steps .inherit (Reading.ofTokens tokens) parts := by
  -- That every token is read once is known of the reading; it remains that building follows it.
  refine ⟨Reading.flatMap_tokens_ofTokens tokens, Reading.isLine_ofTokens tokens, ?_⟩
  have collected := collect_eq_steps handler tokens.length (ofTokens tokens) state
  simp only [readings_ofTokens, stdin_ofTokens] at collected
  exact collected (Reading.length_ofTokens_le tokens) (Reading.isLine_ofTokens tokens) granted

/-- Grants every request, and numbers what it opens and starts. -/
def granting : Handler Nat
  | .lookup name, count => (.ok ("/bin/" ++ name), count)
  | .openInput _, count => (.ok (.file count), count + 1)
  | .openOutput _, count => (.ok (.file count), count + 1)
  | .pipe, count => (.ok (.reader count, .writer count), count + 1)
  | .spawn _, count => (.ok count, count + 1)
  | .wait _, count => (.ok (.ofCode 0), count)
  | .join _, count => (none, count)
  | .read _, count => (.ok [], count)
  | .write data, count => (.ok data.length, count)
  | .flush, count => (.ok (), count)
  | .close _, count | .reap .., count | .report _, count => ((), count)

/-- A line whose first command and whose first path are operators, and whose second stage is told
twice what to read. -/
def crookedLine : List Token :=
  [.operator .input, .word "x", .operator .output, .operator .pipe, .operator .pipe, .word "sort",
    .operator .input, .word "a", .operator .input, .word "b"]

theorem steps_eq_readings_crooked :
    (∀ event ∈ deeds ((steps crookedLine).events granting 0), event.error? = none) ∧
    ∃ parts : List (List Event),
      deeds ((steps crookedLine).events granting 0) = parts.flatten ∧
      parts.map (·.filterMap Event.action?) =
        [[.lookup "<", .openOutput "|", .pipe], [.lookup "sort", .openInput "a", .openInput "b"]] ∧
      ((steps crookedLine).run granting 0).1 =
        [.ok { program := "/bin/<", arguments := ["<", "x"], stdout := .pipe (.writer 1) },
          .ok { program := "/bin/sort", arguments := ["sort"], stdin := .file "b" (.file 3)
                terminal := true }] := by
  have granted : ∀ event ∈ deeds ((steps crookedLine).events granting 0), event.error? = none := by
    decide
  obtain ⟨-, -, parts, events, actions, -⟩ := steps_eq_readings granting crookedLine 0 granted
  exact ⟨granted, parts, events, actions, rfl⟩

end Builder

end LineShell
