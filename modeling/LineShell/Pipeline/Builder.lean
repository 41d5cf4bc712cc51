import LineShell.Pipeline.Stage

/-! The builder: takes the tokens of a line from the left and makes one stage at a time. -/

namespace LineShell

/-- A stage of which only the command and the source are known. -/
structure Pending where
  command : Token
  stdin : Source
  deriving DecidableEq, Repr, Inhabited

/-- What is left of a line. -/
structure Builder where
  tokens : List Token
  /-- The stage that comes next; none after the last stage or an error. -/
  pending : Option Pending
  deriving DecidableEq, Repr, Inhabited

namespace Builder

/-- A line of which nothing has been built: its first token is a command, whatever its kind. -/
def ofTokens : List Token → Builder
  | [] => ⟨[], none⟩
  | command :: rest => ⟨rest, some ⟨command, .inherit⟩⟩

/-- What one step gives: a stage or an error, and what is left of the line. -/
abbrev Step := Except LineError Stage × Builder

/-- Ends the building of a line for an error, giving up the handles of the stage at hand. -/
def fail (error : LineError) (owned : List Handle) (rest : List Token) : Flow Step := do
  Flow.release owned
  pure (.error error, ⟨rest, none⟩)

/-- Completes a stage: words are arguments, and an operator takes the very next token, whatever
its kind, as its operand. -/
def complete (stage : Stage) : List Token → Flow Step
  | [] => pure (.ok { stage with terminal := true }, ⟨[], none⟩)
  | .word word :: rest => complete (stage.withArgument word) rest
  | [.operator operator] => fail (.missingOperand operator) stage.handles []
  | .operator .input :: operand :: rest => do
    match ← Flow.request (.openInput operand.text) with
    | .error cause => fail (.redirectInput operand.text cause) stage.handles rest
    | .ok handle =>
      -- The file takes the place of what the stage was to read.
      Flow.release stage.stdin.handle?.toList
      complete { stage with stdin := .file operand.text handle } rest
  | .operator .output :: operand :: rest => do
    match ← Flow.request (.openOutput operand.text) with
    | .error cause => fail (.redirectOutput operand.text cause) stage.handles rest
    | .ok handle =>
      Flow.release stage.stdout.handle?.toList
      complete { stage with stdout := .file operand.text handle } rest
  | .operator .pipe :: command :: rest => do
    match ← Flow.request .pipe with
    | .error cause => fail (.pipe cause) stage.handles rest
    | .ok (reader, writer) =>
      -- The pipe takes the place of a file that the stage was to write.
      Flow.release stage.stdout.handle?.toList
      pure (.ok { stage with stdout := .pipe writer }, ⟨rest, some ⟨command, .pipe reader⟩⟩)

/-- A file to read takes the place of what the stage read from before. -/
theorem complete_input (stage : Stage) (path : Token) (rest : List Token) :
    complete stage (.operator .input :: path :: rest) =
      .ask (.openInput path.text) fun
        | .error cause => fail (.redirectInput path.text cause) stage.handles rest
        | .ok handle => Flow.release stage.stdin.handle?.toList >>= fun _ =>
            complete { stage with stdin := .file path.text handle } rest := by
  rw [complete]
  rfl

/-- A file to write takes the place of what the stage wrote to before. -/
theorem complete_output (stage : Stage) (path : Token) (rest : List Token) :
    complete stage (.operator .output :: path :: rest) =
      .ask (.openOutput path.text) fun
        | .error cause => fail (.redirectOutput path.text cause) stage.handles rest
        | .ok handle => Flow.release stage.stdout.handle?.toList >>= fun _ =>
            complete { stage with stdout := .file path.text handle } rest := by
  rw [complete]
  rfl

/-- A pipe ends the stage, and leaves its reading end to the next one. -/
theorem complete_pipe (stage : Stage) (command : Token) (rest : List Token) :
    complete stage (.operator .pipe :: command :: rest) =
      .ask .pipe fun
        | .error cause => fail (.pipe cause) stage.handles rest
        | .ok (reader, writer) => Flow.release stage.stdout.handle?.toList >>= fun _ =>
            .done (.ok { stage with stdout := .pipe writer },
              ⟨rest, some ⟨command, .pipe reader⟩⟩) := by
  rw [complete]
  rfl

/-- Builds the stage that comes next, looking its command up first. -/
def build (pending : Pending) (rest : List Token) : Flow Step := do
  match ← Flow.request (.lookup pending.command.text) with
  -- Up to here the stage owns nothing but what it was to read from.
  | .error error => fail (.lookup error) pending.stdin.handle?.toList rest
  | .ok program =>
    complete { program, arguments := [pending.command.text], stdin := pending.stdin } rest

/-- A stage starts from nothing but its command, once that is found. -/
theorem build_eq (pending : Pending) (rest : List Token) :
    build pending rest = .ask (.lookup pending.command.text) fun
      | .error error => fail (.lookup error) pending.stdin.handle?.toList rest
      | .ok program => complete
          { program, arguments := [pending.command.text], stdin := pending.stdin } rest :=
  rfl

/-- The next stage or error, and none after the last. -/
def next (builder : Builder) : Flow (Option (Except LineError Stage) × Builder) :=
  match builder.pending with
  | none => pure (none, builder)
  | some pending => do
    let (result, rest) ← build pending builder.tokens
    pure (some result, rest)

/-- With nothing left, the next step gives nothing. -/
theorem next_eq_none {builder : Builder} (empty : builder.pending = none) :
    builder.next = .done (none, builder) := by
  simp [next, empty]

/-- With a stage left, the next step builds it. -/
theorem next_eq_build {builder : Builder} {pending : Pending}
    (found : builder.pending = some pending) :
    builder.next = build pending builder.tokens >>= fun step => .done (some step.1, step.2) := by
  simp [next, found]

/-- What further steps give, at most so many. -/
def collect : Nat → Builder → Flow (List (Except LineError Stage))
  | 0, _ => pure []
  | bound + 1, builder => do
    let (built, rest) ← builder.next
    match built with
    | none => pure []
    | some step => do
      let steps ← collect bound rest
      pure (step :: steps)

/-- All that building a line gives: its stages, up to an error. -/
def steps (tokens : List Token) : Flow (List (Except LineError Stage)) :=
  -- Each step takes a token at least.
  collect tokens.length (ofTokens tokens)

/-- The handles that the unbuilt part of a line owns. -/
def handles (builder : Builder) : List Handle :=
  match builder.pending with
  | none => []
  | some pending => pending.stdin.handle?.toList

end Builder

end LineShell
