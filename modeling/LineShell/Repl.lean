import LineShell.Prompt
import LineShell.Session
import LineShell.Text.Lines

/-! The read loop: prompts, reads a line, runs it, and starts again until the input ends. -/

namespace LineShell.Repl

/-- The most bytes that one request for input asks for. -/
def blockSize : Nat := 8192

/-- The standard output as a writer. -/
def output : Writer Flow where
  write data := Flow.request (.write data)
  flush := Flow.request .flush

/-- Shows a line on the standard error stream. -/
def complain (text : String) : Flow Unit :=
  Flow.request (.report (Utf8.ofString (text ++ "\n")))

/-- Why the loop stopped before the end of the input. -/
structure Failure where
  /-- What was being done, where that is told. -/
  activity : Option String := none
  cause : IoError
  deriving DecidableEq, Repr, Inhabited

/-- What the user is told about a failure. -/
def Failure.message (failure : Failure) : String :=
  match failure.activity with
  | none => "Error: " ++ failure.cause.message
  | some activity =>
    "Error: " ++ activity ++ "\n\nCaused by:\n    " ++ failure.cause.message

/-- Reads on until there is a whole line, at most so many blocks. Gives the line, or none at the
end of the input, and the bytes read beyond it. -/
def readLine : Nat → Bytes → Flow (Except IoError (Option Bytes × Bytes))
  | bound, pending =>
    match Lines.cut? pending with
    | some (line, rest) => pure (.ok (some (Lines.trim line), rest))
    | none =>
      match bound with
      | 0 => pure (.ok (none, pending))
      | bound + 1 => do
        match ← Flow.request (.read blockSize) with
        | .error cause => pure (.error cause)
        | .ok [] =>
          if pending.isEmpty then pure (.ok (none, [])) else pure (.ok (some pending, []))
        | .ok block => readLine bound (pending ++ block)

/-- Runs one line of input, telling what is wrong with it. -/
def runLine (session : Session) (line : Bytes) : Flow Session := do
  match Utf8.toString? line with
  | none =>
    complain ("Reading input: " ++ IoError.notText.message)
    pure session
  | some text =>
    let (result, session) ← session.execute text
    match result with
    | .ok () => pure session
    | .error error =>
      complain error.message
      pure session

/-- Prompts for, reads and runs lines: at most `lines` of them, each of at most `blocks` blocks. -/
def loop (prompt : Prompt) (blocks : Nat) :
    Nat → Session → Bytes → Flow (Except Failure Unit)
  | 0, _, _ => pure (.ok ())
  | lines + 1, session, pending => do
    match ← prompt.print output with
    | .error cause => pure (.error { activity := some "writing prompt", cause })
    | .ok () =>
      match ← readLine blocks pending with
      | .error cause => pure (.error { activity := some "reading input", cause })
      | .ok (none, _) => pure (.ok ())
      | .ok (some line, rest) => do
        let session ← runLine session line
        loop prompt blocks lines session rest

/-- Prints lines, each with a line feed. -/
def printLines : List String → Flow (Except Failure Unit)
  | [] => pure (.ok ())
  | line :: rest => do
    match ← output.writeAll (Utf8.ofString (line ++ "\n")) with
    | .error cause => pure (.error { cause })
    | .ok () => printLines rest

/-- The whole conversation: banner, loop, and a last line feed. -/
def converse (settings : Settings) (onTerminal : Bool) (bound : Nat) :
    Flow (Except Failure Unit) := do
  match ← printLines settings.banner with
  | .error failure => pure (.error failure)
  | .ok () =>
    match ← loop (Prompt.ofSettings settings onTerminal) bound bound {} [] with
    | .error failure => pure (.error failure)
    | .ok () => printLines [""]

/-- Holds the conversation and gives the exit code. An input of fewer bytes than `bound` is read
to its end. -/
def start (settings : Settings) (onTerminal : Bool) (bound : Nat) : Flow UInt8 := do
  match ← converse settings onTerminal bound with
  | .ok () => pure 0
  | .error failure =>
    complain failure.message
    pure 1

open Session (Drives)

/-- Writing to the standard output is no more than a driven flow may do. -/
theorem drives_writeAll (data : Bytes) : Drives (output.writeAll data) := by
  -- Each attempt is one write, after which less is left.
  have rest (attempts : Nat) (data : Bytes) : Drives (output.writeRest attempts data) := by
    induction attempts generalizing data with
    | zero => cases data <;> exact .done _
    | succ attempts ih =>
      cases data with
      | nil => exact .done _
      | cons byte data =>
        refine .aside rfl fun reply => ?_
        rcases reply with cause | taken
        · exact .done _
        · cases taken with
          | zero => exact .done _
          | succ taken => exact ih _
  exact rest _ _

/-- So is reading a line. -/
theorem drives_readLine (bound : Nat) (pending : Bytes) : Drives (readLine bound pending) := by
  -- Each block is one read, after which the line may go on.
  induction bound generalizing pending with
  | zero =>
    unfold readLine
    split <;> exact .done _
  | succ bound ih =>
    unfold readLine
    split
    · exact .done _
    · refine .aside rfl fun reply => ?_
      rcases reply with cause | block
      · exact .done _
      · cases block with
        | nil =>
          change Drives (if pending.isEmpty then _ else _)
          split <;> exact .done _
        | cons byte block => exact ih _

/-- So is printing lines. -/
theorem drives_printLines (lines : List String) : Drives (printLines lines) := by
  induction lines with
  | nil => exact .done _
  | cons line rest ih =>
    refine (drives_writeAll _).bind fun written => ?_
    cases written with
    | error cause => exact .done _
    | ok => exact ih

/-- A line of input is run, or is no text. -/
theorem drives_runLine (session : Session) (line : Bytes) : Drives (runLine session line) := by
  unfold runLine
  split
  · exact .aside rfl fun _ => .done _
  · refine .execute session _ fun ⟨result, session⟩ => ?_
    cases result with
    | error error => exact .aside rfl fun _ => .done _
    | ok => exact .done _

/-- The loop runs one line after another. -/
theorem drives_loop (prompt : Prompt) (blocks lines : Nat) (session : Session) (pending : Bytes) :
    Drives (loop prompt blocks lines session pending) := by
  -- Each line is prompted for, read, and run in the session that the one before has left.
  induction lines generalizing session pending with
  | zero => exact .done _
  | succ lines ih =>
    have printed : Drives (prompt.print output) := by
      refine (drives_writeAll _).bind fun written => ?_
      cases written with
      | error cause => exact .done _
      | ok => exact .aside rfl .done
    refine printed.bind fun shown => ?_
    cases shown with
    | error cause => exact .done _
    | ok =>
      refine (drives_readLine blocks pending).bind fun read => ?_
      split
      · exact .done _
      · exact .done _
      · exact (drives_runLine session _).bind fun session => ih session _

/-- The whole program does nothing but run lines. -/
theorem drives_start (settings : Settings) (onTerminal : Bool) (bound : Nat) :
    Drives (start settings onTerminal bound) := by
  have conversed : Drives (converse settings onTerminal bound) := by
    refine (drives_printLines _).bind fun printed => ?_
    cases printed with
    | error failure => exact .done _
    | ok =>
      refine (drives_loop ..).bind fun looped => ?_
      cases looped with
      | error failure => exact .done _
      | ok => exact drives_printLines _
  refine conversed.bind fun result => ?_
  cases result with
  | ok => exact .done _
  | error failure => exact .aside rfl fun _ => .done _

end LineShell.Repl
