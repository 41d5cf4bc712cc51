import LineShell.Repl

/-! Transcripts: the conversation over lines that are known in advance. -/

namespace LineShell

/-- Answers reads from an input, and everything else as another handler does. -/
def Handler.fed {σ : Type} (handler : Handler σ) : Handler (Bytes × σ)
  | .read limit, (input, state) => (.ok (input.take limit), (input.drop limit, state))
  | call, (input, state) =>
    let answer := handler call state
    (answer.1, (input, answer.2))

namespace Repl

/-- Prompts before each of some lines and once more behind the last. -/
def overLines (prompt : Prompt) : Session → List Bytes → Flow (Except Failure Unit)
  | session, lines => do
    match ← prompt.print output with
    | .error cause => pure (.error { activity := some "writing prompt", cause })
    | .ok () =>
      match lines with
      | [] => pure (.ok ())
      | line :: rest => do
        let session ← runLine session line
        overLines prompt session rest

/-- The whole conversation over some lines. -/
def transcript (settings : Settings) (onTerminal : Bool) (lines : List Bytes) :
    Flow (Except Failure Unit) := do
  match ← printLines settings.banner with
  | .error failure => pure (.error failure)
  | .ok () =>
    match ← overLines (Prompt.ofSettings settings onTerminal) {} lines with
    | .error failure => pure (.error failure)
    | .ok () => printLines [""]

end Repl

end LineShell
