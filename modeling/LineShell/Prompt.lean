import LineShell.Settings
import LineShell.System.Writer

/-! The prompt: a text, perhaps in colour, printed before each line is read. -/

namespace LineShell

/-- The attributes of a text on a terminal. -/
structure Style where
  bold : Bool := false
  green : Bool := false
  deriving DecidableEq, Repr, Inhabited

namespace Style

/-- The numbers that select the attributes of a style. -/
def selectors (style : Style) : List String :=
  (if style.bold then ["1"] else []) ++ (if style.green then ["32"] else [])

/-- A text between the sequences that turn its style on and off; a style without attributes
adds nothing. -/
def paint (style : Style) (text : String) : String :=
  if style.selectors.isEmpty then text
  else "\x1b[" ++ String.intercalate ";" style.selectors ++ "m" ++ text ++ "\x1b[0m"

end Style

/-- The text shown before a line is read. -/
structure Prompt where
  text : String
  style : Option Style := none
  deriving DecidableEq, Repr, Inhabited

namespace Prompt

/-- The prompt under the given settings: bold and green where colour is wanted and shown. -/
def ofSettings (settings : Settings) (onTerminal : Bool) : Prompt where
  text := settings.prompt
  style := if settings.color && onTerminal then some { bold := true, green := true } else none

/-- What is written for a prompt. -/
def render (prompt : Prompt) : String :=
  match prompt.style with
  | none => prompt.text
  | some style => style.paint prompt.text

/-- Writes all of the prompt, and only then flushes. -/
def print {m : Type → Type} [Monad m] (prompt : Prompt) (writer : Writer m) :
    m (Except IoError Unit) := do
  match ← writer.writeAll (Utf8.ofString prompt.render) with
  | .error cause => pure (.error cause)
  | .ok () => writer.flush

end Prompt

end LineShell
