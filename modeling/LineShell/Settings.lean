/-! Settings: what the environment may change about the prompt and the banner. -/

namespace LineShell

/-- How the interpreter presents itself. -/
structure Settings where
  prompt : String := ">> "
  banner : List String :=
    ["Welcome to pipesh!", "No tab completion and no command history."]
  color : Bool := true
  deriving DecidableEq, Repr, Inhabited

namespace Settings

/-- The variable that holds the prompt. -/
def promptVariable : String := "PIPESH_PROMPT"

/-- The variable that turns colour off by any value but the empty one. -/
def noColorVariable : String := "NO_COLOR"

/-- What one variable changes. -/
def apply (settings : Settings) (entry : String × String) : Settings :=
  if entry.1 = promptVariable then { settings with prompt := entry.2 }
  else if entry.1 = noColorVariable then
    -- Once off, colour stays off.
    { settings with color := settings.color && entry.2.isEmpty }
  else settings

/-- The settings under a list of variables, taken in order. -/
def ofVariables (entries : List (String × String)) : Settings :=
  entries.foldl apply {}

end Settings

end LineShell
