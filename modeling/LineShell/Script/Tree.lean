import LineShell.Machine.Behaviour

/-! Scripts as trees: commands, words, and the signs that words are made of. -/

namespace LineShell.Script

/-- What is done with the value of a parameter. -/
inductive Change
  | keep
  | length
  /-- Takes a word instead of a value that is missing. -/
  | otherwise
  /-- Takes a word instead of a value that is missing, and makes it the value. -/
  | assign
  /-- Fails with a word as the message if the value is missing. -/
  | demand
  /-- Takes a word instead of a value that is there. -/
  | instead
  /-- Cuts off the shortest or longest match of a pattern at the start or the end. -/
  | cut (atEnd longest : Bool)
  /-- What is written cannot be done. -/
  | malformed
  deriving DecidableEq, Repr, Inhabited

mutual

/-- A sign of a word. -/
inductive Sign where
  /-- A byte with the meaning it has where nothing is quoted. -/
  | plain (byte : UInt8)
  /-- A byte that stands for itself. -/
  | literal (byte : UInt8)
  /-- The start or the end of a quoted part. -/
  | quote
  /-- A parameter; `orEmpty` says that an empty value counts as missing. -/
  | parameter (name : Bytes) (change : Change) (orEmpty : Bool) (word : List Sign)
  | arithmetic (expression : List Sign)
  /-- The output of a command. -/
  | output (body : Command)

/-- What is done to a descriptor before a command runs. -/
inductive Redirect where
  /-- Opens a file; `careful` says that an existing one may have to be kept. -/
  | file (descriptor : Nat) (manner : Manner) (careful : Bool) (target : List Sign)
  /-- Makes a descriptor the copy of another one. -/
  | copy (descriptor : Nat) (target : List Sign)
  /-- Gives a text of the script to read, by the number of the text. -/
  | inline (descriptor document : Nat)

/-- A command. -/
inductive Command where
  | nothing
  | simple (line : Nat) (assignments words : List (List Sign)) (redirects : List Redirect)
  | pipeline (commands : List Command) (background : Bool)
  | invert (command : Command)
  | both (first second : Command)
  | either (first second : Command)
  | sequence (first second : Command)
  | background (line : Nat) (body : Command) (redirects : List Redirect)
  | subshell (line : Nat) (body : Command) (redirects : List Redirect)
  | redirected (line : Nat) (body : Command) (redirects : List Redirect)
  | choice (condition consequence alternative : Command)
  /-- Runs the body as long as the condition succeeds, or fails if `inverted`. -/
  | repetition (inverted : Bool) (condition body : Command)
  | each (line : Nat) (name : Bytes) (words : List (List Sign)) (body : Command)
  | select (line : Nat) (word : List Sign) (branches : List (List (List Sign) × Command))
  | define (name : Bytes) (body : Command)

end

/-- A word of a script. -/
abbrev Word := List Sign

instance : Inhabited Command := ⟨.nothing⟩

instance : Inhabited Sign := ⟨.quote⟩

instance : Inhabited Redirect := ⟨.copy 0 []⟩

/-- A text that stands in a script behind the line of the command that reads it. -/
structure Document where
  content : Word
  /-- What looks like a parameter or a command in the text is one. -/
  expanded : Bool
  deriving Inhabited

namespace Word

/-- The bytes of a word without any sign that is more than a byte outside of quotes. -/
def text? : Word → Option Bytes
  | [] => some []
  | .plain byte :: rest => (text? rest).map (byte :: ·)
  | _ => none

/-- The word of a text without quotes. -/
def ofText (text : Bytes) : Word :=
  text.map .plain

/-- A word of a text without quotes is read back as the text. -/
@[simp] theorem text?_ofText (text : Bytes) : text? (ofText text) = some text := by
  induction text with
  | nil => rfl
  | cons byte rest ih =>
    show (text? (ofText rest)).map (byte :: ·) = some (byte :: rest)
    rw [ih]
    rfl

end Word

end LineShell.Script
