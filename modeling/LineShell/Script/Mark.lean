import LineShell.Script.Symbol

/-! Marks: a word as a row of bytes and of starts and ends of what lies in it, and how the row
becomes a word. -/

namespace LineShell.Script

/-- A mark. -/
inductive Mark
  | plain (byte : UInt8)
  | literal (byte : UInt8)
  | quote
  /-- A parameter with nothing behind its name. -/
  | parameter (name : Bytes)
  /-- A parameter with a word behind its name, which goes on up to an end. -/
  | start (name : Bytes) (change : Change) (orEmpty : Bool)
  /-- The end of the word behind a name. -/
  | stop
  | expression
  | endExpression
  | output (body : Command)

instance : Inhabited Mark := ⟨.quote⟩

namespace Mark

/-- What a row of marks that is still open has been begun by. -/
inductive Frame
  | parameter (name : Bytes) (change : Change) (orEmpty : Bool) (before : Word)
  | expression (before : Word)

/-- Adds a mark to a word in reverse order and to the frames around it. -/
def place (state : Word × List Frame) (mark : Mark) : Word × List Frame :=
  let (word, frames) := state
  match mark, frames with
  | .plain byte, _ => (.plain byte :: word, frames)
  | .literal byte, _ => (.literal byte :: word, frames)
  | .quote, _ => (.quote :: word, frames)
  | .parameter name, _ => (.parameter name .keep false [] :: word, frames)
  | .output body, _ => (.output body :: word, frames)
  | .start name change orEmpty, _ => ([], .parameter name change orEmpty word :: frames)
  | .expression, _ => ([], .expression word :: frames)
  | .stop, .parameter name change orEmpty before :: frames =>
    (.parameter name change orEmpty word.reverse :: before, frames)
  | .endExpression, .expression before :: frames => (.arithmetic word.reverse :: before, frames)
  | .stop, _ | .endExpression, _ => state

/-- The word that a row of marks stands for. -/
def toWord (marks : List Mark) : Word :=
  (marks.foldl place ([], [])).1.reverse

/-- A row of plain bytes stands for the word of the bytes. -/
theorem toWord_map_plain (text : Bytes) : toWord (text.map .plain) = Word.ofText text := by
  have walk : ∀ (text : Bytes) (word : Word),
      (text.map Mark.plain).foldl place (word, []) = ((text.map Sign.plain).reverse ++ word, []) := by
    intro text
    induction text with
    | nil => intro word; rfl
    | cons byte rest ih =>
      intro word
      simp only [List.map_cons, List.foldl_cons]
      rw [show place (word, []) (.plain byte) = (.plain byte :: word, []) from rfl, ih]
      simp
  simp [toWord, walk, Word.ofText]

end Mark

namespace Word

/-- The bytes of a word that has no parameters and commands in it, without its quotes. -/
def unquoted (word : Word) : Bytes :=
  word.filterMap fun
    | .plain byte | .literal byte => some byte
    | _ => none

/-- Whether a word is a name with an equals sign behind it, whatever follows. -/
def isAssignment (word : Word) : Bool :=
  let start := word.map fun
    | .plain byte => byte
    | _ => 0
  Script.isAssignment start

end Word

end LineShell.Script
