import LineShell.Pipeline.Plan
import LineShell.Token.Written

/-! Phrases: commands as they are typed, with their arguments and their files, and the line that is
typed for them. -/

namespace LineShell

/-- Whether a word stands for itself wherever it is typed: a line can hold it, and it does not open
with an operator. -/
def Token.isPlain (word : String) : Bool :=
  isWritable word && !opensWithOperator word

/-- What is typed behind a command name. A path may open with an operator, since it is typed right
behind one. -/
inductive Phrase.Part
  | argument (word : String) (plain : Token.isPlain word = true)
  | input (path : String) (writable : Token.isWritable path = true)
  | output (path : String) (writable : Token.isWritable path = true)

/-- A command as it is typed, with its files anywhere behind its name. -/
structure Phrase where
  name : String
  parts : List Phrase.Part := []
  plain : Token.isPlain name = true := by decide

namespace Phrase

namespace Part

/-- A part as it is typed. -/
def text : Part → String
  | .argument word _ => word
  | .input path _ => Operator.input.text ++ path
  | .output path _ => Operator.output.text ++ path

/-- The word of an argument. -/
def argument? : Part → Option String
  | .argument word _ => some word
  | _ => none

/-- The path of a file to read. -/
def input? : Part → Option String
  | .input path _ => some path
  | _ => none

/-- The path of a file to write. -/
def output? : Part → Option String
  | .output path _ => some path
  | _ => none

/-- What a part reads as. -/
def item : Part → Item
  | .argument word _ => .argument word
  | .input path _ => .input (.word path)
  | .output path _ => .output (.word path)

end Part

/-- The arguments behind the name. -/
def arguments (phrase : Phrase) : List String :=
  phrase.parts.filterMap Part.argument?

/-- The file that is read; of several, the last one. -/
def input? (phrase : Phrase) : Option String :=
  (phrase.parts.filterMap Part.input?).getLast?

/-- The file that is written; of several, the last one. -/
def output? (phrase : Phrase) : Option String :=
  (phrase.parts.filterMap Part.output?).getLast?

/-- The words of a phrase as it is typed. -/
def words (phrase : Phrase) : List String :=
  phrase.name :: phrase.parts.map Part.text

/-- A phrase as it is typed. -/
def text (phrase : Phrase) : String :=
  " ".intercalate phrase.words

/-- The line that is typed for some phrases. -/
def line (phrases : List Phrase) : String :=
  " | ".intercalate (phrases.map text)

/-- What a phrase reads as, with the end of its stage. -/
def reading (phrase : Phrase) (closing : Closing) : Reading where
  command := .word phrase.name
  items := phrase.parts.map Part.item
  closing := closing

/-- What a phrase asks for: its command, and its files from left to right. -/
def actions (phrase : Phrase) : List Action :=
  .lookup phrase.name :: phrase.parts.filterMap (·.item.action?)

/-- What some phrases read as: a pipe ends each of them but the last. -/
def readings : List Phrase → List Reading
  | [] => []
  | [last] => [last.reading .finish]
  | phrase :: next :: rest => phrase.reading .pipe :: readings (next :: rest)

end Phrase

end LineShell
