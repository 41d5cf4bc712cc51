import LineShell.Text.Utf8

/-! Sources: the text of a script as it is read, with the texts that are put into it. -/

namespace LineShell.Script

/-- A text that is read before the rest of the source. -/
structure Insertion where
  rest : Bytes
  /-- The word that the text stands for, if it stands for one. -/
  alias? : Option Bytes := none
  /-- The text ends in a blank, so that the next word may stand for another text. -/
  opensNext : Bool := false
  /-- What has been read and given back before the text was put in. -/
  returned : List (Option UInt8) := []
  /-- The words that may not yet stand for a text again. -/
  resting : List Bytes := []
  deriving DecidableEq, Repr, Inhabited

/-- A source. -/
structure Source where
  /-- What is left of the line that is being read. -/
  current : Bytes := []
  /-- What comes after that line, as far as it is known. -/
  ahead : Bytes := []
  /-- Whether nothing comes after what is known. -/
  complete : Bool := true
  /-- The number of the line. -/
  line : Nat := 1
  /-- The lines that have been begun, the last one first. -/
  begun : List Bytes := []
  /-- The texts put into the source, the one to be read first in front. -/
  insertions : List Insertion := []
  /-- What has been read and given back, the last in front; there is no byte at the end. -/
  returned : List (Option UInt8) := []
  /-- The words whose texts have just been read to their ends. -/
  resting : List Bytes := []
  deriving DecidableEq, Repr, Inhabited

namespace Source

/-- The source of a text that is known as a whole. -/
def ofText (text : Bytes) : Source :=
  { current := text }

/-- The source of a file of which nothing is known yet. -/
def ofFile : Source :=
  { complete := false }

/-- The source with more of its text known; nothing more shows that there is no more. -/
def extend (source : Source) (block : Bytes) : Source :=
  if block.isEmpty then { source with complete := true }
  else { source with ahead := source.ahead ++ block.filter (· != 0) }

/-- Gives back the last byte that was read, or the end. -/
def unread (source : Source) (byte : Option UInt8) : Source :=
  { source with returned := byte :: source.returned }

/-- Puts a text in front of what is left. -/
def insert (source : Source) (text : Bytes) (alias? : Option Bytes) : Source :=
  let entry : Insertion := {
    rest := text
    alias?
    opensNext := alias?.isSome && (text.getLast? = some 32 || text.getLast? = some 9)
    returned := source.returned
    resting := source.resting }
  { source with insertions := entry :: source.insertions, returned := [], resting := [] }

/-- Whether a word may not stand for a text, because the text is being read. -/
def isUsed (source : Source) (word : Bytes) : Bool :=
  source.resting.contains word ||
    source.insertions.any fun entry => entry.alias? = some word || entry.resting.contains word

/-- What reading one byte comes to. -/
inductive Outcome
  /-- More of the text has to be known. -/
  | starved
  /-- A byte, or the end. `opened` says that a text has been left that lets the next word stand
  for another one. -/
  | read (byte : Option UInt8) (source : Source) (opened : Bool)
  deriving DecidableEq, Repr, Inhabited

/-- Reads from the lines of the source. -/
def nextOfLine (source : Source) (opened : Bool) : Outcome :=
  match source.current with
  | byte :: rest => .read (some byte) { source with current := rest } opened
  | [] =>
    match source.ahead with
    | [] => if source.complete then .read none source opened else .starved
    | byte :: rest =>
      let line := (byte :: rest).takeWhile (· != 10)
      let line := line ++ ((byte :: rest).drop line.length).take 1
      .read line.head? { source with
        current := line.drop 1
        ahead := (byte :: rest).drop line.length
        begun := line :: source.begun } opened

/-- Reads from the texts put into a source, and then from its lines. -/
def nextWithin (source : Source) (opened : Bool) : List Insertion → Outcome
  | [] => nextOfLine { source with insertions := [] } opened
  | entry :: others =>
    match entry.rest with
    | byte :: rest =>
      .read (some byte) { source with insertions := { entry with rest } :: others } opened
    | [] =>
      let resting := entry.alias?.toList ++ entry.resting ++ source.resting
      let opened := opened || entry.opensNext
      match entry.returned with
      | byte :: returned =>
        .read byte { source with insertions := others, returned, resting } opened
      | [] => nextWithin { source with resting } opened others

/-- Reads one byte. -/
def next (source : Source) : Outcome :=
  match source.returned with
  | byte :: returned => .read byte { source with returned } false
  | [] => nextWithin { source with resting := [] } false source.insertions

/-- What has been given back is read next. -/
@[simp] theorem next_unread (source : Source) (byte : Option UInt8) :
    (source.unread byte).next = .read byte source false := by
  cases source
  rfl

end Source

end LineShell.Script
