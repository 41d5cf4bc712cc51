import LineShell.Script.Grammar

/-! Sentences: the commands that a script is read as, one line or more at a time. -/

namespace LineShell.Script

/-- What reading one sentence comes to. -/
inductive Sentence
  /-- More of the script has to be known. -/
  | starved
  | fault (line : Nat) (message : String)
  /-- There is nothing more in the script. -/
  | ending
  /-- A command; nothing follows it if it is the `last`. -/
  | command (body : Command) (last : Bool)
  deriving Inhabited

namespace Sentence

/-- The depth that is enough for every script. -/
def depth : Nat := 1000000000000

/-- Reads a sentence, and gives the state in which the next one is read. -/
def read (state : ReaderState) : Sentence × ReaderState :=
  let start := { state with
    watch := {}, symbol := .ending, returned := false, announced := [], documents := [] }
  match (Reader.listFrom depth false false none).run start with
  | (.error .starved, after) => (.starved, after)
  | (.error (.fault line message), after) => (.fault line message, after)
  | (.ok none, after) => (.ending, after)
  | (.ok (some body), after) =>
    (.command body (after.returned && after.symbol = .ending), after)

/-- The word that a text as a whole stands for, with the parameters and commands in it. -/
def wholeText (state : ReaderState) (text : Bytes) : Option Word :=
  -- No line of the text is a zero byte.
  let announcement : Announcement := { number := 0, mark := [0], stripped := false, expanded := true }
  let start := { state with source := .ofText text }
  match (Reader.readDocument (Reader.enclosed depth) (Reader.quotedCommand depth)
    announcement).run start with
  | (.ok (), after) => some after.word
  | _ => none

end Sentence

end LineShell.Script
