import LineShell.Script.Name
import LineShell.Script.Source
import LineShell.Script.Tree

/-! Symbols: the smallest parts of a script that mean something, and the state of their reader. -/

namespace LineShell.Script

/-- The words that give a script its structure. -/
inductive Keyword
  | not
  | case
  | do
  | done
  | elif
  | else
  | esac
  | fi
  | for
  | if
  | in
  | then
  | until
  | while
  | opening
  | closing
  deriving DecidableEq, Repr, Inhabited

/-- The keywords as they are written. -/
def keywords : List (String × Keyword) :=
  [("!", .not), ("case", .case), ("do", .do), ("done", .done), ("elif", .elif), ("else", .else),
    ("esac", .esac), ("fi", .fi), ("for", .for), ("if", .if), ("in", .in), ("then", .then),
    ("until", .until), ("while", .while), ("\x7b", .opening), ("\x7d", .closing)]

/-- How a keyword is written. -/
def Keyword.text (keyword : Keyword) : String :=
  ((keywords.find? fun entry => entry.2 = keyword).map (·.1)).getD ""

/-- A symbol. -/
inductive Symbol
  | ending
  | newline
  | semicolon
  | background
  | and
  | or
  | pipe
  | opening
  | closing
  | endCase
  | redirect
  | word
  | keyword (keyword : Keyword)
  deriving DecidableEq, Repr, Inhabited

namespace Symbol

/-- How a symbol is named in a message. -/
def name : Symbol → String
  | ending => "end of file"
  | newline => "newline"
  | semicolon => "\";\""
  | background => "\"&\""
  | and => "\"&&\""
  | or => "\"||\""
  | pipe => "\"|\""
  | opening => "\"(\""
  | closing => "\")\""
  | endCase => "\";;\""
  | redirect => "redirection"
  | word => "word"
  | keyword found => "\"" ++ found.text ++ "\""

/-- Whether a list of commands can end before the symbol. -/
def endsList : Symbol → Bool
  | ending | closing | endCase => true
  | keyword found => [.do, .done, .elif, .else, .esac, .fi, .then, .closing].contains found
  | _ => false

end Symbol

/-- What the reader of a symbol looks out for beside the symbol itself. -/
structure Watch where
  /-- Leaves out the ends of lines before it. -/
  newlines : Bool := false
  keywords : Bool := false
  aliases : Bool := false
  /-- Takes dollar signs and backquotes for what they are, as in the mark that ends a text. -/
  mark : Bool := false
  deriving DecidableEq, Repr, Inhabited

/-- A text that has been announced and still has to be read. -/
structure Announcement where
  number : Nat
  /-- The line that ends the text. -/
  mark : Bytes
  /-- Leaves out the tabs in front of each line. -/
  stripped : Bool
  expanded : Bool
  deriving DecidableEq, Repr, Inhabited

/-- What kind of redirection has been read, before the word that belongs to it. -/
inductive Redirection
  | file (manner : Manner) (careful : Bool)
  | copy
  | inline (stripped : Bool)
  deriving DecidableEq, Repr, Inhabited

/-- Why the reader of a script stops. -/
inductive Stop
  /-- More of the script has to be known. -/
  | starved
  | fault (line : Nat) (message : String)
  deriving DecidableEq, Repr, Inhabited

/-- The state of the reader of a script. -/
structure ReaderState where
  source : Source
  /-- The words that stand for texts. -/
  aliases : List (Bytes × Bytes) := []
  watch : Watch := {}
  symbol : Symbol := .ending
  /-- The symbol counts as not read. -/
  returned : Bool := false
  /-- The word that has been read last. -/
  word : Word := []
  /-- Something in that word is quoted. -/
  quoted : Bool := false
  /-- The redirection that has been read last, with its descriptor. -/
  redirection : Nat × Redirection := (0, .copy)
  announced : List Announcement := []
  /-- The texts that have been read. -/
  documents : List (Nat × Document) := []
  nextDocument : Nat := 0
  deriving Inhabited

/-- A part of the reader of a script. -/
abbrev Reader := ExceptT Stop (StateM ReaderState)

namespace Reader

/-- Fails at the place that has been reached. -/
def fail {α : Type} (message : String) : Reader α := do
  throw (.fault (← get).source.line ("Syntax error: " ++ message))

/-- Fails because of the last symbol, where another one may have been expected. -/
def unexpected {α : Type} (expected : Option Symbol) : Reader α := do
  let hint := match expected with
    | some symbol => " (expecting " ++ symbol.name ++ ")"
    | none => ""
  fail ((← get).symbol.name ++ " unexpected" ++ hint)

/-- Reads one byte; there is none at the end. -/
def byte : Reader (Option UInt8) := do
  match (← get).source.next with
  | .starved => throw .starved
  | .read byte source opened =>
    modify fun state => { state with
      source
      watch := { state.watch with aliases := state.watch.aliases || opened } }
    return byte

/-- Gives back a byte. -/
def unread (byte : Option UInt8) : Reader Unit :=
  modify fun state => { state with source := state.source.unread byte }

/-- Counts the end of a line. -/
def countLine : Reader Unit :=
  modify fun state => { state with
    source := { state.source with line := state.source.line + 1 } }

/-- The most bytes that one part of the reader goes through. -/
def mostBytes : Nat := 1000000000000

/-- Reads one byte behind line ends with a backslash before them, which join lines. -/
def joinedByte : Nat → Reader (Option UInt8)
  | 0 => return none
  | bound + 1 => do
    match ← byte with
    | some 92 =>
      match ← byte with
      | some 10 =>
        countLine
        joinedByte bound
      | other =>
        unread other
        return some 92
    | other => return other

/-- Reads one byte of a script in which lines can be joined. -/
def joined : Reader (Option UInt8) :=
  joinedByte mostBytes

end Reader

end LineShell.Script
