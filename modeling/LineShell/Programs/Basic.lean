import LineShell.Machine.Behaviour
import LineShell.Text.Decimal

/-! What the programs of the machine have in common: options, messages and output. -/

namespace LineShell

/-- The bytes of a fixed text. -/
def bytes (text : String) : Bytes :=
  Utf8.ofString text

/-- A text with one character for each byte, for comparing with fixed texts. -/
def plain (data : Bytes) : String :=
  String.ofList (data.map fun byte => Char.ofNat byte.toNat)

namespace Programs

/-- Which of two sets of rules applies to something that a script can do by itself. -/
inductive Style
  /-- The rules of a command of a script. -/
  | command
  /-- The rules of a program. -/
  | program
  deriving DecidableEq, Repr, Inhabited

/-- What a program is started with. -/
structure Invocation where
  name : Bytes
  arguments : List Bytes
  environment : Environment
  deriving Inhabited

/-- A program given by what it does and the exit code it ends with. -/
abbrev Work := Invocation → Task UInt8

/-- The program that does some work. -/
def Work.toProgram (work : Work) : Program := fun arguments environment =>
  Task.toBehaviour (work { name := arguments.headD [], arguments := arguments.drop 1, environment })

/-- Shows a message of a program on its error stream. -/
def complain (invocation : Invocation) (message : Bytes) : Task Unit := do
  discard (Task.writeAll 2 (invocation.name ++ bytes ": " ++ message ++ [10]))

/-- Writes the output of a program and gives its exit code, which is another one if that fails. -/
def output (invocation : Invocation) (data : Bytes) (code : UInt8) (failure : UInt8 := 1) :
    Task UInt8 := do
  match ← Task.writeAll 1 data with
  | .ok () => pure code
  | .error number =>
    complain invocation (bytes ("write error: " ++ number.text))
    pure failure

/-- Says that some output was lost before, and gives the exit code. -/
def lostOutput (invocation : Invocation) (failure : UInt8 := 1) : Task UInt8 := do
  let cause := match ← Task.request (.close 1) with
    | .ok () => ""
    | .error cause => ": " ++ cause.text
  complain invocation (bytes ("write error" ++ cause))
  pure failure

/-- How many bytes of output a program collects before it writes them. -/
def bufferLength : Nat := 4096

/-- Opens a file, or takes the standard input for a single dash, and hands the descriptor on. -/
def withInput {α : Type} (path : Bytes) (failed : Errno → Task α) (use : Nat → Task α) :
    Task α := do
  if path = bytes "-" then use 0
  else
    match ← Task.request (.openFile path .reading 0o666) with
    | .error number => failed number
    | .ok descriptor =>
      let result ← use descriptor
      discard (Task.request (.close descriptor))
      pure result

/-- Splits bytes at each occurrence of one byte. -/
def splitAt (separator : UInt8) (data : Bytes) : List Bytes :=
  data.foldr (fun byte parts =>
    if byte = separator then [] :: parts else parts.modifyHead (byte :: ·)) [[]]

/-- The lines of some bytes, each without the byte that ends it; a last line without one counts
too. -/
def linesOf (ending : UInt8) (data : Bytes) : List Bytes :=
  let parts := splitAt ending data
  if parts.getLast? = some [] then parts.dropLast else parts

/-- Whether a byte separates words. -/
def isGap (byte : UInt8) : Bool :=
  byte == 32 || (9 ≤ byte && byte ≤ 13)

/-- Lines with a byte behind each. -/
def joinLines (lines : List Bytes) (ending : UInt8 := 10) : Bytes :=
  (lines.map (· ++ [ending])).flatten

/-- Words with a blank between them. -/
def joinWords (words : List Bytes) : Bytes :=
  (words.intersperse [32]).flatten

/-- The number that decimal digits stand for. -/
def number? (data : Bytes) : Option Nat :=
  Text.natural? (plain data).toList

/-- The sum of some numbers. -/
def total (counts : List Nat) : Nat :=
  counts.foldl (· + ·) 0

/-- A number in decimal. -/
def digits (n : Nat) : Bytes :=
  bytes (Text.decimal n)

end Programs

end LineShell
