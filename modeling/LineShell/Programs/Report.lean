import LineShell.Programs.Usage

/-! Reports: what a program has come to that goes through its operands one after the other. -/

namespace LineShell.Programs

/-- What a program has come to. -/
structure Report where
  code : UInt8 := 0
  /-- The lines that are shown in the end, the last first. -/
  lines : List Bytes := []
  /-- What has been read behind the last answer to a question. -/
  unread : Bytes := []
  /-- The number of parts that have a title of their own. -/
  parts : Nat := 0
  /-- Some lines could not be shown. -/
  lost : Bool := false
  deriving DecidableEq, Repr, Inhabited

/-- A task that is reported on. -/
abbrev Reported (α : Type) := StateT Report Task α

namespace Reported

/-- A request to the system. -/
def request (request : Request) : Reported request.Reply :=
  Task.request request

/-- A line that is shown in the end, or before something is said about what went wrong. -/
def say (line : Bytes) : Reported Unit :=
  modify fun report => { report with lines := (line ++ [10]) :: report.lines }

/-- Shows a message behind the lines that are to be shown. -/
def warn (invocation : Invocation) (message : Bytes) : Reported Unit := do
  let report ← get
  let result ← Task.writeAll 1 report.lines.reverse.flatten
  set { report with lines := [], lost := report.lost || !result.isOk }
  complain invocation message

/-- Says what went wrong, which the exit code tells too. -/
def fail (invocation : Invocation) (message : Bytes) : Reported Unit := do
  warn invocation message
  modify fun report => { report with code := 1 }

/-- Says what could not be done with a file, and why. -/
def failWith (invocation : Invocation) (deed : String) (path : Bytes) (cause : Errno) :
    Reported Unit :=
  fail invocation (bytes (deed ++ " ") ++ quoteName path ++ bytes (": " ++ cause.text))

/-- Reads until a line is complete, and gives the line and what comes after it. -/
def readLine (unread : Bytes) : Task (Bytes × Bytes) :=
  Task.iterate unread fun data => do
    let line := data.takeWhile (· ≠ 10)
    if line.length < data.length then pure (.inr (line, data.drop (line.length + 1)))
    else match ← Task.request (.read 0 4096) with
      | .ok (byte :: rest) => pure (.inl (data ++ byte :: rest))
      | _ => pure (.inr (data, []))

/-- Asks a question, and tells whether the answer is yes. -/
def ask (invocation : Invocation) (question : Bytes) : Reported Bool := do
  discard (Task.writeAll 2 (invocation.name ++ bytes ": " ++ question ++ bytes "? "))
  let (line, unread) ← readLine (← get).unread
  modify fun report => { report with unread }
  pure (line.head? = some 121 || line.head? = some 89)

/-- Shows what is left to be shown, and gives the exit code. -/
def finish (invocation : Invocation) (work : Reported Unit) (failure : UInt8 := 1) :
    Task UInt8 := do
  let (_, report) ← work.run {}
  if !report.unread.isEmpty then
    discard (Task.request (.seek 0 .current (-report.unread.length)))
  if report.lost then lostOutput invocation failure
  else output invocation report.lines.reverse.flatten report.code failure

end Reported

end LineShell.Programs
