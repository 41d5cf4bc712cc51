import LineShell.Programs.Control
import LineShell.Programs.Counting
import LineShell.Programs.Directories
import LineShell.Programs.Display
import LineShell.Programs.Exchange
import LineShell.Programs.Lines
import LineShell.Programs.Links
import LineShell.Programs.Listing
import LineShell.Programs.Permissions
import LineShell.Programs.Portions
import LineShell.Programs.Removal
import LineShell.Programs.Sequence
import LineShell.Programs.Sort
import LineShell.Programs.Test
import LineShell.Programs.Times
import LineShell.Script.Program

/-! The catalog of the programs that the machine comes with. -/

namespace LineShell.Programs

/-- The programs by name. -/
def catalog : List (String × Work) := [
  ("[", bracket), ("basename", basename), ("cat", cat), ("chmod", chmod), ("cp", cp),
  ("dash", Script.program), ("dirname", dirname), ("echo", echo), ("env", env),
  ("false", fun _ => pure 1), ("head", head), ("ln", ln), ("ls", ls), ("mkdir", mkdir),
  ("mkfifo", mkfifo), ("mv", mv), ("printenv", printenv), ("printf", printf), ("pwd", pwd),
  ("rev", rev), ("rm", rm), ("rmdir", rmdir), ("seq", seq), ("sh", Script.program),
  ("sleep", sleep), ("sort", sort), ("tac", tac), ("tail", tail), ("tee", tee), ("test", test),
  ("touch", touch), ("tr", tr), ("true", fun _ => pure 0), ("uniq", uniq), ("wc", wc),
  ("yes", yes)]

/-- The bytes that the file of every program of the catalog begins with. -/
def mark : Bytes :=
  [0x7F, 0x45, 0x4C, 0x46]

/-- The file of a program. -/
def imageOf (name : String) : Bytes :=
  mark ++ bytes name

/-- What a file does that is not a script: only files of the catalog can be executed. -/
def image (content : Bytes) : Option Program :=
  (catalog.find? fun entry => imageOf entry.1 = content).map (·.2.toProgram)

end LineShell.Programs
