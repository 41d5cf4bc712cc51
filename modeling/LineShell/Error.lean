import LineShell.System.Errno
import LineShell.Text.Quoted
import LineShell.Token

/-! Errors: why a command cannot be found and why a line cannot be run. -/

namespace LineShell

/-- Why a name does not lead to a program. -/
inductive LookupError
  /-- No directory of the search path holds a program of this name. -/
  | notFound (name : String)
  | isDirectory (path : String)
  /-- No one may execute the file. -/
  | notExecutable (path : String)
  /-- The file cannot be examined. -/
  | unreadable (path : String) (cause : IoError)
  deriving DecidableEq, Repr, Inhabited

namespace LookupError

/-- The text of the error; only a name that was searched for is quoted. -/
def message : LookupError → String
  | .notFound name => Text.quoteString name ++ ": executable file not found in $PATH"
  | .isDirectory path => path ++ ": is a directory"
  | .notExecutable path => path ++ ": permission denied"
  | .unreadable path cause => path ++ ": " ++ cause.message

/-- The texts of the errors behind an error, nearest first. -/
def causes : LookupError → List String
  | .unreadable _ cause => [cause.message]
  | _ => []

end LookupError

/-- Why a line was given up. -/
inductive LineError
  | lookup (error : LookupError)
  | redirectInput (path : String) (cause : IoError)
  | redirectOutput (path : String) (cause : IoError)
  | pipe (cause : IoError)
  | spawn (program : String) (cause : IoError)
  | wait (cause : IoError)
  /-- The operator is the last token. -/
  | missingOperand (operator : Operator)
  deriving DecidableEq, Repr, Inhabited

namespace LineError

/-- The words every message of one kind begins with: what was being done. -/
def phase : LineError → String
  | .lookup _ => "Resolving binary: "
  | .redirectInput .. => "Redirecting stdin: "
  | .redirectOutput .. => "Redirecting stdout: "
  | .pipe _ => "Creating pipe: "
  | .spawn .. => "Forking process: "
  | .wait _ => "Reaping process: "
  | .missingOperand _ => "Missing operand: "

/-- What follows the phase in a message. -/
def detail : LineError → String
  | .lookup error => error.message
  | .redirectInput path cause => path ++ ": " ++ cause.message
  | .redirectOutput path cause => path ++ ": " ++ cause.message
  | .pipe cause => cause.message
  | .spawn program cause => program ++ ": " ++ cause.message
  | .wait cause => cause.message
  | .missingOperand operator => "`" ++ operator.text ++ "` needs a following word"

/-- The text of the error. -/
def message (error : LineError) : String :=
  error.phase ++ error.detail

/-- The texts of the errors behind an error, nearest first. -/
def causes : LineError → List String
  | .lookup error => error.message :: error.causes
  | .redirectInput _ cause | .redirectOutput _ cause | .pipe cause | .spawn _ cause
  | .wait cause => [cause.message]
  | .missingOperand _ => []

end LineError

end LineShell
