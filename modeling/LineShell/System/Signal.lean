import LineShell.Text.Decimal

/-! Signals: their numbers, their names, and what is said about a process that one has ended. -/

namespace LineShell.Signal

/-- The signals that have a name, from number one on, with their descriptions; a number without a
name of its own stands for itself. -/
def named : List (String × String) :=
  [("HUP", "Hangup"), ("INT", "Interrupt"), ("QUIT", "Quit"), ("ILL", "Illegal instruction"),
    ("TRAP", "Trace/breakpoint trap"), ("ABRT", "Aborted"), ("BUS", "Bus error"),
    ("FPE", "Floating point exception"), ("KILL", "Killed"), ("USR1", "User defined signal 1"),
    ("SEGV", "Segmentation fault"), ("USR2", "User defined signal 2"), ("PIPE", "Broken pipe"),
    ("ALRM", "Alarm clock"), ("TERM", "Terminated"), ("16", "Stack fault"),
    ("CHLD", "Child exited"), ("CONT", "Continued"), ("STOP", "Stopped (signal)"),
    ("TSTP", "Stopped"), ("TTIN", "Stopped (tty input)"), ("TTOU", "Stopped (tty output)"),
    ("URG", "Urgent I/O condition"), ("XCPU", "CPU time limit exceeded"),
    ("XFSZ", "File size limit exceeded"), ("VTALRM", "Virtual timer expired"),
    ("PROF", "Profiling timer expired"), ("WINCH", "Window changed"), ("IO", "I/O possible"),
    ("PWR", "Power failure"), ("SYS", "Bad system call")]

/-- The largest number of a signal. -/
def last : Nat := 64

/-- The first of the signals that are counted from both ends. -/
def firstCounted : Nat := 34

/-- The name of a signal. -/
def name (number : Nat) : String :=
  let count := fun (offset : Nat) => Text.decimal offset
  match named[number - 1]? with
  | some (name, _) => if number = 0 then "EXIT" else name
  | none =>
    if number < firstCounted then count number
    else if number = firstCounted then "RTMIN"
    else if number < 50 then "RTMIN+" ++ count (number - firstCounted)
    else if number < last then "RTMAX-" ++ count (last - number)
    else "RTMAX"

/-- What is said about a process that a signal has ended. -/
def description (number : Nat) : String :=
  match named[number - 1]? with
  | some (_, text) => text
  | none => "Real-time signal " ++ Text.decimal ((number : Int) - firstCounted)

/-- The signal that has a name, whatever the case of its letters, among those from a least one
on. -/
def ofName? (least : Nat) (text : String) : Option Nat :=
  let upper := text.map Char.toUpper
  (List.range (last + 1)).find? fun number => least ≤ number && name number = upper

end LineShell.Signal
