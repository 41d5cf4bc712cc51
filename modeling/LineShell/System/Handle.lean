/-! Handles: the ends by which a process reaches an open file or a pipe. -/

namespace LineShell

/-- One end of something open. -/
inductive Handle
  /-- An open file, by the number of its opening. -/
  | file (opening : Nat)
  /-- The end of a pipe that is read. -/
  | reader (pipe : Nat)
  /-- The end of a pipe that is written. -/
  | writer (pipe : Nat)
  /-- Both ends of a pipe in one. -/
  | both (pipe : Nat)
  deriving DecidableEq, Repr, Inhabited

namespace Handle

/-- Whether a pipe can be read by a handle. -/
def reads (handle : Handle) (pipe : Nat) : Bool :=
  handle = .reader pipe || handle = .both pipe

/-- Whether a pipe can be written by a handle. -/
def writes (handle : Handle) (pipe : Nat) : Bool :=
  handle = .writer pipe || handle = .both pipe

/-- The pipe that a handle reaches. -/
def pipe? : Handle → Option Nat
  | .file _ => none
  | .reader pipe | .writer pipe | .both pipe => some pipe

end Handle

end LineShell
