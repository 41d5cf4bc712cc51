/-! Wait statuses: how a process ended, in the one word the system gives for it. -/

namespace LineShell

/-- The word that tells how a process ended. -/
structure WaitStatus where
  raw : UInt32
  deriving DecidableEq, Repr, Inhabited

namespace WaitStatus

/-- The status of a process that ended by itself. -/
def ofCode (code : UInt8) : WaitStatus :=
  ⟨code.toUInt32 <<< 8⟩

/-- The status of a process that a signal ended. -/
def ofSignal (signal : Nat) : WaitStatus :=
  ⟨UInt32.ofNat (signal % 128)⟩

/-- The signal part of a status; zero for a process that ended by itself. -/
def signalPart (status : WaitStatus) : Nat :=
  (status.raw &&& 0x7F).toNat

/-- The exit code of a process that ended by itself. -/
def code? (status : WaitStatus) : Option Nat :=
  if status.signalPart = 0 then some ((status.raw >>> 8) &&& 0xFF).toNat else none

/-- The signal that ended a process. -/
def signal? (status : WaitStatus) : Option Nat :=
  -- The largest value marks a process that has only stopped.
  if status.signalPart = 0 || status.signalPart = 0x7F then none else some status.signalPart

/-- The exit code of a process, or -1 if it did not end by itself. -/
def exitCode (status : WaitStatus) : Int :=
  match status.code? with
  | some code => code
  | none => -1

end WaitStatus

end LineShell
