import LineShell.System.Errno
import LineShell.Text.Utf8

/-! Writers: places that take bytes, perhaps a few at a time. -/

namespace LineShell

/-- The two operations of a writer: the first takes some of the bytes and tells how many. -/
structure Writer (m : Type → Type) where
  write : Bytes → m (Except IoError Nat)
  flush : m (Except IoError Unit)

namespace Writer

variable {m : Type → Type} [Monad m]

/-- Writes what is left again and again; each attempt takes a byte or is the last. -/
def writeRest (writer : Writer m) : Nat → Bytes → m (Except IoError Unit)
  | _, [] => pure (.ok ())
  | 0, _ :: _ => pure (.ok ())
  | attempts + 1, data@(_ :: _) => do
    match ← writer.write data with
    | .error cause => pure (.error cause)
    | .ok 0 => pure (.error .writeZero)
    | .ok taken => writeRest writer attempts (data.drop taken)

/-- Writes all the bytes or fails. -/
def writeAll (writer : Writer m) (data : Bytes) : m (Except IoError Unit) :=
  writeRest writer data.length data

end Writer

end LineShell
