import LineShell.Programs.Format
import LineShell.Script.Builtin.Basic
import LineShell.Script.Condition
import LineShell.Script.Field

/-! Builtins that show texts, look at them, or read them. -/

namespace LineShell.Script.Builtin

open LineShell.Script.Action

/-- Shows its arguments with their escapes replaced. -/
def echo : Builtin := fun arguments => do
  let quiet := arguments.head? = some (bytes "-n")
  let words := if quiet then arguments.drop 1 else arguments
  let shown := Programs.unescape { zero := true, stops := true } (Programs.joinWords words)
  say (if quiet || shown.ended.isSome then shown.text else shown.text ++ [10])
  return 0

/-- How a fault of a format is shown. -/
def formatMessage : Programs.Format.Fault → Bytes
  | .noNumber argument => argument ++ bytes ": expected numeric value"
  | .partlyNumber argument => argument ++ bytes ": not completely converted"
  | .outOfRange argument => argument ++ bytes ": Numerical result out of range"
  | .unknownDirective directive => directive ++ bytes ": invalid directive"
  | _ => bytes "missing format character"

/-- Shows its arguments in a format. -/
def printf : Builtin := fun arguments => do
  match ← operands arguments with
  | [] => fail (bytes "usage: printf format [arg ...]")
  | format :: arguments =>
    let rendered := Programs.Format.render .command format arguments
    say rendered.output
    rendered.faults.forM fun fault =>
      if fault.isFatal then fail (formatMessage fault) else warn (formatMessage fault)
    return if rendered.faults.isEmpty then 0 else 1

/-- Tells by its exit code whether a condition holds. -/
def test : Builtin := fun arguments => do
  match ← ofTask (Programs.Condition.judge .command (Condition.ofWords arguments)) with
  | .error fault => fail (Condition.message fault)
  | .ok holds => return if holds then 0 else 1

/-- Tells by its exit code whether a condition between brackets holds. -/
def bracket : Builtin := fun arguments =>
  if (arguments.getLast?.bind List.head?) = some 93 then test arguments.dropLast
  else fail (bytes "missing ]")

/-- A line of the input that is being read. -/
structure Line where
  /-- The stretches that have been read, the last one first. -/
  stretches : List Stretch := []
  /-- The stretch that is being read, in reverse order. -/
  current : List Glyph := []
  /-- A backslash has just been read. -/
  escaped : Bool := false
  deriving Inhabited

namespace Line

/-- All that has been read. -/
def finish (line : Line) : List Stretch :=
  ({ rule := .separated, glyphs := line.current.reverse } :: line.stretches).reverse

/-- The line with one more byte; a raw line knows no escapes. There is no line to go on with when
this one has ended. -/
def add (raw : Bool) (line : Line) (byte : UInt8) : Option Line :=
  if byte = 0 then some line
  else if line.escaped then
    let before : Stretch := { rule := .separated, glyphs := line.current.reverse }
    let alone : List Stretch := if byte = 10 then []
      else [{ rule := .whole, glyphs := [.byte byte false] }]
    some { stretches := alone ++ before :: line.stretches }
  else if byte = 92 && !raw then some { line with escaped := true }
  else if byte = 10 then none
  else some { line with current := .byte byte false :: line.current }

end Line

/-- Reads a line byte by byte; also tells whether it was ended. -/
def inputLine (raw : Bool) : Task (List Stretch × Bool) :=
  Task.iterate ({} : Line) fun line => do
    match ← Task.request (.read 0 1) with
    | .ok [byte] =>
      match line.add raw byte with
      | some line => pure (.inl line)
      | none => pure (.inr (line.finish, true))
    | _ => pure (.inr (line.finish, false))

/-- Reads a line into variables; the last one takes all that is left. -/
def read : Builtin := fun arguments => do
  let (options, names) ← options "p:r" arguments
  if names.isEmpty then fail (bytes "arg count")
  let (stretches, ended) ← ofTask (inputLine (options.any fun entry => entry.1 = 'r'))
  let separators := (← get).separators.getD Field.usualSeparators
  let fields := Field.split separators (some names.length) stretches
  names.zipIdx.forM fun (name, index) =>
    assign name (Glyph.text ((fields[index]?).getD []))
  return if ended then 0 else 1

end LineShell.Script.Builtin
