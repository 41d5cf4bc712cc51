import LineShell.Machine.Standard
import LineShell.Repl

/-! The command line: a conversation over the standard streams. -/

namespace LineShell

/-- Everything that a stream still gives. -/
partial def readToEnd (stream : IO.FS.Stream) (read : ByteArray) : IO ByteArray := do
  let block ← stream.read 65536
  if block.isEmpty then return read else readToEnd stream (read ++ block)

/-- The variables among the given ones that are set. -/
def settingsFromEnvironment (names : List String) : IO (List (String × String)) :=
  names.filterMapM fun name => do
    return (← IO.getEnv name).map fun value => (name, value)

end LineShell

open LineShell in
/-- Holds the conversation that the input asks for on a standard machine, and ends with its exit
code. -/
def main : IO UInt32 := do
  let stdin ← IO.getStdin
  let stdout ← IO.getStdout
  let stderr ← IO.getStderr
  let input := (← readToEnd stdin .empty).toList
  let environment ← settingsFromEnvironment
    ["PATH", Settings.promptVariable, Settings.noColorVariable]
  let path := (environment.lookup "PATH").getD ""
  let machine := Machine.standard [] input environment (Search.resolve path)
  let conversation := Repl.start (Settings.ofVariables environment) (← stdout.isTty)
    (input.length + 1)
  let (code, machine) := conversation.run Machine.handler machine
  let machine := machine.settle
  stdout.write ⟨(machine.contentAt Machine.outputPlace).toArray⟩
  stdout.flush
  stderr.write ⟨(machine.contentAt Machine.errorPlace).toArray⟩
  return code.toUInt32
