import LineShell.Script.Builtin.Basic
import LineShell.Script.Lookup

/-! Builtins about what names stand for among the commands. -/

namespace LineShell.Script.Builtin

open LineShell.Script.Action

/-- How many rows the texts that names stand for are sorted into. -/
def aliasRows : Nat := 39

/-- How many rows the programs whose places are known are sorted into. -/
def trackedRows : Nat := 31

/-- Shows a message of a builtin that does not tell the line. -/
def tell (name : String) (message : Bytes) : Action Unit :=
  write 2 (bytes (name ++ ": ") ++ message ++ [10])

/-- Lets a name stand for a text, or shows the text that one stands for. -/
def aliasOne (argument : Bytes) : Action Nat := do
  let start := argument.take 1
  match splitAssignment (argument.drop 1) with
  | (rest, some value) =>
    modify fun shell => { shell with aliases := shell.aliases.put (start ++ rest) value }
    return 0
  | (_, none) =>
    match (← get).aliases.find? argument with
    | some value =>
      say (Lookup.aliasLine argument value)
      return 0
    | none =>
      tell "alias" (argument ++ bytes " not found")
      return 1

/-- Lets names stand for texts, or shows the texts that names stand for. -/
def alias_ : Builtin := fun arguments => do
  if arguments.isEmpty then
    let entries := (← get).aliases.byRows aliasRows
    entries.forM fun (name, value) => say (Lookup.aliasLine name value)
    return 0
  let codes ← arguments.mapM aliasOne
  return codes.foldl max 0

/-- Lets names no longer stand for texts. -/
def unalias : Builtin := fun arguments => do
  let (options, names) ← options "a" arguments
  if !options.isEmpty then
    modify fun shell => { shell with aliases := [] }
    return 0
  let codes ← names.mapM fun name => do
    if ((← get).aliases.find? name).isNone then
      tell "unalias" (name ++ bytes " not found")
      return 1
    modify fun shell => { shell with aliases := shell.aliases.drop name }
    return 0
  return codes.foldl max 0

/-- Looks for programs once more, shows those whose places are known, or forgets them. -/
def hash : Builtin := fun arguments => do
  let isReset := (arguments.headD []).take 2 = bytes "-r"
  if isReset then
    modify fun shell => { shell with tracked := [] }
    return 0
  let names ← operands arguments
  if names.isEmpty then
    let shell ← get
    (shell.tracked.byRows trackedRows).forM fun (name, entry) =>
      let paths := Lookup.candidates shell.searchPath name
      let path := (paths[entry.index]?).getD []
      say (path ++ (if entry.stale then [42] else []) ++ [10])
    return 0
  let codes ← names.mapM fun name => do
    modify fun shell => { shell with tracked := shell.tracked.drop name }
    match ← Lookup.find { reported := true } name with
    | .missing => return 1
    | _ => return 0
  return codes.foldl max 0

/-- Tells what names stand for. -/
def type : Builtin := fun arguments => do
  let codes ← arguments.mapM (Lookup.describe false none)
  return codes.foldl (· ||| ·) 0

/-- Tells what a name stands for, by the options of the builtin that runs a command. -/
def describe (options : List (Char × Bytes)) (name : Bytes) : Action Nat :=
  let has := fun (letter : Char) => options.any fun entry => entry.1 = letter
  Lookup.describe (!has 'V') (if has 'p' then some Lookup.usualPath else none) name

end LineShell.Script.Builtin
