import LineShell.Script.Shell

/-! Looking up commands: functions, builtins, and programs along the search path. -/

namespace LineShell.Script

/-- What a name stands for among the commands. -/
inductive Target
  | function (value : Function)
  | builtin
  /-- A program at a place of the search path, or at a path of its own. -/
  | program (index : Option Nat)
  | missing
  deriving Inhabited

namespace Lookup

open LineShell.Script.Action

/-- The builtins, with those whose failures end a script among them. -/
def builtins : List String :=
  specialBuiltins ++ ["[", "alias", "bg", "cd", "chdir", "command", "echo", "false", "fg", "getopts",
    "hash", "jobs", "kill", "local", "printf", "pwd", "read", "test", "true", "type", "ulimit",
    "umask", "unalias", "wait"]

/-- Whether a name is that of a builtin. -/
def isBuiltin (name : Bytes) : Bool :=
  builtins.contains (plain name)

/-- Whether a name is that of a builtin whose failures end a script. -/
def isSpecial (name : Bytes) : Bool :=
  specialBuiltins.contains (plain name) || name = bytes "local"

/-- The builtins whose arguments may be assignments. -/
def assigning : List String := ["alias", "export", "local", "readonly"]

/-- The search path that is used if a script demands one that finds the usual programs. -/
def usualPath : Bytes :=
  bytes "/usr/sbin:/usr/bin:/sbin:/bin"

/-- The path of a name in each element of a search path. -/
def candidates (searchPath name : Bytes) : List Bytes :=
  (Programs.splitAt 58 searchPath).map fun element =>
    if element.isEmpty then name else element ++ 47 :: name

/-- Why a program cannot be run. -/
def reason (cause : Errno) : String :=
  if cause = .noEntry || cause = .notDirectory then "not found" else cause.text

/-- Searches paths for a program, from a number on. If it has been found at a number before, an
absolute path is not looked at again. -/
def search (before : Option Nat) : Nat → List Bytes → Errno → Action (Except Errno Nat)
  | _, [], cause => return .error cause
  | index, path :: rest, cause => do
    let isKnown := path.head? = some 47 && before.any (index ≤ ·)
    if isKnown then
      if before = some index then return .ok index else search before (index + 1) rest cause
    else
      match ← ask (.examine path true) with
      | .error found =>
        let isAbsent := found = .noEntry || found = .notDirectory
        search before (index + 1) rest (if isAbsent then cause else found)
      | .ok facts =>
        let isRegular := match facts.file.node with
          | .regular .. => true
          | _ => false
        if isRegular && facts.file.allows .execute then return .ok index
        else search before (index + 1) rest .permission

/-- How a command is looked up. -/
structure Manner where
  functions : Bool := true
  /-- A search path beside that of the script. -/
  path : Option Bytes := none
  /-- A name with a slash has to exist. -/
  exists_ : Bool := false
  /-- Says that there is no such command. -/
  reported : Bool := false
  deriving Inhabited

/-- Looks a name up along the search path. -/
def findProgram (manner : Manner) (name : Bytes) : Action Target := do
  let shell ← get
  let hidden := !manner.functions && (shell.functions.find? name).isSome
  let keeps := manner.path.isNone && !hidden
  let known := if keeps then shell.tracked.find? name else none
  let paths := candidates (manner.path.getD shell.searchPath) name
  match ← search (known.map (·.index)) 0 paths .noEntry with
  | .ok index =>
    if keeps then
      modify fun shell => { shell with tracked := shell.tracked.put name { index } }
    return .program (some index)
  | .error cause =>
    if keeps then modify fun shell => { shell with tracked := shell.tracked.drop name }
    if manner.reported then warn (name ++ bytes (": " ++ reason cause))
    return .missing

/-- What a name stands for. -/
def find (manner : Manner) (name : Bytes) : Action Target := do
  if name.contains 47 then
    if manner.exists_ && (← ask (.examine name true)).toOption.isNone then return .missing
    return .program none
  let shell ← get
  match if manner.functions then shell.functions.find? name else none with
  | some found => return .function found
  | none =>
    let known := if manner.path.isNone then shell.tracked.find? name else none
    match known with
    | some { index, stale := false } => return .program (some index)
    | _ => if isBuiltin name then return .builtin else findProgram manner name

/-- Becomes the program at a path. A file without a known form is run as a script. -/
def become (path : Bytes) (words : List Bytes) (environment : Environment) : Action Errno := do
  let cause ← ofTask (Task.exec path words environment)
  if cause = .notExecutableFormat then
    let interpreter := bytes "/bin/sh"
    ofTask (Task.exec interpreter (interpreter :: path :: words.drop 1) environment)
  else return cause

/-- Becomes the first program that there is at some paths. -/
def becomeFirst (words : List Bytes) (environment : Environment) :
    List Bytes → Errno → Action Errno
  | [], cause => return cause
  | path :: rest, cause => do
    let found ← become path words environment
    let isAbsent := found = .noEntry || found = .notDirectory
    becomeFirst words environment rest (if isAbsent then cause else found)

/-- Becomes the program of a command, or ends because that is not possible. -/
def run (words : List Bytes) (searchPath : Bytes) (index : Nat) : Action Unit := do
  let name := words.headD []
  let environment := (← get).environment
  let cause ← if name.contains 47 then become name words environment
    else becomeFirst words environment ((candidates searchPath name).drop index) .noEntry
  let lost := [Errno.noEntry, .notDirectory, .tooManyLinks, .nameTooLong].contains cause
  setStatus (if lost then 127 else 126)
  warn (name ++ bytes (": " ++ reason cause))
  throw .over

/-- The keyword that a name is. -/
def isKeyword (name : Bytes) : Bool :=
  keywords.any fun entry => bytes entry.1 = name

/-- A text between quotes, so that it is read as it is. -/
def quoted (text : Bytes) : Bytes :=
  go (text.length + 1) text
where
  /-- Quotes are put between double quotes, and what stands between them between single ones. -/
  go : Nat → Bytes → Bytes
    | 0, _ => []
    | bound + 1, text =>
      let start := text.takeWhile (· != 39)
      let rest := text.drop start.length
      let quotes := rest.takeWhile (· == 39)
      let after := rest.drop quotes.length
      let first := 39 :: start ++ [39]
      if quotes.isEmpty then first
      else if after.isEmpty then first ++ 34 :: quotes ++ [34]
      else first ++ 34 :: quotes ++ 34 :: go bound after

/-- A name that stands for a text, with the text. -/
def aliasLine (name value : Bytes) : Bytes :=
  name ++ 61 :: quoted value ++ [10]

/-- Describes what a name stands for, and gives the exit code. What is `brief` can be read again. -/
def describe (brief : Bool) (path : Option Bytes) (name : Bytes) : Action Nat := do
  let shell ← get
  let tell := fun (long short : Bytes) => do
    say ((if brief then short else name ++ long) ++ [10])
    return 0
  if isKeyword name then tell (bytes " is a shell keyword") name
  else match shell.aliases.find? name with
    | some value =>
      if brief then
        say (bytes "alias " ++ aliasLine name value)
        return 0
      else tell (bytes " is an alias for " ++ value) []
    | none =>
      let tracked? := if path.isNone && (shell.functions.find? name).isNone then
        shell.tracked.find? name else none
      let target ← match tracked? with
        | some tracked => pure (Target.program (some tracked.index))
        | none => find { path, exists_ := true } name
      match target with
      | .program index =>
        let paths := candidates (path.getD shell.searchPath) name
        let place := match index with
          | none => name
          | some index => (paths[index]?).getD []
        let kind := if tracked?.isSome then " is a tracked alias for " else " is "
        tell (bytes kind ++ place) place
      | .function _ => tell (bytes " is a shell function") name
      | .builtin =>
        let kind := if isSpecial name then " is a special shell builtin" else " is a shell builtin"
        tell (bytes kind) name
      | .missing =>
        if !brief then say (name ++ bytes ": not found\n")
        return 127

end Lookup

end LineShell.Script
