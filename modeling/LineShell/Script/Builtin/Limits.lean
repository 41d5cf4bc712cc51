import LineShell.Script.Builtin.Basic
import LineShell.Text.Numeral

/-! Builtins about the permissions of new files and about the limits of the process. -/

namespace LineShell.Script.Builtin

open LineShell.Script.Action

/-- Permission bits for everyone, the user, the group and others, by the letters that stand for
them. -/
def permissionClasses : List (Char × Nat) :=
  [('a', 0o777), ('u', 0o700), ('g', 0o070), ('o', 0o007)]

/-- The bits of all classes that a letter behind an operator stands for, given the permissions
before any change. -/
def permissionBits? (before : Nat) (letter : Char) : Option Nat :=
  let spread := fun (bits : Nat) => bits * 0o111
  match letter with
  | 'r' => some 0o444
  | 'w' => some 0o222
  | 'x' => some 0o111
  | 'X' => some (if before &&& 0o111 = 0 then 0 else 0o111)
  | 's' => some 0
  | 'u' => some (spread (before / 64 % 8))
  | 'g' => some (spread (before / 8 % 8))
  | 'o' => some (spread (before % 8))
  | _ => none

/-- How far a change of permissions has been read. -/
structure Permissions where
  /-- The permissions before any change. -/
  before : Nat
  now : Nat
  /-- The bits of the classes that are changed. -/
  who : Nat := 0
  operator : Option Char := none
  /-- The bits that the operator is applied to. -/
  bits : Nat := 0
  deriving DecidableEq, Repr, Inhabited

namespace Permissions

/-- Applies the operator that has been read. -/
def settle (state : Permissions) : Permissions :=
  let who := if state.who = 0 then 0o777 else state.who
  let bits := state.bits &&& who
  let without := fun (bits : Nat) => state.now - (state.now &&& bits)
  let now := match state.operator with
    | some '+' => state.now ||| bits
    | some '-' => without bits
    | some _ => without who ||| bits
    | none => state.now
  { state with now, operator := none, bits := 0 }

/-- Goes on with a letter. -/
def step (state : Permissions) (letter : Char) : Option Permissions :=
  if ['+', '-', '='].contains letter then some { state.settle with operator := some letter }
  else match state.operator with
    | none => (permissionClasses.lookup letter).map fun bits =>
      { state with who := state.who ||| bits }
    | some _ =>
      if letter = ',' then some { state.settle with who := 0 }
      else (permissionBits? state.before letter).map fun bits =>
        { state with bits := state.bits ||| bits }

/-- The permissions after all the changes that a text describes. -/
def change? (before : Nat) (text : List Char) : Option Nat := do
  let last ← text.foldlM step { before, now := before }
  if last.operator.isNone && last.who ≠ 0 then none else some last.settle.now

end Permissions

/-- The permissions of each class in letters. -/
def permissionText (permissions : Nat) : String :=
  let letters := fun (bits : Nat) =>
    (if bits &&& 4 = 0 then "" else "r") ++ (if bits &&& 2 = 0 then "" else "w") ++
      if bits &&& 1 = 0 then "" else "x"
  "u=" ++ letters (permissions / 64 % 8) ++ ",g=" ++ letters (permissions / 8 % 8) ++ ",o=" ++
    letters (permissions % 8)

/-- Sets or shows the permissions that new files do not get. -/
def umask : Builtin := fun arguments => do
  let (options, operands) ← options "S" arguments
  let mask ← ask (.mask 0)
  discard (ask (.mask mask))
  match operands with
  | [] =>
    let digits := Nat.toDigits 8 mask
    let octal := String.ofList (List.replicate (4 - digits.length) '0' ++ digits)
    say (bytes ((if options.isEmpty then octal else permissionText (0o777 - mask)) ++ "\n"))
  | word :: _ =>
    if (word.head?.map isDigit).getD false then
      if word.any fun byte => byte < 48 || 55 < byte then fail (bytes "Illegal number: " ++ word)
      discard (ask (.mask (Numeral.valueOf 8 word % 512)))
    else match Permissions.change? (0o777 - mask) (plain word).toList with
      | none => fail (bytes "Illegal mode: " ++ word)
      | some permissions => discard (ask (.mask (0o777 - permissions)))
  return 0

/-- What is limited. -/
structure Limit where
  letter : Char
  name : String
  /-- How many units of the system one unit stands for. -/
  factor : Nat
  /-- The limit, if there is one, unless it is that of files. -/
  usual : Option Nat := none
  deriving DecidableEq, Repr, Inhabited

/-- All that is limited. -/
def limits : List Limit := [
  { letter := 't', name := "time(seconds)", factor := 1 },
  { letter := 'f', name := "file(blocks)", factor := 512 },
  { letter := 'd', name := "data(kbytes)", factor := 1024 },
  { letter := 's', name := "stack(kbytes)", factor := 1024, usual := some (8192 * 1024) },
  { letter := 'c', name := "coredump(blocks)", factor := 512, usual := some 0 },
  { letter := 'm', name := "memory(kbytes)", factor := 1024 },
  { letter := 'l', name := "locked memory(kbytes)", factor := 1024, usual := some (8192 * 1024) },
  { letter := 'p', name := "process", factor := 1 },
  { letter := 'n', name := "nofiles", factor := 1, usual := some 1048576 },
  { letter := 'v', name := "vmemory(kbytes)", factor := 1024 },
  { letter := 'w', name := "locks", factor := 1 },
  { letter := 'r', name := "rtprio", factor := 1, usual := some 0 }]

/-- Shows a limit. -/
def showLimit (limit : Limit) : Action Unit := do
  let value ← if limit.letter = 'f' then ask .fileLimit else pure limit.usual
  say (match value with
    | none => bytes "unlimited\n"
    | some value => Programs.digits (value / limit.factor) ++ [10])

/-- Sets a limit, which cannot be raised again once it is set. -/
def setLimit (limit : Limit) (value : Option Nat) : Action Unit := do
  let before ← if limit.letter = 'f' then ask .fileLimit else pure limit.usual
  let isRaised := match before, value with
    | some before, some value => value > before
    | some _, none => true
    | none, _ => false
  let isFixed := limit.letter = 'f' || limit.letter = 'c' || limit.letter = 'r'
  if isRaised && isFixed then
    fail (bytes ("error setting limit (" ++ Errno.notPermitted.text ++ ")"))
  if limit.letter = 'f' then ask (.setFileLimit value)

/-- Sets or shows limits of the process. -/
def ulimit : Builtin := fun arguments => do
  let (options, operands) ← options "HSatfdscmlpnvwr" arguments
  let letters := options.map (·.1)
  let all : Bool := letters.contains 'a'
  let chosen := (letters.reverse.find? fun letter => !"HSa".toList.contains letter).getD 'f'
  let limit := (limits.find? fun limit => limit.letter = chosen).getD default
  match operands with
  | word :: more =>
    if all || !more.isEmpty then fail (bytes "too many arguments")
    let value ← if word = bytes "unlimited" then pure none
      else match if word.isEmpty then some 0 else Programs.number? word with
        | some number => pure (some (number * limit.factor))
        | none => fail (bytes "bad number")
    setLimit limit value
  | [] =>
    if all then limits.forM fun limit => do
      let gap := String.ofList (List.replicate (20 - limit.name.length) ' ')
      say (bytes (limit.name ++ gap ++ " "))
      showLimit limit
    else showLimit limit
  return 0

/-- Shows how much time has been used by the script and by what it has started. -/
def times : Builtin := fun _ => do
  let line := "0m0.000000s 0m0.000000s\n"
  say (bytes (line ++ line))
  return 0

end LineShell.Script.Builtin
