import LineShell.Script.Builtin.Basic

/-! Builtins about the current directory. -/

namespace LineShell.Script.Builtin

open LineShell.Script.Action

/-- A path with the names of another one behind it: a double dot takes the last name away. -/
def walk : List Bytes → List Bytes → List Bytes
  | place, [] => place
  | place, name :: rest =>
    if name.isEmpty || name = [46] then walk place rest
    else if name = [46, 46] then walk place.dropLast rest
    else walk (place ++ [name]) rest

/-- The path that a directory is known by after going from a place to another one. -/
def pathAfter (place target : Bytes) : Bytes :=
  let names := Programs.splitAt 47
  let isDouble := fun (path : Bytes) => path.take 2 = [47, 47] && path.getD 2 0 ≠ 47
  let start := if target.head? = some 47 then [] else place
  let root := if isDouble (if start.isEmpty then target else start) then [47, 47] else [47]
  let all := walk (walk [] (names start)) (names target)
  root ++ (all.intersperse [47]).flatten

/-- The current directory as the system knows it. -/
def truePlace : Action (Option Bytes) := do
  match ← ask .whereabouts with
  | .ok location => return some (bytes ("/" ++ "/".intercalate location))
  | .error cause =>
    warn (bytes ("getcwd() failed: " ++ cause.text))
    return none

/-- Gives a variable for programs a value. -/
def publish (name : String) (value : Bytes) : Action Unit :=
  store (bytes name) fun entry => { entry with value := some value, exported := true }

/-- Takes over the path that the current directory is known by. -/
def setPlace (place : Option Bytes) : Action Unit := do
  modify fun shell => { shell with place }
  publish "PWD" (place.getD [])

/-- Goes to a directory, if that is possible. -/
def enter (physical : Bool) (target : Bytes) : Action Bool := do
  let shell ← get
  let known := match shell.place with
    | some place => some (pathAfter place target)
    | none => if target.head? = some 47 then some (pathAfter [] target) else none
  let chosen := if physical then none else known
  match ← ask (.enter (chosen.getD target)) with
  | .error _ => return false
  | .ok () =>
    publish "OLDPWD" (shell.place.getD [])
    match chosen with
    | some place => setPlace (some place)
    | none => setPlace (← truePlace)
    modify fun shell => { shell with
      tracked := shell.tracked.map fun (name, entry) => (name, { entry with stale := true }) }
    return true

/-- Whether a path stays where it is, whatever the search path for directories is. -/
def isAnchored (target : Bytes) : Bool :=
  match target with
  | 47 :: _ | [46] | [46, 46] | 46 :: 47 :: _ | 46 :: 46 :: 47 :: _ => true
  | _ => false

/-- The first of some paths that leads to a directory, and whether it is to be shown. -/
def firstDirectory (target : Bytes) : List Bytes → Action (Option (Bytes × Bool))
  | [] => return none
  | element :: rest => do
    let path := if element.isEmpty then target else element ++ 47 :: target
    match ← ask (.examine path true) with
    | .ok facts =>
      if facts.file.node.isDirectory then return some (path, !element.isEmpty)
      else firstDirectory target rest
    | .error _ => firstDirectory target rest

/-- Whether the last of the options asks for the true path of the directory. -/
def isPhysical (options : List (Char × Bytes)) : Bool :=
  options.getLast?.any fun entry => entry.1 = 'P'

/-- Goes to another directory. -/
def cd : Builtin := fun arguments => do
  let (options, operands) ← options "LP" arguments
  let shell ← get
  let isBack : Bool := operands.head? = some [45]
  let target := if isBack then (shell.value? (bytes "OLDPWD")).getD []
    else match operands with
      | [] => (shell.value? (bytes "HOME")).getD []
      | target :: _ => target
  let found ← if isAnchored target then pure none
    else match shell.value? (bytes "CDPATH") with
      | none => pure none
      | some path =>
        firstDirectory (if target.isEmpty then [46] else target) (Programs.splitAt 58 path)
  let target := if target.isEmpty then [46] else target
  let (path, isShown) := found.getD (target, false)
  if !(← enter (isPhysical options) path) then fail (bytes "can't cd to " ++ target)
  if isBack || isShown then say ((← get).place.getD [] ++ [10])
  return 0

/-- Shows the current directory. -/
def pwd : Builtin := fun arguments => do
  let (options, _) ← options "LP" arguments
  if isPhysical options then
    let place ← truePlace
    setPlace (← get).place
    say (place.getD [] ++ [10])
  else say ((← get).place.getD [] ++ [10])
  return 0

end LineShell.Script.Builtin
