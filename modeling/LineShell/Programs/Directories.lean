import LineShell.Programs.Mode
import LineShell.Programs.Places
import LineShell.Programs.Report

/-! Directories: programs that make and remove directories, make named pipes, and change who may use
files. -/

namespace LineShell.Programs

open Reported (request say fail failWith)

/-- How directories are made. -/
structure Making where
  parents : Bool := false
  talks : Bool := false
  mode : Option Bytes := none
  /-- A security context is asked for, which there are none of. -/
  labels : Bool := false
  deriving DecidableEq, Repr, Inhabited

/-- What is said about a security context. -/
def contextWarning : Bytes :=
  bytes "warning: ignoring --context; it requires an SELinux/SMACK-enabled kernel"

namespace Making

/-- The switches of making directories. -/
def switches : List Switch :=
  [{ key := "context", word := "context", demand := .optional },
    { key := "m", word := "mode", demand := .value }] ++
  Usage.plainSwitches [("p", "parents"), ("v", "verbose"), ("Z", "")]

/-- What a switch changes. -/
def take (making : Making) (given : Given) : Except Refusal Making :=
  .ok (match given.key with
  | "p" => { making with parents := true }
  | "v" => { making with talks := true }
  | "m" => { making with mode := given.value }
  | "context" => { making with labels := making.labels || given.value.isSome }
  | _ => making)

/-- The paths of the directories above a path, the topmost first, without those that are a dot. -/
def above (path : Bytes) : List Bytes :=
  let parts := splitAt 47 (withoutSlashes path)
  let chain := (List.range (parts.length - 1)).map fun count =>
    (parts.getD count [], ((parts.take (count + 1)).intersperse [47]).flatten)
  (chain.filter fun (name, _) => !name.isEmpty && name ≠ [46]).map (·.2)

/-- Says that a directory was made, if that is wanted. -/
def announce (making : Making) (invocation : Invocation) (path : Bytes) : Reported Unit := do
  if making.talks then
    say (invocation.name ++ bytes ": created directory " ++ quoteName path)

/-- Makes the directories above a path that are missing, and gives the path and the cause of the
first failure. -/
def makeAbove (making : Making) (invocation : Invocation) :
    List Bytes → Reported (Option (Bytes × Errno))
  | [] => pure none
  | path :: rest => do
    let made ← if lastName path = [46, 46] then pure (.error .alreadyExists)
      else request (.create path (.directory 0o777))
    if let .ok () := made then making.announce invocation path
    -- The dot tells whether one can go through the directory.
    match made, ← request (.examine (path ++ bytes "/.") true) with
    | _, .ok _ => makeAbove making invocation rest
    | .error cause, .error .noEntry => pure (some (path, cause))
    | _, .error cause => pure (some (path, cause))

/-- Makes a directory with certain permission bits. -/
def make (making : Making) (invocation : Invocation) (mask : Nat) (exact : Option Nat)
    (path : Bytes) : Reported Unit := do
  let refuse := fun (path : Bytes) (cause : Errno) =>
    fail invocation (bytes "cannot create directory " ++ quoteWord path ++
      bytes (": " ++ cause.text))
  -- Whoever makes directories must be able to go through those above them.
  discard (request (.mask (Mode.without mask 0o300)))
  let failed ← if making.parents then makeAbove making invocation (above path) else pure none
  discard (request (.mask mask))
  match failed with
  | some (path, cause) => refuse path cause
  | none =>
    match ← request (.create path (.directory 0o777)) with
    | .ok () =>
      making.announce invocation path
      exact.forM fun mode => discard (request (.changeMode path mode))
    | .error cause =>
      let there ← if making.parents && cause ≠ .noEntry then request (.examine path true)
        else pure (.error cause)
      match there with
      | .ok facts => unless facts.file.node.isDirectory do refuse path cause
      | .error _ => refuse path cause

/-- Makes directories. -/
def run (invocation : Invocation) (making : Making) (operands : List Bytes) : Task UInt8 := do
  if making.labels then complain invocation contextWarning
  if operands.isEmpty then return ← misuse invocation (bytes "missing operand") 1
  let mask ← Task.request (.mask 0)
  discard (Task.request (.mask mask))
  match making.mode, making.mode.bind Mode.read? with
  | some text, none =>
    complain invocation (bytes "invalid mode " ++ quoteWord text)
    pure 1
  | _, changes =>
    let exact := changes.map fun changes => Mode.ofNewDirectory changes mask
    Reported.finish invocation (operands.forM (making.make invocation mask exact))

end Making

/-- Makes directories. -/
def mkdir : Work := Usage.work { switches := Making.switches, take := Making.take } {} Making.run

/-- Makes named pipes. -/
def mkfifo : Work :=
  let switches : List Switch := [{ key := "context", word := "context", demand := .optional },
    { key := "m", word := "mode", demand := .value }, { key := "Z" }]
  Usage.work { switches, take := Usage.remember } [] fun invocation given operands => do
    if (valueOf? given "context").isSome then complain invocation contextWarning
    if operands.isEmpty then return ← misuse invocation (bytes "missing operand") 1
    let mask ← Task.request (.mask 0)
    discard (Task.request (.mask mask))
    let text := valueOf? given "m"
    match text, text.bind Mode.read? with
    | some _, none =>
      complain invocation (bytes "invalid mode")
      pure 1
    | _, changes =>
      let exact := changes.map fun changes => Mode.adjust changes false mask 0o666
      if exact.any (· > 0o777) then
        complain invocation (bytes "mode must specify only file permission bits")
        return 1
      Reported.finish invocation (operands.forM fun path => do
        match ← request (.create path (.fifo 0o666)) with
        | .ok () => exact.forM fun mode => discard (request (.changeMode path mode))
        | .error cause => failWith invocation "cannot create fifo" path cause)

/-- How directories are removed. -/
structure Unmaking where
  parents : Bool := false
  talks : Bool := false
  /-- Nothing is said about directories that are not empty. -/
  lenient : Bool := false
  deriving DecidableEq, Repr, Inhabited

namespace Unmaking

/-- The switches of removing directories. -/
def switches : List Switch :=
  Usage.plainSwitches [("p", "parents"), ("v", "verbose"), ("p", "path"),
    ("lenient", "ignore-fail-on-non-empty")]

/-- What a switch changes. -/
def take (unmaking : Unmaking) (given : Given) : Except Refusal Unmaking :=
  .ok (match given.key with
  | "p" => { unmaking with parents := true }
  | "v" => { unmaking with talks := true }
  | _ => { unmaking with lenient := true })

/-- Removes a directory, and gives why that failed. -/
def remove (unmaking : Unmaking) (invocation : Invocation) (path : Bytes) :
    Reported (Option Errno) := do
  if unmaking.talks then
    say (invocation.name ++ bytes ": removing directory, " ++ quoteName path)
  match ← request (.removeDirectory path) with
  | .ok () => pure none
  | .error cause => pure (some cause)

/-- The directories above a path, the lowest first. -/
def above (path : Bytes) : List Bytes :=
  let trimmed := withoutSlashes path
  let chain := (List.range trimmed.length).filterMap fun length =>
    let start := trimmed.take length
    if trimmed[length]? = some 47 && start.getLast? ≠ some 47 then
      some (if start.isEmpty then [47] else start)
    else none
  chain.reverse

/-- Whether a path with a slash behind it names a link to a directory, which is not followed. -/
def isLink (path : Bytes) : Task Bool := do
  if path.getLast? ≠ some 47 then return false
  match ← Task.request (.examine path true), ← Task.request (.examine (withoutSlashes path) false)
      with
  | .ok facts, .ok link =>
    pure (facts.file.node.isDirectory && link.file.node matches .link _)
  | _, _ => pure false

/-- Whether nothing is said about a directory that could not be removed for a reason: because there
is something in it. -/
def passesOver (unmaking : Unmaking) (path : Bytes) (cause : Errno) : Task Bool := do
  if !unmaking.lenient then return false
  if cause = .notEmpty || cause = .alreadyExists then return true
  if !([.permission, .notPermitted, .busy] : List Errno).contains cause then return false
  match ← Task.request (.examine path false), ← Task.request (.list path) with
  | .ok facts, .ok names => pure (facts.file.node.isDirectory && !names.isEmpty)
  | _, _ => pure false

/-- Removes the directories above a path, up to the first that cannot be removed. -/
def removeAbove (unmaking : Unmaking) (invocation : Invocation) : List Bytes → Reported Unit
  | [] => pure ()
  | path :: rest => do
    match ← unmaking.remove invocation path with
    | none => removeAbove unmaking invocation rest
    | some cause =>
      let deed := if cause = .notDirectory then "failed to remove" else "failed to remove directory"
      unless ← unmaking.passesOver path cause do failWith invocation deed path cause

/-- Removes empty directories. -/
def run (invocation : Invocation) (unmaking : Unmaking) (operands : List Bytes) : Task UInt8 := do
  if operands.isEmpty then misuse invocation (bytes "missing operand") 1
  else Reported.finish invocation (operands.forM fun path => do
    match ← unmaking.remove invocation path with
    | none => if unmaking.parents then unmaking.removeAbove invocation (above path)
    | some cause =>
      unless ← unmaking.passesOver path cause do
        if cause = .notDirectory && (← isLink path) then
          fail invocation (bytes "failed to remove " ++ quoteName path ++
            bytes ": Symbolic link not followed")
        else failWith invocation "failed to remove" path cause)

end Unmaking

/-- Removes empty directories. -/
def rmdir : Work :=
  Usage.work { switches := Unmaking.switches, take := Unmaking.take } {} Unmaking.run

end LineShell.Programs
