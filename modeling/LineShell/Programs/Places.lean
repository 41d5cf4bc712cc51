import LineShell.Programs.Usage

/-! Places: programs that show parts of paths, or the current directory. -/

namespace LineShell.Programs

/-- A path without the slashes at its end. -/
def withoutSlashes (path : Bytes) : Bytes :=
  let trimmed := (path.reverse.dropWhile (· = 47)).reverse
  if trimmed.isEmpty then path.take 1 else trimmed

/-- The last name of a path; a path of slashes alone is a slash. -/
def lastName (path : Bytes) : Bytes :=
  let trimmed := withoutSlashes path
  if trimmed.all (· = 47) then trimmed else (splitAt 47 trimmed).getLastD []

/-- A path without its last name. -/
def withoutLastName (path : Bytes) : Bytes :=
  let trimmed := path.reverse.dropWhile (· = 47)
  let above := (trimmed.dropWhile (· ≠ 47)).dropWhile (· = 47)
  if !above.isEmpty then above.reverse
  else if path.head? = some 47 then [47] else [46]

/-- A name in a directory. -/
def inside (directory name : Bytes) : Bytes :=
  let trimmed := withoutSlashes directory
  if trimmed.isEmpty || trimmed.getLast? = some 47 || name.head? = some 47 then trimmed ++ name
  else trimmed ++ 47 :: name

/-- The last names of paths, without an ending. -/
def basename : Work :=
  let switches := Usage.plainSwitches [("a", "multiple"), ("z", "zero")] ++
    [{ key := "s", word := "suffix", demand := .value }]
  Usage.work { switches, mixed := false, take := Usage.remember } []
      fun invocation given operands =>
    let ending : UInt8 := if gave given "z" then 0 else 10
    let shorten := fun (suffix path : Bytes) =>
      let name := lastName path
      (if name.head? ≠ some 47 && name ≠ suffix && suffix.isSuffixOf name
        then name.take (name.length - suffix.length) else name) ++ [ending]
    match gave given "a" || gave given "s", operands with
    | _, [] => misuse invocation (bytes "missing operand") 1
    | true, _ =>
      output invocation (operands.flatMap (shorten ((valueOf? given "s").getD []))) 0
    | false, [path] => output invocation (shorten [] path) 0
    | false, [path, suffix] => output invocation (shorten suffix path) 0
    | false, _ :: _ :: extra :: _ =>
      misuse invocation (bytes "extra operand " ++ quoteWord extra) 1

/-- Paths without their last names. -/
def dirname : Work :=
  let switches := Usage.plainSwitches [("z", "zero")]
  Usage.work { switches, take := Usage.remember } [] fun invocation given operands =>
    let ending : UInt8 := if gave given "z" then 0 else 10
    if operands.isEmpty then misuse invocation (bytes "missing operand") 1
    else output invocation (operands.flatMap fun path => withoutLastName path ++ [ending]) 0

/-- The name of the current directory that a variable holds, if it names that directory without
detours. -/
def logicalDirectory? (invocation : Invocation) : Task (Option Bytes) := do
  match invocation.environment.lookup (bytes "PWD") with
  | none => pure none
  | some path =>
    let parts := splitAt 47 path
    if path.head? ≠ some 47 || parts.contains [46] || parts.contains [46, 46] then pure none
    else
      let there ← Task.request (.examine path true)
      let here ← Task.request (.examine (bytes ".") true)
      match there, here with
      | .ok facts, .ok others =>
        pure (if facts.number = others.number then some path else none)
      | _, _ => pure none

/-- The current directory. -/
def pwd : Work :=
  let switches := Usage.plainSwitches [("L", "logical"), ("P", "physical")]
  Usage.work { switches, take := Usage.remember } [] fun invocation given operands => do
    let logical := (given.getLast?.map fun entry => entry.key == "L").getD
      (invocation.environment.lookup (bytes "POSIXLY_CORRECT")).isSome
    unless operands.isEmpty do complain invocation (bytes "ignoring non-option arguments")
    let known ← if logical then logicalDirectory? invocation else pure none
    match known with
    | some path => output invocation (path ++ [10]) 0
    | none =>
      match ← Task.request .whereabouts with
      | .ok place => output invocation (bytes ("/" ++ "/".intercalate place) ++ [10]) 0
      | .error _ =>
        complain invocation
          (bytes "couldn't find directory entry in '..' with matching i-node")
        pure 1

end LineShell.Programs
