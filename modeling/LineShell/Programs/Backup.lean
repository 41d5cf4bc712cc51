import LineShell.Programs.Places
import LineShell.Programs.Report
import LineShell.Text.Numeral

/-! Backups: files that would be replaced are kept under other names. -/

namespace LineShell.Programs

/-- How the other names are chosen. -/
inductive Backup.Kind
  /-- Nothing is kept. -/
  | none
  /-- Something is put behind the name. -/
  | simple
  /-- Numbers are used if they have been used before. -/
  | existing
  | numbered
  deriving DecidableEq, Repr, Inhabited

/-- How files that would be replaced are kept. -/
structure Backup where
  kind : Backup.Kind := .none
  /-- What is put behind names. -/
  suffix : Bytes := [126]
  deriving DecidableEq, Repr, Inhabited

namespace Backup

/-- The words for the kinds of backups. -/
def kindNames : List (String × Kind) :=
  [("none", .none), ("off", .none), ("simple", .simple), ("never", .simple),
    ("existing", .existing), ("nil", .existing), ("numbered", .numbered), ("t", .numbered)]

/-- The switches about backups. -/
def switch : Switch := { key := "backup", word := "backup", demand := .optional }

/-- The switch for what is put behind names. -/
def suffixSwitch : Switch := { key := "S", word := "suffix", demand := .value }

/-- Backups as they are asked for: by the word for a kind, or else by a variable. -/
def ofRequest (environment : Environment) (kind suffix : Option Bytes) :
    Except Refusal Backup := do
  let variable_ := fun (name : String) => environment.lookup (bytes name)
  let chosen := kind.filter fun word => !word.isEmpty
  let kind ← match chosen, (variable_ "VERSION_CONTROL").filter fun word => !word.isEmpty with
    | some word, _ => Usage.choose "backup type" kindNames word
    | none, some word => Usage.choose "$VERSION_CONTROL" kindNames word
    | none, none => pure .existing
  let suffix := (suffix.orElse fun _ => variable_ "SIMPLE_BACKUP_SUFFIX").getD []
  pure { kind, suffix := if suffix.isEmpty || suffix.contains 47 then [126] else suffix }

/-- The number in the name of a backup. -/
def numberIn? (name entry : Bytes) : Option Nat :=
  let start := name ++ bytes ".~"
  let figures := Numeral.digitsOf 10 (entry.drop start.length)
  if start.isPrefixOf entry && entry = start ++ figures ++ [126] && !figures.isEmpty &&
      figures.head? ≠ some 48 then
    some (Numeral.valueOf 10 figures)
  else none

/-- The path under which a file is kept. -/
def pathFor (backup : Backup) (path : Bytes) : Task Bytes := do
  let simple := path ++ backup.suffix
  if backup.kind = .simple then return simple
  let names := match ← Task.request (.list (withoutLastName path)) with
    | .ok names => names.map bytes
    | .error _ => []
  let numbers := names.filterMap (numberIn? (lastName path))
  if backup.kind = .existing && numbers.isEmpty then return simple
  pure (path ++ bytes ".~" ++ digits (numbers.foldl max 0 + 1) ++ [126])

/-- Keeps a file under another name, and gives that name; there is none if the file is gone. -/
def keep (backup : Backup) (path : Bytes) : Task (Except Errno (Option Bytes)) := do
  let other ← backup.pathFor path
  match ← Task.request (.rename path other false) with
  | .ok () => pure (.ok (some other))
  | .error cause => pure (if cause = .noEntry then .ok none else .error cause)

/-- How a backup is told about behind the names of other files. -/
def mark (kept : Option Bytes) : Bytes :=
  match kept with
  | some path => bytes " (backup: " ++ quoteName path ++ [41]
  | none => []

/-- Whether a file is what another one would be kept as. -/
def endangers (backup : Backup) (source target : Bytes) : Task Bool := do
  if backup.kind = .numbered || lastName source ≠ lastName target ++ backup.suffix then pure false
  else
    let there ← Task.request (.examine (withoutSlashes target ++ backup.suffix) true)
    match ← Task.request (.examine source false), there with
    | .ok facts, .ok others => pure (facts.number = others.number)
    | _, _ => pure false

end Backup

end LineShell.Programs
