import LineShell.Programs.Transfers

/-! Links: a program that gives files more names. -/

namespace LineShell.Programs

open Reported (request say fail failWith ask)

/-- How links are made. -/
structure Linking where
  symbolic : Bool := false
  /-- What is in the way is removed. -/
  forces : Bool := false
  asks : Bool := false
  /-- A link to a directory is no directory to put links in. -/
  literal : Bool := false
  /-- The file behind a link gets the name. -/
  follows : Bool := false
  /-- Directories may get more names. -/
  anyKind : Bool := false
  /-- The link leads from where it stands to the file. -/
  relative : Bool := false
  talks : Bool := false
  backup : Backup := {}
  /-- Backups are asked for, perhaps in a certain way. -/
  backs : Bool := false
  kind : Option Bytes := none
  suffix : Option Bytes := none
  directory : Option Bytes := none
  /-- The last operand is no directory to put links in. -/
  exact : Bool := false
  deriving DecidableEq, Repr, Inhabited

namespace Linking

/-- The switches of making links. -/
def switches : List Switch :=
  [Backup.switch] ++
  Usage.plainSwitches [("F", "directory"), ("n", "no-dereference"), ("T", "no-target-directory"),
    ("f", "force"), ("i", "interactive")] ++
  [Backup.suffixSwitch, { key := "t", word := "target-directory", demand := .value }] ++
  Usage.plainSwitches [("L", "logical"), ("P", "physical"), ("r", "relative"), ("s", "symbolic"),
    ("v", "verbose"), ("b", ""), ("d", "")]

/-- What a switch changes. -/
def take (linking : Linking) (given : Given) : Except Refusal Linking :=
  match given.key with
  | "f" => .ok { linking with forces := true, asks := false }
  | "i" => .ok { linking with forces := false, asks := true }
  | "d" | "F" => .ok { linking with anyKind := true }
  | "n" => .ok { linking with literal := true }
  | "s" => .ok { linking with symbolic := true }
  | "v" => .ok { linking with talks := true }
  | "L" => .ok { linking with follows := true }
  | "P" => .ok { linking with follows := false }
  | "r" => .ok { linking with relative := true }
  | "b" => .ok { linking with backs := true }
  | "backup" => .ok { linking with backs := true, kind := given.value.orElse fun _ => linking.kind }
  | "S" => .ok { linking with backs := true, suffix := given.value }
  | "T" => .ok { linking with exact := true }
  | "t" =>
    if linking.directory.isSome then
      .error { message := bytes "multiple target directories specified" }
    else .ok { linking with directory := given.value }
  | _ => .ok linking

/-- The names on the way from the root to a place, with links followed, in so many steps at most;
names that are missing are kept. -/
def resolve : Nat → List Bytes → List Bytes → Task (List Bytes)
  | 0, place, rest => pure (place ++ rest)
  | _, place, [] => pure place
  | bound + 1, place, name :: rest =>
    if name.isEmpty || name = [46] then resolve bound place rest
    else if name = [46, 46] then resolve bound place.dropLast rest
    else do
      let path := (place ++ [name]).flatMap (47 :: ·)
      match ← Task.request (.examine path false) with
      | .ok { file := { node := .link target, .. }, .. } =>
        let target := bytes target
        let parts := splitAt 47 target
        let start := if target.head? = some 47 then [] else place
        resolve bound start (parts ++ rest)
      | _ => resolve bound (place ++ [name]) rest

/-- The names on the way from the root to what a path names. -/
def placeOf (path : Bytes) : Task (List Bytes) := do
  let start ← if path.head? = some 47 then pure []
    else match ← Task.request .whereabouts with
      | .ok place => pure (place.map bytes)
      | .error _ => pure []
  resolve 4096 start (splitAt 47 path)

/-- The way from one place to another. -/
def wayBetween : List Bytes → List Bytes → Bytes
  | first :: start, second :: target =>
    if first = second then wayBetween start target
    else joined (List.replicate (start.length + 1) (bytes "..") ++ second :: target)
  | start, target => joined (List.replicate start.length (bytes "..") ++ target)
where
  /-- Names with slashes between them. -/
  joined (names : List Bytes) : Bytes :=
    if names.isEmpty then [46] else (names.intersperse [47]).flatten

/-- What a link to a file is to hold. -/
def contentOf (linking : Linking) (source target : Bytes) : Task Bytes := do
  if !linking.relative || source.isEmpty then return source
  pure (wayBetween (← placeOf (withoutLastName target)) (← placeOf source))

/-- Makes the link itself. -/
def create (linking : Linking) (source target : Bytes) : Task (Except Errno Unit) :=
  if linking.symbolic then
    Task.request (.create target (.link ((Utf8.toString? source).getD "")))
  else Task.request (.share source target linking.follows)

/-- Says why a link could not be made. -/
def refuse (linking : Linking) (invocation : Invocation) (source target : Bytes) (cause : Errno) :
    Reported Unit :=
  let kind := if linking.symbolic then "symbolic" else "hard"
  let short : Bool := if linking.symbolic then cause ≠ .nameTooLong && !source.isEmpty
    else cause = .alreadyExists || cause = .noSpace
  let arrow := if linking.symbolic then " -> " else " => "
  let rest := if short then [] else bytes arrow ++ quoteName source
  fail invocation (bytes ("failed to create " ++ kind ++ " link ") ++ quoteName target ++ rest ++
    bytes (": " ++ cause.text))

/-- Finds out whether a link may be made although something is in its way, and where that is
kept. -/
def clearWay (linking : Linking) (invocation : Invocation) (first : Option Errno)
    (source target : Bytes) (inWay : Facts) : Reported (Bool × Option Bytes) := do
  if inWay.file.node.isDirectory then
    fail invocation (mention target ++ bytes ": cannot overwrite directory")
    return (false, none)
  let keeps := linking.backup.kind ≠ .none
  let matters := if linking.symbolic then linking.forces && !keeps else linking.forces || keeps
  let isSame ← if !matters then pure false
    else match ← request (.examine source (linking.symbolic || linking.follows)) with
      | .ok facts =>
        if facts.number ≠ inWay.number then pure false
        else if facts.names = 1 then pure true
        else Transfer.isSameName source target
      | .error _ => pure false
  if isSame then
    fail invocation (quoteName source ++ bytes " and " ++ quoteName target ++
      bytes " are the same file")
    return (false, none)
  if !(first.all (· = .alreadyExists)) then return (true, none)
  let goesOn ← if linking.asks then ask invocation (bytes "replace " ++ quoteName target)
    else pure true
  if !goesOn then return (false, none)
  if !keeps then return (true, none)
  match ← linking.backup.keep target with
  | .ok kept => pure (true, kept)
  | .error cause =>
    failWith invocation "cannot backup" target cause
    pure (false, none)

/-- Makes the link under a name of its own, and then gives it the name of what is in its way. -/
def replace (linking : Linking) (source target : Bytes) : Task (Except Errno Unit) := do
  let draft := inside (withoutLastName target) (bytes "CuAAAAAA")
  match ← linking.create source draft with
  | .error cause => pure (.error cause)
  | .ok () =>
    let result ← Task.request (.rename draft target false)
    discard (Task.request (.remove draft))
    pure result

/-- Gives a file one more name; `first` is what came of a first attempt. -/
def link (linking : Linking) (invocation : Invocation) (created : List (Bytes × Nat))
    (first : Option (Except Errno Unit)) (source target : Bytes) :
    Reported (List (Bytes × Nat)) := do
  let first ← if linking.relative || first.isSome then pure first
    else do pure (some (← linking.create source target))
  let isMade : Bool := first matches some (.ok ())
  if !isMade && !linking.symbolic then
    match ← request (.examine source linking.follows) with
    | .error cause =>
      failWith invocation "failed to access" source cause
      return created
    | .ok facts =>
      if facts.file.node.isDirectory && !linking.anyKind then
        fail invocation (mention source ++ bytes ": hard link not allowed for directory")
        return created
  let content ← linking.contentOf source target
  let mayClear := linking.forces || linking.asks || linking.backup.kind ≠ .none
  let cause? := match first with
    | some (.error cause) => some cause
    | _ => none
  let isNameless := source.isEmpty && target.getLast? = some 47
  let (goesOn, kept, forces) ← if isMade || !mayClear then pure (true, none, false)
    else match ← request (.examine (if isNameless then [] else target) false) with
      | .error cause =>
        if cause ≠ .noEntry then
          failWith invocation "failed to access" target cause
          pure (false, none, false)
        else pure (true, none, false)
      | .ok inWay =>
        if created.contains (target, inWay.number) then
          fail invocation (bytes "will not overwrite just-created " ++ quoteName target ++
            bytes " with " ++ quoteName content)
          pure (false, none, false)
        else
          let (goesOn, kept) ← linking.clearWay invocation cause? content target inWay
          pure (goesOn, kept, true)
  if !goesOn then return created
  let attempt ← match first with
    | some result => pure result
    | none => linking.create content target
  let isInWay : Bool := attempt matches .error .alreadyExists
  let result ← if isInWay && forces then linking.replace content target else pure attempt
  match result with
  | .ok () =>
    if linking.talks then
      let before := match kept with
        | some path => quoteName path ++ bytes " ~ "
        | none => []
      say (before ++ quoteName target ++ bytes (if linking.symbolic then " -> " else " => ") ++
        quoteName content)
    match ← request (.examine target false) with
    | .ok facts => pure (if linking.symbolic then created else (target, facts.number) :: created)
    | .error _ => pure created
  | .error cause =>
    linking.refuse invocation content target cause
    if let some path := kept then
      if let .error cause ← request (.rename path target false) then
        failWith invocation "cannot un-backup" target cause
    pure created

/-- Gives files names in a directory. -/
def into (linking : Linking) (invocation : Invocation) (directory : Bytes) (sources : List Bytes) :
    Task UInt8 :=
  Reported.finish invocation do
    discard (sources.foldlM (fun created source =>
      linking.link invocation created none source (inside directory (lastName source)))
      ([] : List (Bytes × Nat)))

/-- Gives files more names where the last operand or a switch says. -/
def place (invocation : Invocation) (linking : Linking) (operands : List Bytes) : Task UInt8 := do
  let refuse := fun (what : String) (path : Bytes) (cause : Errno) => do
    complain invocation (bytes (what ++ " ") ++ quoteName path ++ bytes (": " ++ cause.text))
    pure (1 : UInt8)
  match operands, linking.directory with
  | [], _ => misuse invocation (bytes "missing file operand") 1
  | sources, some directory => linking.into invocation directory sources
  | [source], none =>
    if linking.exact then
      misuse invocation (bytes "missing destination file operand after " ++ quoteName source) 1
    else linking.into invocation [46] [source]
  | operands, none =>
    let last := operands.getLastD []
    if linking.exact then
      if let extra :: _ := operands.drop 2 then
        return ← misuse invocation (bytes "extra operand " ++ quoteName extra) 1
    let sources := operands.dropLast
    let first ← match sources with
      | [source] =>
        if linking.exact || linking.relative then pure none
        else do pure (some (← linking.create source last))
      | _ => pure none
    let mayBeDirectory : Bool := match first with
      | some (.ok ()) => false
      | some (.error cause) =>
        cause = .alreadyExists || cause = .notDirectory || cause = .invalid
      | none => !linking.exact
    let isLink := match ← Task.request (.examine last false) with
      | .ok facts => (facts.file.node matches .link _ : Bool)
      | .error _ => false
    let directory ← if !mayBeDirectory || (linking.literal && isLink)
      then pure (.error .notDirectory) else Transfer.checkDirectory last
    match directory, sources with
    | .ok (), sources => linking.into invocation last sources
    | .error _, [source] =>
      Reported.finish invocation do discard (linking.link invocation [] first source last)
    | .error cause, _ => refuse "target" last cause

/-- Gives files more names. -/
def run (invocation : Invocation) (linking : Linking) (operands : List Bytes) : Task UInt8 := do
  let refuseDirectory := fun (message : Bytes) => do
    complain invocation message
    pure (1 : UInt8)
  if let some directory := linking.directory then
    match ← Task.request (.examine directory true) with
    | .error cause =>
      return ← refuseDirectory
        (bytes "failed to access " ++ quoteName directory ++ bytes (": " ++ cause.text))
    | .ok facts =>
      if !facts.file.node.isDirectory then
        return ← refuseDirectory
          (bytes "target " ++ quoteName directory ++ bytes " is not a directory")
  if operands.isEmpty then return ← misuse invocation (bytes "missing file operand") 1
  if linking.relative && !linking.symbolic then
    return ← refuseDirectory (bytes "cannot do --relative without --symbolic")
  if linking.exact && linking.directory.isSome then
    return ← refuseDirectory
      (bytes "cannot combine --target-directory and --no-target-directory")
  let backup := if linking.backs
    then Backup.ofRequest invocation.environment linking.kind linking.suffix else .ok {}
  match backup with
  | .error refusal => Programs.refuse invocation refusal 1
  | .ok backup => place invocation { linking with backup } operands

end Linking

/-- Gives files more names. -/
def ln : Work := Usage.work { switches := Linking.switches, take := Linking.take } {} Linking.run

end LineShell.Programs
