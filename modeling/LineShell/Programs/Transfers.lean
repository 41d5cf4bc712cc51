import LineShell.Programs.Backup
import LineShell.Programs.Mode
import LineShell.Programs.Places
import LineShell.Programs.Report
import LineShell.Programs.Streams

/-! Transfers: programs that copy, move and link files. -/

namespace LineShell.Programs

open Reported (request say warn fail failWith ask)

/-- The path under which a target is looked up: no name at all stands for the current directory. -/
def Transfer.lookedUp (target : Bytes) : Bytes :=
  if target.isEmpty then [46] else target

/-- What happens to a file that is in the way. -/
inductive Transfer.Clash
  | usual
  | replaces
  | asks
  /-- It stays, and nothing is said. -/
  | keeps
  deriving DecidableEq, Repr, Inhabited

/-- Which links are followed. -/
inductive Transfer.Following
  | all
  | operands
  | none
  deriving DecidableEq, Repr, Inhabited

/-- How files are copied or moved. -/
structure Transfer where
  moves : Bool := false
  recursive : Bool := false
  following : Option Transfer.Following := .none
  clash : Transfer.Clash := .usual
  /-- A file that cannot be written is removed first. -/
  forces : Bool := false
  /-- Every file in the way is removed first. -/
  clears : Bool := false
  /-- Only files that are newer than what is in the way are transferred. -/
  updates : Bool := false
  talks : Bool := false
  keepsMode : Bool := false
  keepsTime : Bool := false
  hardLinks : Bool := false
  softLinks : Bool := false
  /-- Files are made, but nothing is put in them. -/
  hollow : Bool := false
  /-- The directories that sources stand in are made as well. -/
  withParents : Bool := false
  backup : Backup := {}
  /-- Backups are asked for, perhaps in a certain way. -/
  backs : Bool := false
  kind : Option Bytes := .none
  suffix : Option Bytes := .none
  directory : Option Bytes := .none
  /-- The last operand is no directory to put files in. -/
  exact : Bool := false
  /-- Slashes at the ends of sources do not count. -/
  trims : Bool := false
  /-- A security context is asked for, which there are none of. -/
  labels : Bool := false
  deriving DecidableEq, Repr, Inhabited

namespace Transfer

/-- Whether links are followed that stand for operands, or for other files. -/
def follows (transfer : Transfer) (isOperand : Bool) : Bool :=
  if transfer.moves then false
  else match transfer.following with
    | some .all => true
    | some .operands => isOperand
    | some .none => false
    | none => !transfer.recursive || transfer.hardLinks

/-- The switches of copying. -/
def copySwitches : List Switch :=
  Usage.plainSwitches [("a", "archive"), ("hollow", "attributes-only")] ++ [Backup.switch] ++
  Usage.plainSwitches [("contents", "copy-contents"), ("L", "dereference"), ("f", "force"),
    ("i", "interactive"), ("l", "link"), ("n", "no-clobber"), ("P", "no-dereference")] ++
  [{ key := "drop", word := "no-preserve", demand := .value }] ++
  Usage.plainSwitches [("T", "no-target-directory"), ("x", "one-file-system"),
    ("parents", "parents")] ++
  [{ key := "preserve", word := "preserve", demand := .optional }] ++
  Usage.plainSwitches [("r", "recursive"), ("clear", "remove-destination")] ++
  [{ key := "sparse", word := "sparse", demand := .value },
    { key := "reflink", word := "reflink", demand := .optional },
    { key := "trim", word := "strip-trailing-slashes" }, Backup.suffixSwitch,
    { key := "s", word := "symbolic-link" },
    { key := "t", word := "target-directory", demand := .value }, { key := "u", word := "update" },
    { key := "v", word := "verbose" },
    { key := "context", word := "context", demand := .optional }] ++
  Usage.plainSwitches [("b", ""), ("d", ""), ("H", ""), ("p", ""), ("R", ""), ("Z", "")]

/-- The switches of moving. -/
def moveSwitches : List Switch :=
  [Backup.switch, { key := "Z", word := "context" }] ++
  Usage.plainSwitches [("f", "force"), ("i", "interactive"), ("n", "no-clobber"),
    ("T", "no-target-directory"), ("trim", "strip-trailing-slashes")] ++
  [Backup.suffixSwitch, { key := "t", word := "target-directory", demand := .value }] ++
  Usage.plainSwitches [("u", "update"), ("v", "verbose"), ("b", "")]

/-- What can be kept of a file besides its content. -/
inductive Property
  | mode
  | times
  | ownership
  | links
  | context
  | attributes
  | all
  deriving DecidableEq, Repr, Inhabited

/-- The words for properties. -/
def propertyNames : List (String × Property) :=
  [("mode", .mode), ("timestamps", .times), ("ownership", .ownership), ("links", .links),
    ("context", .context), ("xattr", .attributes), ("all", .all)]

/-- The same transfer, with properties that are kept or not. -/
def withProperties (transfer : Transfer) (switch : String) (keeps : Bool) (value : Bytes) :
    Except Refusal Transfer :=
  (splitAt 44 value).foldlM (fun transfer word => do
    match ← Usage.choose switch propertyNames word with
    | .mode => pure { transfer with keepsMode := keeps }
    | .times => pure { transfer with keepsTime := keeps }
    | .all => pure { transfer with keepsMode := keeps, keepsTime := keeps }
    | _ => pure transfer) transfer

/-- What a switch changes. -/
def take (transfer : Transfer) (given : Given) : Except Refusal Transfer :=
  match given.key with
  | "a" => .ok { transfer with
      recursive := true, following := some .none, keepsMode := true, keepsTime := true }
  | "d" | "P" => .ok { transfer with following := some .none }
  | "f" => .ok { transfer with
      forces := true, clash := if transfer.moves then .replaces else transfer.clash }
  | "H" => .ok { transfer with following := some .operands }
  | "i" => .ok { transfer with clash := .asks }
  | "l" => .ok { transfer with hardLinks := true }
  | "L" => .ok { transfer with following := some .all }
  | "n" => .ok { transfer with clash := .keeps }
  | "p" => .ok { transfer with keepsMode := true, keepsTime := true }
  | "preserve" =>
    match given.value with
    | some value => transfer.withProperties "--preserve" true value
    | none => .ok { transfer with keepsMode := true, keepsTime := true }
  | "drop" => transfer.withProperties "--no-preserve" false (given.value.getD [])
  | "sparse" => do
    let known := [("never", 0), ("auto", 1), ("always", 2)]
    discard (Usage.choose "--sparse" known (given.value.getD []))
    pure transfer
  | "reflink" => do
    let known := [("auto", 0), ("always", 1), ("never", 2)]
    if let some value := given.value then discard (Usage.choose "--reflink" known value)
    pure transfer
  | "b" => .ok { transfer with backs := true }
  | "backup" => .ok { transfer with
      backs := true, kind := given.value.orElse fun _ => transfer.kind }
  | "S" => .ok { transfer with backs := true, suffix := given.value }
  | "hollow" => .ok { transfer with hollow := true }
  | "parents" => .ok { transfer with withParents := true }
  | "r" | "R" => .ok { transfer with recursive := true }
  | "s" => .ok { transfer with softLinks := true }
  | "t" =>
    if transfer.directory.isSome then
      .error { message := bytes "multiple target directories specified" }
    else .ok { transfer with directory := given.value }
  | "T" => .ok { transfer with exact := true }
  | "u" => .ok { transfer with updates := true }
  | "v" => .ok { transfer with talks := true }
  | "clear" => .ok { transfer with clears := true }
  | "trim" => .ok { transfer with trims := true }
  | "context" => .ok { transfer with labels := transfer.labels || given.value.isSome }
  | _ => .ok transfer

/-- One file that is transferred to a name. -/
structure Pair where
  source : Bytes
  target : Bytes
  /-- The operand that the source belongs to, and the name that it gets. -/
  top : Bytes × Bytes
  isOperand : Bool := true
  /-- The number of the directory that is being made for the operand. -/
  made : Option Nat := none
  deriving Repr, Inhabited

/-- Whether two paths name the same entry of a directory. -/
def isSameName (first second : Bytes) : Task Bool := do
  if lastName first ≠ lastName second then return false
  let above := fun (path : Bytes) => Task.request (.examine (withoutLastName path) true)
  match ← above first, ← above second with
  | .ok facts, .ok others => pure (facts.number = others.number)
  | _, _ => pure false

/-- Whether a file can be put in the place of another although they may be the same. Nothing has to
be done if the second answer is true. -/
def mayReplace (transfer : Transfer) (pair : Pair) (source target : Facts) :
    Task (Bool × Bool) := do
  let isLink := fun (facts : Facts) => (facts.file.node matches .link _ : Bool)
  let same := source.number = target.number
  if same && transfer.hardLinks then return (true, true)
  let literal := !transfer.follows pair.isOperand
  if literal && isLink source && isLink target then
    if ← isSameName pair.source pair.target then return (false, false)
    else if transfer.backup.kind ≠ .none then return (true, false)
    else if same then return (!transfer.moves, true)
    else return (true, false)
  if !literal && !same then return (true, false)
  let (source', target') ← if literal then pure (source, target)
    else do
      match ← Task.request (.examine pair.source false),
          ← Task.request (.examine pair.target false) with
      | .ok first, .ok second => pure (first, second)
      | _, _ => return (true, false)
  let clears := transfer.clears || transfer.moves
  if !literal && isLink source' && isLink target' && transfer.clears then return (true, false)
  if transfer.backup.kind ≠ .none then
    if source'.number ≠ target'.number then
      return (transfer.moves || literal || !isLink source' || isLink target', false)
    else return (!(← isSameName pair.source pair.target), false)
  if clears && isLink target' then return (true, false)
  if !isLink source' && !isLink target' && source'.number ≠ target'.number then
    return (true, false)
  if transfer.moves && isLink source && target'.names > 1 then
    return (true, false)
  if transfer.softLinks && isLink target' then return (true, false)
  if literal then
    let final := fun (path : Bytes) (facts : Facts) => do
      if isLink facts then pure (← Task.request (.examine path true)).toOption
      else pure (some facts)
    match ← final pair.source source', ← final pair.target target' with
    | some first, some second =>
      if first.number ≠ second.number then return (true, false)
      else if transfer.hardLinks then return (true, !isLink target')
    | _, _ => return (true, false)
  return (false, false)

/-- The question that is asked about a file that is in the way. -/
def question (transfer : Transfer) (target : Facts) (path : Bytes) : Bytes :=
  let file := target.file
  if file.allows .write then bytes "overwrite " ++ quoteName path
  else
    let mode := file.node.mode
    let octal := (Nat.toDigits 8 mode).map fun digit => UInt8.ofNat digit.toNat
    let shown := List.replicate (4 - octal.length) 48 ++ octal
    let letters := (Mode.letters 45 mode).drop 1
    if transfer.moves || transfer.clears || transfer.forces then
      bytes "replace " ++ quoteName path ++ bytes ", overriding mode " ++ shown ++ bytes " (" ++
        letters ++ bytes ")"
    else
      bytes "unwritable " ++ quoteName path ++ bytes " (mode " ++ shown ++ bytes ", " ++ letters ++
        bytes "); try anyway"

/-- Whether a file is put in the place of another one. -/
def replaces (transfer : Transfer) (invocation : Invocation) (source target : Facts)
    (path : Bytes) : Reported Bool := do
  let isDirectory := source.file.node.isDirectory
  match transfer.clash with
  | .keeps => pure (isDirectory && !transfer.moves)
  | .asks =>
    if isDirectory && !transfer.moves then pure true
    else ask invocation (transfer.question target path)
  | .usual | .replaces => pure true

/-- Removes what is in the way, and tells whether that worked. -/
def clear (transfer : Transfer) (invocation : Invocation) (path : Bytes) : Reported Bool := do
  match ← request (.remove path) with
  | .ok () =>
    if transfer.talks then say (bytes "removed " ++ quoteName path)
    pure true
  | .error cause =>
    if cause = .noEntry then pure true
    else
      failWith invocation "cannot remove" path cause
      pure false

/-- Two names in a message. -/
def arrow (source target : Bytes) : Bytes :=
  quoteName source ++ bytes " -> " ++ quoteName target

/-- What is said about two names and a cause. -/
def failBetween (invocation : Invocation) (deed : String) (source target : Bytes)
    (cause : Errno) : Reported Unit :=
  fail invocation (bytes (deed ++ " ") ++ quoteName source ++ bytes " to " ++ quoteName target ++
    bytes (": " ++ cause.text))

/-- Gives a copy the permission bits and the time of its source, as far as that is wanted. -/
def keepProperties (transfer : Transfer) (source : Facts) (target : Bytes) (follow : Bool) :
    Reported Unit := do
  if transfer.keepsTime then
    discard (request (.changeTime target (some source.file.modified) follow))
  if transfer.keepsMode && follow then
    discard (request (.changeMode target source.file.node.mode))

/-- Opens the target of a copy; `fresh` tells that nothing is in the way. -/
def openTarget (transfer : Transfer) (invocation : Invocation) (source : Facts) (target : Bytes)
    (fresh : Bool) : Reported (Option Nat) := do
  let mode := source.file.node.mode &&& 0o777
  let create : Reported (Option Nat) := do
    match ← request (.openFile target .creating mode) with
    | .ok descriptor => pure (some descriptor)
    | .error cause =>
      let isLink := match ← request (.examine target false) with
        | .ok facts => (facts.file.node matches .link _ : Bool)
        | .error _ => false
      if cause = .alreadyExists && isLink then
        fail invocation (bytes "not writing through dangling symlink " ++ quoteName target)
      else
        let cause := if cause = .isDirectory && target.getLast? = some 47 then .notDirectory
          else cause
        failWith invocation "cannot create regular file" target cause
      pure none
  if fresh then create
  else match ← request (.openFile target { writes := true, empties := !transfer.hollow } mode) with
    | .ok descriptor => pure (some descriptor)
    | .error cause =>
      if transfer.forces then
        if ← transfer.clear invocation target then create else pure none
      else
        failWith invocation "cannot create regular file" target cause
        pure none

/-- Copies the content of a file. -/
def copyContent (transfer : Transfer) (invocation : Invocation) (facts : Facts) (pair : Pair)
    (fresh : Bool) : Reported Unit := do
  let manner := Manner.reading
  match ← request (.openFile pair.source manner 0) with
  | .error cause =>
    fail invocation (bytes "cannot open " ++ quoteName pair.source ++
      bytes (" for reading: " ++ cause.text))
  | .ok descriptor =>
    match ← transfer.openTarget invocation facts pair.target fresh with
    | none => discard (request (.close descriptor))
    | some written =>
      let result ← Task.iterate () fun () => do
        if transfer.hollow then return .inr none
        match ← Task.request (.read descriptor 131072) with
        | .error cause => pure (.inr (some ("error reading", pair.source, cause)))
        | .ok [] => pure (.inr none)
        | .ok data =>
          match ← Task.writeAll written data with
          | .ok () => pure (.inl ())
          | .error cause => pure (.inr (some ("error writing", pair.target, cause)))
      discard (request (.close descriptor))
      discard (request (.close written))
      match result with
      | some (deed, path, cause) => failWith invocation deed path cause
      | none => transfer.keepProperties facts pair.target true

/-- Says that a file is the same as the one in its way. -/
def refuseSame (invocation : Invocation) (pair : Pair) : Reported Unit :=
  fail invocation (quoteName pair.source ++ bytes " and " ++ quoteName pair.target ++
    bytes " are the same file")

/-- What is found out about a target. -/
structure Way where
  /-- The transfer goes on. -/
  goesOn : Bool := false
  /-- Nothing is in the way. -/
  fresh : Bool := false
  /-- What was in the way is kept here. -/
  kept : Option Bytes := none
  deriving Repr, Inhabited

/-- Keeps what is in the way of a transfer under another name. -/
def backUp (transfer : Transfer) (invocation : Invocation) (pair : Pair) : Reported Way := do
  if ← transfer.backup.endangers pair.source pair.target then
    fail invocation (bytes "backing up " ++ quoteName pair.target ++
      bytes " might destroy source;  " ++ quoteName pair.source ++
      bytes (if transfer.moves then " not moved" else " not copied"))
    return {}
  match ← transfer.backup.keep pair.target with
  | .ok kept => pure { goesOn := true, fresh := true, kept }
  | .error cause =>
    failWith invocation "cannot backup" pair.target cause
    pure {}

/-- Finds out whether a transfer goes on although something is in its way, and clears the way. -/
def clearWay (transfer : Transfer) (invocation : Invocation) (pair : Pair) (source target : Facts)
    (created : List (Bytes × Nat)) : Reported Way := do
  let (allowed, done) ← mayReplace transfer pair source target
  let isDirectory := source.file.node.isDirectory
  let inWay := target.file.node.isDirectory
  let keeps := transfer.backup.kind ≠ .none
  if transfer.clash ≠ .keeps && !allowed then
    refuseSame invocation pair
    return {}
  if transfer.updates && !isDirectory && source.file.modified ≤ target.file.modified then
    return {}
  if !(← transfer.replaces invocation source target pair.target) || done then
    return {}
  if isDirectory && !inWay && !(transfer.moves && keeps) then
    fail invocation (bytes "cannot overwrite non-directory " ++ quoteName pair.target ++
      bytes " with directory " ++ quoteName pair.source)
    return {}
  if pair.isOperand && !inWay && transfer.backup.kind ≠ .numbered &&
      created.contains (lastName pair.target, target.number) then
    fail invocation (bytes "will not overwrite just-created " ++ quoteName pair.target ++
      bytes " with " ++ quoteName pair.source)
    return {}
  if !isDirectory && inWay && !(transfer.moves && keeps) then
    fail invocation (bytes "cannot overwrite directory " ++ quoteName pair.target ++
      bytes " with non-directory")
    return {}
  let name := lastName pair.source
  if keeps && name ≠ [46] && name ≠ [46, 46] && (transfer.moves || !inWay) then
    return ← transfer.backUp invocation pair
  let isRegular := source.file.node matches .regular ..
  let literal := transfer.following = some .none ||
    (transfer.following.isNone && transfer.recursive)
  if !inWay && !transfer.moves &&
      (transfer.clears || (!transfer.hollow && literal && !isRegular)) then
    return { goesOn := ← transfer.clear invocation pair.target, fresh := true }
  return { goesOn := true }

/-- Does some work for a transfer, and undoes the backup that was made for it if that fails. -/
def orUndo (transfer : Transfer) (invocation : Invocation) (target : Bytes) (kept : Option Bytes)
    (work : Reported Unit) : Reported Unit := do
  let before := (← get).code
  modify fun report => { report with code := 0 }
  work
  let failed := (← get).code ≠ 0
  if !failed then modify fun report => { report with code := before }
  if !failed then return
  if let some path := kept then
    match ← request (.rename path target false) with
    | .ok () =>
      if transfer.talks then
        say (quoteName path ++ bytes " -> " ++ quoteName target ++ bytes " (unbackup)")
    | .error cause => failWith invocation "cannot un-backup" target cause

/-- Makes a link to a file instead of a copy of it. -/
def makeLink (transfer : Transfer) (invocation : Invocation) (pair : Pair) (fresh : Bool) :
    Reported Unit := do
  if !fresh && transfer.forces then discard (transfer.clear invocation pair.target)
  if transfer.softLinks then
    if pair.source.head? ≠ some 47 && withoutLastName pair.target ≠ [46] then
      fail invocation (mention pair.target ++
        bytes ": can make relative symbolic links only in current directory")
    else
      let node := Node.link ((Utf8.toString? pair.source).getD "")
      match ← request (.create pair.target node) with
      | .ok () => pure ()
      | .error cause =>
        fail invocation (bytes "cannot create symbolic link " ++ quoteName pair.target ++
          bytes " to " ++ quoteName pair.source ++ bytes (": " ++ cause.text))
  else
    match ← request (.share pair.source pair.target (transfer.follows pair.isOperand)) with
    | .ok () => pure ()
    | .error cause =>
      fail invocation (bytes "cannot create hard link " ++ quoteName pair.target ++
        bytes " to " ++ quoteName pair.source ++ bytes (": " ++ cause.text))

/-- Copies a file that is no directory. -/
def copyFile (transfer : Transfer) (invocation : Invocation) (facts : Facts) (pair : Pair)
    (fresh : Bool) (kept : Option Bytes) : Reported Unit := do
  if transfer.talks then say (arrow pair.source pair.target ++ Backup.mark kept)
  if transfer.hardLinks || transfer.softLinks then makeLink transfer invocation pair fresh
  else match facts.file.node with
    | .link target =>
      match ← request (.create pair.target (.link target)) with
      | .ok () => transfer.keepProperties facts pair.target false
      | .error cause => failWith invocation "cannot create symbolic link" pair.target cause
    | .regular .. => transfer.copyContent invocation facts pair fresh
    | .fifo mode =>
      if !transfer.recursive then transfer.copyContent invocation facts pair fresh
      else match ← request (.create pair.target (.fifo mode)) with
        | .ok () => transfer.keepProperties facts pair.target true
        | .error cause => failWith invocation "cannot create fifo" pair.target cause
    | _ =>
      if !transfer.recursive then transfer.copyContent invocation facts pair fresh
      else failWith invocation "cannot create special file" pair.target .notPermitted

/-- What is in a directory, in the order in which the files were made. -/
def entriesOf (path : Bytes) (names : List String) : Task (List Bytes) := do
  let entries ← names.mapM fun name => do
    let facts ← Task.request (.examine (inside path (bytes name)) false)
    pure ((facts.toOption.map (·.number)).getD 0, bytes name)
  pure ((entries.mergeSort fun first second => first.1 ≤ second.1).map (·.2))

/-- Makes the directory that a directory is copied to, unless it is there, and tells whether that
worked. -/
def makeDirectory (transfer : Transfer) (invocation : Invocation) (pair : Pair) (mode : Nat)
    (fresh : Bool) : Reported Bool := do
  if !fresh then return true
  match ← request (.create pair.target (.directory (mode ||| 0o700))) with
  | .ok () =>
    if transfer.talks then say (arrow pair.source pair.target)
    pure true
  | .error cause =>
    failWith invocation "cannot create directory" pair.target cause
    pure false

/-- Copies a file, or a directory with what is in it, through at most so many levels, and tells
whether a directory turned out to be in itself. -/
def copyWithin (transfer : Transfer) (invocation : Invocation) (created : List (Bytes × Nat)) :
    Nat → Pair → Reported Bool
  | 0, pair => do
    failWith invocation "cannot access" pair.source .tooManyLinks
    pure false
  | levels + 1, pair => do
    match ← request (.examine pair.source (transfer.follows pair.isOperand)) with
    | .error cause =>
      failWith invocation "cannot stat" pair.source cause
      pure false
    | .ok facts =>
      let isDirectory := facts.file.node.isDirectory
      if isDirectory && !transfer.recursive then
        fail invocation (bytes "-r not specified; omitting directory " ++ quoteName pair.source)
        return false
      let isLiteral := transfer.clears || transfer.hardLinks || transfer.softLinks ||
        transfer.backup.kind ≠ .none || isDirectory || (facts.file.node matches .link _) ||
        (transfer.recursive && !(facts.file.node matches .regular ..))
      let place := if isLiteral || transfer.exact then lookedUp pair.target else pair.target
      let way : Way ← match ← request (.examine place (!isLiteral)) with
        | .ok target => transfer.clearWay invocation pair facts target created
        | .error cause =>
          if cause = .noEntry then pure { goesOn := true, fresh := true }
          else if cause = .tooManyLinks && transfer.forces then pure { goesOn := true }
          else
            failWith invocation "cannot stat" pair.target cause
            pure {}
      let fresh := way.fresh
      if !way.goesOn then return false
      if !isDirectory then
        transfer.orUndo invocation pair.target way.kept
          (transfer.copyFile invocation facts pair fresh way.kept)
        return false
      if pair.made = some facts.number then
        fail invocation (bytes "cannot copy a directory, " ++ quoteName pair.top.1 ++
          bytes ", into itself, " ++ quoteName pair.top.2)
        return true
      let mode := facts.file.node.mode
      if !(← transfer.makeDirectory invocation pair mode fresh) then return false
      let made ← if !fresh then pure pair.made
        else match pair.made, ← request (.examine pair.target true) with
          | none, .ok made => pure (some made.number)
          | made, _ => pure made
      let loops ← match ← request (.list pair.source) with
        | .error cause =>
          failWith invocation "cannot access" pair.source cause
          pure false
        | .ok names =>
          -- Nothing more is copied where a directory was found in itself.
          (← entriesOf pair.source names).foldlM (fun loops name => do
            if loops then return true
            copyWithin transfer invocation created levels { pair with
              source := inside pair.source name, target := inside pair.target name
              isOperand := false, made }) false
      if fresh && mode ||| 0o700 ≠ mode then
        let mask ← request (.mask 0)
        discard (request (.mask mask))
        discard (request (.changeMode pair.target (Mode.without mode mask)))
      transfer.keepProperties facts pair.target true
      pure loops

/-- The most levels of directories that are gone through. -/
def mostLevels : Nat := 2000

/-- Moves a file to another file system: copies it and removes it. -/
def moveAcross (transfer : Transfer) (invocation : Invocation) (isDirectory : Bool) (pair : Pair)
    (kept : Option Bytes) : Reported Unit := do
  let result ← if isDirectory then request (.removeDirectory pair.target)
    else request (.remove pair.target)
  if let .error cause := result then
    if cause ≠ .noEntry then
      return ← fail invocation (bytes "inter-device move failed: " ++ quoteName pair.source ++
        bytes " to " ++ quoteName pair.target ++
        bytes ("; unable to remove target: " ++ cause.text))
  if transfer.talks && !isDirectory then
    say (bytes "copied " ++ arrow pair.source pair.target ++ Backup.mark kept)
  let before := (← get).code
  modify fun report => { report with code := 0 }
  discard (copyWithin
    { recursive := true, following := some .none, keepsMode := true, keepsTime := true }
    invocation [] mostLevels pair)
  if (← get).code = 0 then
    match ← request (.remove pair.source) with
    | .ok () => if transfer.talks then say (bytes "removed " ++ quoteName pair.source)
    | .error cause => failWith invocation "cannot remove" pair.source cause
  modify fun report => { report with code := max before report.code }

/-- Moves a file; `attempt` is what came of a first attempt. -/
def moveOne (transfer : Transfer) (invocation : Invocation) (created : List (Bytes × Nat))
    (attempt : Option (Except Errno Unit)) (pair : Pair) : Reported Unit := do
  let attempt ← match attempt with
    | some attempt => pure attempt
    | none => request (.rename pair.source pair.target true)
  let announce := fun (kept : Option Bytes) => do
    if transfer.talks then
      say (bytes "renamed " ++ arrow pair.source pair.target ++ Backup.mark kept)
  match attempt with
  | .ok () => announce none
  | .error cause =>
    if cause = .alreadyExists && transfer.clash = .keeps then return
    match ← request (.examine pair.source false) with
    | .error cause => failWith invocation "cannot stat" pair.source cause
    | .ok facts =>
      let (way, cause) ← match ← request (.examine (lookedUp pair.target) false) with
        | .ok target => do
          pure (← transfer.clearWay invocation pair facts target created, Errno.alreadyExists)
        | .error other =>
          if other = .noEntry then pure ({ goesOn := true }, cause)
          else
            failWith invocation "cannot stat" pair.target other
            pure ({}, cause)
      if !way.goesOn then return
      transfer.orUndo invocation pair.target way.kept do
        let result ← if cause = .alreadyExists
          then request (.rename pair.source (lookedUp pair.target) false) else pure (.error cause)
        match result with
        | .ok () => announce way.kept
        | .error .crossDevice =>
          transfer.moveAcross invocation facts.file.node.isDirectory pair way.kept
        | .error cause =>
          if cause = .invalid then
            fail invocation (bytes "cannot move " ++ quoteName pair.top.1 ++
              bytes " to a subdirectory of itself, " ++ quoteName pair.top.2)
          else failBetween invocation "cannot move" pair.source pair.target cause

/-- Transfers one operand, unless it has been transferred already; gives what has been transferred
and created so far. -/
def operand (transfer : Transfer) (invocation : Invocation) (several : Bool)
    (seen created : List (Bytes × Nat)) (attempt : Option (Except Errno Unit))
    (source target : Bytes) : Reported (List (Bytes × Nat) × List (Bytes × Nat)) := do
  let before ← request (.examine source (transfer.follows true))
  let mark := before.toOption.map fun facts => (lastName source, facts.number)
  let isDirectory := before.toOption.any fun facts => facts.file.node.isDirectory
  if several && mark.any seen.contains && (!isDirectory || transfer.recursive) &&
      !transfer.moves && (isDirectory || transfer.backup.kind = .none) then
    let kind := if isDirectory then "directory " else "file "
    warn invocation (bytes ("warning: source " ++ kind) ++ quoteName source ++
      bytes " specified more than once")
    return (seen, created)
  let pair : Pair := { source, target, top := (source, target) }
  if transfer.moves then transfer.moveOne invocation created attempt pair
  else discard (transfer.copyWithin invocation created mostLevels pair)
  match ← request (.examine target false) with
  | .ok facts =>
    pure (seen ++ mark.toList, created ++ [(lastName target, facts.number)])
  | .error _ => pure (seen ++ mark.toList, created)

/-- Whether a path names a directory that files can be put in; the reason if not. -/
def checkDirectory (path : Bytes) : Task (Except Errno Unit) := do
  match ← Task.request (.examine path true) with
  | .ok facts => pure (if facts.file.node.isDirectory then .ok () else .error .notDirectory)
  | .error cause => pure (.error cause)

/-- Makes the directories that a source stands in below a directory, and tells whether all of them
are there. -/
def makeParents (transfer : Transfer) (invocation : Invocation) (directory : Bytes) :
    List Bytes → Reported Bool
  | [] => pure true
  | source :: rest => do
    let target := inside directory source
    let isThere ← match ← request (.examine target true) with
      | .ok facts =>
        if !facts.file.node.isDirectory then
          fail invocation (quoteName target ++ bytes " exists but is not a directory")
        pure facts.file.node.isDirectory
      | .error _ =>
        match ← request (.examine source true) with
        | .error cause =>
          failWith invocation "failed to get attributes of" source cause
          pure false
        | .ok facts =>
          if !facts.file.node.isDirectory then
            failWith invocation "failed to get attributes of" source .notDirectory
            pure false
          else match ← request (.create target (.directory (facts.file.node.mode ||| 0o700))) with
            | .ok () =>
              if transfer.talks then say (source ++ bytes " -> " ++ target)
              pure true
            | .error cause =>
              failWith invocation "cannot make directory" target cause
              pure false
    if isThere then makeParents transfer invocation directory rest else pure false

/-- The paths of the directories that a path leads through, the topmost first. -/
def parentsOf (path : Bytes) : List Bytes :=
  (List.range path.length).filterMap fun length =>
    let start := path.take length
    if path[length]? = some 47 && !start.isEmpty && start.getLast? ≠ some 47 then some start
    else none

/-- Puts files in a directory. -/
def into (transfer : Transfer) (invocation : Invocation) (directory : Bytes)
    (sources : List Bytes) : Task UInt8 :=
  Reported.finish invocation do
    discard (sources.foldlM (fun (seen, created) source => do
      let source := if transfer.trims then withoutSlashes source else source
      let name := lastName source
      let trimmed := withoutSlashes source
      let isReady ← if transfer.withParents
        then transfer.makeParents invocation directory (parentsOf trimmed) else pure true
      if !isReady then return (seen, created)
      -- What is above a directory is copied as what is in it.
      let target := if transfer.withParents then
          inside directory (trimmed.dropWhile (· = 47))
        else inside directory (if name = [46, 46] && !transfer.moves then [46] else name)
      transfer.operand invocation (sources.length > 1) seen created none source target)
      (([], []) : List (Bytes × Nat) × List (Bytes × Nat)))

/-- The backups that are asked for, or why they cannot be made. -/
def backupOf (transfer : Transfer) (environment : Environment) : Except Refusal Backup :=
  if !transfer.backs then .ok {}
  else if transfer.clash = .keeps then
    .error {
      message := bytes "options --backup and --no-clobber are mutually exclusive", helps := true }
  else Backup.ofRequest environment transfer.kind transfer.suffix

/-- Copies or moves files to where the last operand or a switch says. -/
def place (invocation : Invocation) (transfer : Transfer) (operands : List Bytes) :
    Task UInt8 := do
  let refuse := fun (what : String) (path : Bytes) (cause : Errno) => do
    complain invocation (bytes (what ++ " ") ++ quoteName path ++ bytes (": " ++ cause.text))
    pure (1 : UInt8)
  match transfer.directory with
  | some directory =>
    match ← checkDirectory directory with
    | .ok () => transfer.into invocation directory operands
    | .error cause => refuse "target directory" directory cause
  | none =>
    let last := operands.getLastD []
    let sources := operands.dropLast
    let source := sources.headD []
    let attempt ← if transfer.moves && !transfer.exact && sources.length = 1
      then do pure (some (← Task.request (.rename source last true))) else pure none
    let directory ← if transfer.exact || attempt.any (·.isOk) then pure (.error .notDirectory)
      else checkDirectory last
    match directory with
    | .ok () => transfer.into invocation last sources
    | .error cause =>
      if sources.length > 1 then refuse "target" last cause
      else if transfer.withParents then
        misuse invocation (bytes "with --parents, the destination must be a directory") 1
      else
        -- A file that replaces itself by force is copied to where it would be kept.
        let isItself := !transfer.moves && transfer.forces && transfer.backup.kind ≠ .none &&
          source = last && (match ← Task.request (.examine last true) with
            | .ok facts => (facts.file.node matches .regular .. : Bool)
            | .error _ => false)
        let (transfer, last) ← if isItself then do
            pure ({ transfer with backup := {} }, ← transfer.backup.pathFor last)
          else pure (transfer, last)
        let trim := fun (path : Bytes) =>
          if transfer.moves && transfer.trims then withoutSlashes path else path
        Reported.finish invocation do
          discard (transfer.operand invocation false [] [] attempt (trim source) (trim last))

/-- What is wrong with the operands of a transfer, if anything is. -/
def wrongOperands? (transfer : Transfer) (operands : List Bytes) : Option Refusal :=
  match transfer.directory.isSome, operands with
  | _, [] => some { message := bytes "missing file operand", helps := true }
  | false, [source] => some {
      message := bytes "missing destination file operand after " ++ quoteName source
      helps := true }
  | true, _ =>
    if transfer.exact then some {
      message := bytes "cannot combine --target-directory (-t) and --no-target-directory (-T)" }
    else none
  | false, operands =>
    match operands.drop 2 with
    | extra :: _ =>
      if transfer.exact then some {
        message := bytes "extra operand " ++ quoteName extra, helps := true }
      else none
    | [] => none

/-- Copies or moves files. -/
def run (invocation : Invocation) (transfer : Transfer) (operands : List Bytes) : Task UInt8 :=
  let warn := fun (work : Task UInt8) => do
    if transfer.labels then
      complain invocation
        (bytes "warning: ignoring --context; it requires an SELinux-enabled kernel")
    work
  let checked : Except Refusal Transfer := do
    if transfer.hardLinks && transfer.softLinks then
      .error { message := bytes "cannot make both hard and symbolic links", helps := true }
    -- What is asked for is looked at before the operands only if files are copied.
    if transfer.moves then (wrongOperands? transfer operands).elim (pure ()) .error
    let backup ← transfer.backupOf invocation.environment
    (wrongOperands? transfer operands).elim (pure ()) .error
    pure { transfer with backup }
  warn (match checked with
    | .error refusal => refuse invocation refusal 1
    | .ok transfer => place invocation transfer operands)

end Transfer

/-- Copies files. -/
def cp : Work :=
  Usage.work { switches := Transfer.copySwitches, take := Transfer.take } {} Transfer.run

/-- Moves files. -/
def mv : Work :=
  Usage.work { switches := Transfer.moveSwitches, take := Transfer.take } { moves := true }
    Transfer.run

end LineShell.Programs
