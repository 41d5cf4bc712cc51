import LineShell.Programs.Mode
import LineShell.Programs.Places
import LineShell.Programs.Report

/-! Permissions: a program that changes who may use files. -/

namespace LineShell.Programs

open Reported (request say warn fail)

/-- How the permission bits of files are changed. -/
structure Permitting where
  changes : List Mode.Change
  /-- The bits that are not given where nobody is named. -/
  mask : Nat := 0
  /-- What is in directories is changed as well. -/
  recursive : Bool := false
  /-- Nothing is said about files that cannot be changed. -/
  quiet : Bool := false
  /-- Every file is told about. -/
  talks : Bool := false
  /-- The files are told about that are changed. -/
  tells : Bool := false
  /-- It is an error if the mask keeps a bit from being changed. -/
  exact : Bool := false
  deriving DecidableEq, Repr, Inhabited

namespace Permitting

/-- Permission bits as digits and as letters. -/
def describe (mode : Nat) : Bytes :=
  let octal := (Nat.toDigits 8 mode).map fun digit => UInt8.ofNat digit.toNat
  List.replicate (4 - octal.length) 48 ++ octal ++ bytes " (" ++ (Mode.letters 45 mode).drop 1 ++
    bytes ")"

/-- Says that something went wrong with a file, if that is wanted. -/
def tellFailure (permitting : Permitting) (invocation : Invocation) (message : Bytes) :
    Reported Unit := do
  unless permitting.quiet do warn invocation message
  modify fun report => { report with code := 1 }

/-- Tells that nothing is known about a file, if that is wanted. -/
def tellMissing (permitting : Permitting) (path : Bytes) : Reported Unit := do
  if permitting.talks then say (quoteName path ++ bytes " could not be accessed")

/-- Changes the permission bits of a file. -/
def changeOne (permitting : Permitting) (invocation : Invocation) (path : Bytes) (facts : Facts) :
    Reported Unit := do
  let isDirectory := facts.file.node.isDirectory
  let before := facts.file.node.mode
  let after := Mode.adjust permitting.changes isDirectory permitting.mask before
  let difference := bytes " from " ++ describe before ++ bytes " to " ++ describe after
  match ← request (.changeMode path after) with
  | .ok () =>
    if before = after then
      if permitting.talks then
        say (bytes "mode of " ++ quoteName path ++ bytes " retained as " ++ describe after)
    else if permitting.talks || permitting.tells then
      say (bytes "mode of " ++ quoteName path ++ bytes " changed" ++ difference)
    let expected := Mode.adjust permitting.changes isDirectory 0 before
    if permitting.exact && Mode.without after expected ≠ 0 then
      let letters := fun (mode : Nat) => (Mode.letters 45 mode).drop 1
      fail invocation (mention path ++ bytes ": new permissions are " ++ letters after ++
        bytes ", not " ++ letters expected)
  | .error cause =>
    permitting.tellFailure invocation
      (bytes "changing permissions of " ++ quoteName path ++ bytes (": " ++ cause.text))
    if permitting.talks then
      say (bytes "failed to change mode of " ++ quoteName path ++ difference)

/-- Changes the permission bits of a file, and of what is in it, through at most so many levels. -/
def changeWithin (permitting : Permitting) (invocation : Invocation) : Nat → Bytes → Reported Unit
  | 0, path =>
    permitting.tellFailure invocation
      (bytes "cannot access " ++ quoteName path ++ bytes (": " ++ Errno.tooManyLinks.text))
  | levels + 1, path => do
    match ← request (.examine path true) with
    | .error cause =>
      let isLink := (← request (.examine path false)).isOk
      permitting.tellFailure invocation
        (if isLink && cause = .noEntry then
          bytes "cannot operate on dangling symlink " ++ quoteName path
        else bytes "cannot access " ++ quoteName path ++ bytes (": " ++ cause.text))
      permitting.tellMissing path
    | .ok facts =>
      permitting.changeOne invocation path facts
      if facts.file.node.isDirectory && permitting.recursive then
        match ← request (.list path) with
        | .error cause =>
          permitting.tellFailure invocation
            (bytes "cannot read directory " ++ quoteName path ++ bytes (": " ++ cause.text))
          permitting.tellMissing path
        | .ok names =>
          names.forM fun name => do
            let below := inside path (bytes name)
            let isLink := match ← request (.examine below false) with
              | .ok facts => (facts.file.node matches .link _ : Bool)
              | .error _ => false
            if isLink then
              if permitting.talks then
                say (bytes "neither symbolic link " ++ quoteName below ++
                  bytes " nor referent has been changed")
            else changeWithin permitting invocation levels below

/-- Whether an argument that begins with a minus describes a change of permission bits. -/
def isChange : Bytes → Bool
  | 45 :: rest =>
    ((rest.dropWhile (bytes "Rcfv").contains).head?).any (bytes "rwxXstugoa,+=01234567").contains
  | _ => false

/-- The arguments that begin with a minus and describe changes, and the other ones. -/
def splitChanges : List Bytes → List Bytes × List Bytes
  | [] => ([], [])
  | argument :: rest =>
    if argument = bytes "--" then ([], argument :: rest)
    else
      let (changes, others) := splitChanges rest
      if isChange argument then (argument :: changes, others) else (changes, argument :: others)

/-- The switches of changing permissions. -/
def switches : List Switch :=
  Usage.plainSwitches [("c", "changes"), ("R", "recursive"), ("bold", "no-preserve-root"),
    ("safe", "preserve-root"), ("f", "quiet")] ++
  [{ key := "reference", word := "reference", demand := .value }] ++
  Usage.plainSwitches [("f", "silent"), ("v", "verbose")]

/-- The most levels of directories that are gone through. -/
def mostLevels : Nat := 2000

/-- Changes the permission bits of files in the way that switches ask for. -/
def changeAll (invocation : Invocation) (given : List Given) (permitting : Permitting)
    (paths : List Bytes) : Task UInt8 :=
  let isNoise := fun (given : Given) => given.key == "c" || given.key == "v"
  let noise := ((given.reverse.find? isNoise).map (·.key)).getD ""
  let permitting := { permitting with
    recursive := gave given "R", quiet := gave given "f", talks := noise == "v"
    tells := noise == "c" }
  Reported.finish invocation (paths.forM (permitting.changeWithin invocation mostLevels))

/-- Changes the permission bits of files; some changes may have been taken from the arguments
already. -/
def run (changes : List Bytes) (invocation : Invocation) (given : List Given)
    (operands : List Bytes) : Task UInt8 := do
  match valueOf? given "reference" with
  | some model =>
    if !changes.isEmpty then
      misuse invocation (bytes "cannot combine mode and --reference options") 1
    else if operands.isEmpty then misuse invocation (bytes "missing operand") 1
    else match ← Task.request (.examine model true) with
      | .error cause =>
        complain invocation
          (bytes "failed to get attributes of " ++ quoteName model ++ bytes (": " ++ cause.text))
        pure 1
      | .ok facts =>
        let change : Mode.Change := {
          operator := 61, affected := Mode.all, value := facts.file.node.mode
          mentioned := Mode.all }
        changeAll invocation given { changes := [change] } operands
  | none =>
    let (text, paths) := if changes.isEmpty then (operands.headD [], operands.drop 1)
      else ((changes.intersperse [44]).flatten, operands)
    if paths.isEmpty then
      if changes.isEmpty && !operands.isEmpty then
        misuse invocation (bytes "missing operand after " ++ quoteWord text) 1
      else misuse invocation (bytes "missing operand") 1
    else match Mode.read? text with
      | none => misuse invocation (bytes "invalid mode: " ++ quoteWord text) 1
      | some parts =>
        let mask ← Task.request (.mask 0)
        discard (Task.request (.mask mask))
        changeAll invocation given { changes := parts, mask, exact := !changes.isEmpty } paths

end Permitting

/-- Changes the permission bits of files. -/
def chmod : Work := fun invocation =>
  let (changes, arguments) := Permitting.splitChanges invocation.arguments
  Usage.work { switches := Permitting.switches, take := Usage.remember } []
    (Permitting.run changes) { invocation with arguments }

end LineShell.Programs
