import LineShell.Programs.Places
import LineShell.Programs.Report

/-! Removal: a program that removes files, and directories with all that is in them. -/

namespace LineShell.Programs

open Reported (request say warn fail failWith ask)

/-- When questions are asked before something is removed. -/
inductive Removal.Asking
  | never
  | always
  /-- Once, before many files are removed. -/
  | once
  deriving DecidableEq, Repr, Inhabited

/-- How files are removed. -/
structure Removal where
  recursive : Bool := false
  /-- Nothing is said about files that are not there. -/
  lenient : Bool := false
  asking : Removal.Asking := .never
  /-- Directories with nothing in them are removed as well. -/
  directories : Bool := false
  talks : Bool := false
  /-- The root can be removed like any other directory. -/
  bold : Bool := false
  deriving DecidableEq, Repr, Inhabited

namespace Removal

/-- The switches of removing files. -/
def switches : List Switch :=
  Usage.plainSwitches [("d", "dir"), ("f", "force"), ("i", ""), ("I", ""), ("r", "recursive"),
    ("R", ""), ("v", "verbose"), ("bold", "no-preserve-root"),
    ("cautious", "one-file-system")] ++ [
    { key := "interactive", word := "interactive", demand := .optional },
    { key := "cautious", word := "preserve-root", demand := .optional }]

/-- The words for when questions are asked. -/
def askingNames : List (String × Asking) :=
  [("never", .never), ("no", .never), ("none", .never), ("once", .once), ("always", .always),
    ("yes", .always)]

/-- What a switch changes. -/
def take (removal : Removal) (given : Given) : Except Refusal Removal :=
  match given.key with
  | "d" => .ok { removal with directories := true }
  | "f" => .ok { removal with asking := .never, lenient := true }
  | "i" => .ok { removal with asking := .always, lenient := false }
  | "I" => .ok { removal with asking := .once, lenient := false }
  | "v" => .ok { removal with talks := true }
  | "bold" => .ok { removal with bold := true }
  | "cautious" =>
    match given.value.filter (· ≠ bytes "all") with
    | none => .ok removal
    | some value => .error {
        message := bytes "unrecognized --preserve-root argument: " ++ quoteWord value }
  | "interactive" => do
    let asking ← match given.value with
      | none => pure .always
      | some name => Usage.choose "--interactive" askingNames name
    pure { removal with asking, lenient := removal.lenient && asking = .never }
  | _ => .ok { removal with recursive := true }

/-- What a file is called in questions. -/
def kindOf : Node → String
  | .directory _ => "directory"
  | .regular _ [] => "regular empty file"
  | .regular .. => "regular file"
  | .link _ => "symbolic link"
  | .fifo _ => "fifo"
  | .device _ => "character special file"

/-- Asks whether a file may be removed, if questions are asked. -/
def confirm (removal : Removal) (invocation : Invocation) (file : File) (path : Bytes) :
    Reported Bool := do
  if removal.asking ≠ .always then pure true
  else
    let isLink := file.node matches .link _
    let guarded := if isLink || file.allows .write then "" else "write-protected "
    ask invocation (bytes ("remove " ++ guarded ++ kindOf file.node ++ " ") ++ quoteName path)

/-- Whether a failure may be passed over in silence. -/
def isMissing (cause : Errno) : Bool :=
  cause = .noEntry || cause = .notDirectory || cause = .invalid || cause = .illegalSequence

/-- Takes the name of a file or an empty directory away, and tells whether it is gone; `unread` is
why a directory could not be read. -/
def excise (removal : Removal) (invocation : Invocation) (isDirectory : Bool)
    (unread : Option Errno) (path : Bytes) : Reported Bool := do
  let result ← if isDirectory then request (.removeDirectory path) else request (.remove path)
  match result with
  | .ok () =>
    if removal.talks then
      say (bytes (if isDirectory then "removed directory " else "removed ") ++ quoteName path)
    pure true
  | .error cause =>
    if removal.lenient && isMissing cause then pure true
    else
      let cause := if cause = .notEmpty then unread.getD cause else cause
      failWith invocation "cannot remove" path cause
      pure false

/-- Removes a path and all that is below it, through at most so many levels, and tells whether it is
gone. A directory stays if something in it does. -/
def removeWithin (removal : Removal) (invocation : Invocation) : Nat → Bool → Bytes → Reported Bool
  | 0, _, path => do
    failWith invocation "cannot remove" path .tooManyLinks
    pure false
  | levels + 1, isOperand, path => do
    match ← request (.examine path false) with
    | .error _ => removal.excise invocation false none path
    | .ok facts =>
      if !facts.file.node.isDirectory then
        if ← removal.confirm invocation facts.file path then
          removal.excise invocation false none path
        else pure false
      else
        let listed ← request (.list path)
        let isEmpty : Bool := listed matches .ok []
        let isRoot := match ← request (.examine (bytes "/") true) with
          | .ok root => root.number = facts.number
          | .error _ => false
        if !removal.recursive && !(removal.directories && isEmpty) then
          let cause := if removal.directories then Errno.notEmpty else .isDirectory
          failWith invocation "cannot remove" path cause
          pure false
        else if isOperand && (lastName path = [46] || lastName path = [46, 46]) then
          fail invocation (bytes "refusing to remove '.' or '..' directory: skipping " ++
            quoteName path)
          pure false
        else if isOperand && isRoot && !removal.bold then
          let same := if path = [47] then [] else bytes " (same as '/')"
          warn invocation (bytes "it is dangerous to operate recursively on " ++
            quoteName path ++ same)
          fail invocation (bytes "use --no-preserve-root to override this failsafe")
          pure false
        else
          let guarded := if facts.file.allows .write then "" else "write-protected "
          let descends ← if removal.asking = .always && !isEmpty then
              ask invocation
                (bytes ("descend into " ++ guarded ++ "directory ") ++ quoteName path)
            else pure true
          if !descends then pure false
          else match listed with
            | .error cause =>
              if ← removal.confirm invocation facts.file path then
                removal.excise invocation true (some cause) path
              else pure false
            | .ok names =>
              let gone ← names.foldlM (fun gone name => do
                let isGone ← removeWithin removal invocation levels false
                  (inside path (bytes name))
                pure (gone && isGone)) true
              if !gone then pure false
              else if ← removal.confirm invocation facts.file path then
                removal.excise invocation true none path
              else pure false

/-- The most levels of directories that are gone through. -/
def mostLevels : Nat := 2000

/-- Removes files. -/
def run (invocation : Invocation) (removal : Removal) (operands : List Bytes) : Task UInt8 := do
  if operands.isEmpty then
    if removal.lenient then pure 0 else misuse invocation (bytes "missing operand") 1
  else
    let count := operands.length
    Reported.finish invocation do
      let goesOn ← if removal.asking = .once && (removal.recursive || count > 3) then
          ask invocation (bytes "remove " ++ digits count ++
            bytes (if count = 1 then " argument" else " arguments") ++
            bytes (if removal.recursive then " recursively" else ""))
        else pure true
      if goesOn then
        operands.forM fun path =>
          discard (removal.removeWithin invocation mostLevels true path)

/-- The advice about arguments that begin with a dash and are names of files, if a letter in one of
them is no option. -/
def adviseDashes (invocation : Invocation) : Task Unit := do
  let reading := Usage.read (switches ++ Usage.standard) true invocation.arguments
  if reading.fault.isSome then
    match ← (invocation.arguments.filter fun argument =>
        argument.head? = some 45 && argument.length > 1).findM? fun argument => do
          pure (← Task.request (.examine argument false)).isOk with
    | none => pure ()
    | some argument =>
      let advice := bytes "Try '" ++ invocation.name ++ bytes " ./" ++ mention argument ++
        bytes "' to remove the file " ++ quoteName argument ++ bytes ".\n"
      discard (Task.writeAll 2 advice)

/-- What is said if the word for removing the root is given only in part. -/
def abbreviated? (arguments : List Bytes) : Option Refusal :=
  let whole := bytes "--no-preserve-root"
  let before := arguments.takeWhile (· ≠ bytes "--")
  if before.any fun argument => 3 ≤ argument.length && argument ≠ whole && argument.isPrefixOf whole
  then some { message := bytes "you may not abbreviate the --no-preserve-root option" }
  else none

end Removal

/-- Removes files. -/
def rm : Work := fun invocation => do
  let reading := Usage.read (Removal.switches ++ Usage.standard) true invocation.arguments
  let isAsked := reading.given.any Usage.isStandard
  let given := reading.given.takeWhile fun given => !Usage.isStandard given
  let taken : Except Refusal Removal := match Removal.abbreviated? invocation.arguments with
    | some refusal => .error refusal
    | none => given.foldlM Removal.take {}
  match taken, reading.fault with
  | .error refusal, _ => refuse invocation refusal 1
  | .ok removal, fault =>
    if isAsked then pure 0
    else match fault with
      | none => Removal.run invocation removal reading.operands
      | some fault =>
        complain invocation fault.message
        Removal.adviseDashes invocation
        adviseHelp invocation 1

end LineShell.Programs
