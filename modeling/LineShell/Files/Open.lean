import LineShell.Files.Walk

/-! Opening files: what a path stands for when it is opened, and what becomes of it. -/

namespace LineShell

/-- How a file is opened. -/
structure Manner where
  reads : Bool := false
  writes : Bool := false
  /-- Creates the file if there is none. -/
  creates : Bool := false
  /-- Refuses a file that there is already. -/
  fresh : Bool := false
  /-- Leaves nothing of what is in the file. -/
  empties : Bool := false
  /-- Always writes at the end of the file. -/
  appends : Bool := false
  deriving DecidableEq, Repr, Inhabited

namespace Manner

def reading : Manner := { reads := true }

/-- Writes from the start of a file that is created or emptied. -/
def replacing : Manner := { writes := true, creates := true, empties := true }

/-- Writes at the end of a file that is created if there is none. -/
def extending : Manner := { writes := true, creates := true, appends := true }

/-- Reads and writes a file that is created if there is none. -/
def updating : Manner := { reads := true, writes := true, creates := true }

/-- Writes a file that has to be a new one. -/
def creating : Manner := { writes := true, creates := true, fresh := true }

end Manner

namespace FileSystem

/-- Opens a file that exists. -/
def openExisting (files : FileSystem) (number : Nat) (file : File) (manner : Manner)
    (now : Int) : Except Errno FileSystem :=
  if file.node.isDirectory && (manner.writes || manner.creates) then .error .isDirectory
  else if (manner.reads && !file.allows .read) || (manner.writes && !file.allows .write) then
    .error .permission
  else if file.node = .device .terminal then .error .noDevice
  else match file.node with
    | .regular mode _ =>
      if manner.empties then
        .ok (files.update number fun file =>
          { file with node := .regular (Node.changedMode mode) [], modified := now })
      else .ok files
    | _ => .ok files

/-- Opens a path, seen from a directory, and gives the number of the file. One that is created
gets the given permission bits. -/
def openPath (files : FileSystem) (directory : Location) (text : String) (manner : Manner)
    (mode : Nat) (now : Int) : Except Errno (Nat × FileSystem) := do
  let place ←
    if manner.creates then files.placeToCreate directory text manner.fresh
    else (files.locateFile directory text true).map (·.1)
  match files.number? place, files.at? place with
  | some number, some file =>
    if manner.fresh then .error .alreadyExists
    else do .ok (number, ← files.openExisting number file manner now)
  | _, _ => do
    files.checkChangeable place.dropLast
    .ok (files.add place { node := .regular mode [], modified := now })

end FileSystem

end LineShell
