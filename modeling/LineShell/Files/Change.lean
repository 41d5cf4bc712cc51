import LineShell.Files.Walk

/-! Changes of the tree: how names are given to files, taken from them and moved. -/

namespace LineShell.FileSystem

/-- The tree after a change, with the moves that whoever is in a moved directory makes along. -/
structure Change where
  files : FileSystem
  moves : List (Location × Location) := []
  deriving Repr, Inhabited

/-- The directory in which a path names something, and what it is called there. A path without a
name of its own, such as one that ends in a dot, is refused for the given reason. -/
def lastName (files : FileSystem) (directory : Location) (text : String)
    (refusal : String → Errno) : Except Errno (Location × String × Bool) :=
  if text.isEmpty then .error .noEntry
  else if text.utf8ByteSize > Path.longestPath then .error .nameTooLong
  else
    let path := Path.ofString text
    match path.names.getLast? with
    | none => .error (refusal "/")
    | some name => do
      let parent ← files.parentOf directory path
      if name = "." || name = ".." then .error (refusal name)
      else if name.utf8ByteSize > Path.longestName then .error .nameTooLong
      else .ok (parent, name, path.slash)

/-- The directory in which a file is to be created under a path, and the place of the file. -/
def vacancy (files : FileSystem) (directory : Location) (text : String)
    (forDirectory : Bool) : Except Errno (Location × Location) := do
  let (parent, name, slash) ← files.lastName directory text fun _ => .alreadyExists
  let place := parent ++ [name]
  if (files.number? place).isSome then .error .alreadyExists
  else if slash && !forDirectory then .error .noEntry
  else .ok (parent, place)

/-- The place of a file that is to be created under a path. -/
def freshPlace (files : FileSystem) (directory : Location) (text : String)
    (forDirectory : Bool) : Except Errno Location := do
  let (parent, place) ← files.vacancy directory text forDirectory
  files.checkChangeable parent
  .ok place

/-- Whether two places are on one file system; that of the devices is one of its own. -/
def areTogether (first second : Location) : Bool :=
  (first.head? = some "dev") = (second.head? = some "dev")

/-- Creates a directory, a named pipe or a link. -/
def create (files : FileSystem) (directory : Location) (text : String) (node : Node)
    (now : Int) : Except Errno FileSystem := do
  if let .link target := node then
    if target.isEmpty then .error .noEntry
    if target.utf8ByteSize > Path.longestPath then .error .nameTooLong
  let place ← files.freshPlace directory text node.isDirectory
  .ok (files.add place { node, modified := now }).2

/-- Gives a file another name. Somebody else's file has to be one that can be read and written. -/
def share (files : FileSystem) (directory : Location) (source target : String) (follow : Bool) :
    Except Errno FileSystem := do
  let (place, file) ← files.locateFile directory source follow
  let (parent, fresh) ← files.vacancy directory target false
  let isUsable := (file.node matches .regular ..) && file.allows .read && file.allows .write
  if !areTogether place fresh then .error .crossDevice
  else if !file.own && !isUsable then .error .notPermitted
  else do
    files.checkChangeable parent
    if file.node.isDirectory then .error .notPermitted
    else match files.number? place with
      | some number => .ok (files.setName fresh number)
      | none => .error .noEntry

/-- Whether the name of a file can be taken from it; the reason if not. -/
def checkRemovable (files : FileSystem) (parent : Location) (file : File) : Except Errno Unit := do
  files.checkChangeable parent
  match files.at? parent with
  | some above =>
    -- A sticky directory keeps the files of others.
    if above.node.mode &&& 0o1000 != 0 && !above.own && !file.own then .error .notPermitted
    else .ok ()
  | none => .error .noEntry

/-- Takes a directory out of the tree. -/
def retire (files : FileSystem) (place : Location) : Change :=
  let target := hiddenPlace ((files.number? place).getD 0)
  { files := files.move place target, moves := [(place, target)] }

/-- Removes the name of a file that is no directory. -/
def removeFile (files : FileSystem) (directory : Location) (text : String) :
    Except Errno Change := do
  let (parent, name, slash) ← files.lastName directory text fun _ => .isDirectory
  let place := parent ++ [name]
  match files.at? place with
  | none => .error .noEntry
  | some file =>
    if slash then .error (if file.node.isDirectory then .isDirectory else .notDirectory)
    else do
      files.checkRemovable parent file
      if file.node.isDirectory then .error .isDirectory
      else .ok { files := files.remove place }

/-- Why a directory cannot be removed under some names. -/
def directoryRefusal (name : String) : Errno :=
  if name = "." then .invalid else if name = ".." then .notEmpty else .busy

/-- Removes a directory with nothing in it. -/
def removeDirectory (files : FileSystem) (directory : Location) (text : String) :
    Except Errno Change := do
  let (parent, name, _) ← files.lastName directory text directoryRefusal
  let place := parent ++ [name]
  match files.at? place with
  | none => .error .noEntry
  | some file => do
    files.checkRemovable parent file
    if !file.node.isDirectory then .error .notDirectory
    else if !(files.children place).isEmpty then .error .notEmpty
    else .ok (files.retire place)

/-- Moves a file or a directory to another name, which has to be `fresh` if that is asked for. A
file there is replaced, and so is a directory with nothing in it. -/
def rename (files : FileSystem) (directory : Location) (source target : String) (fresh : Bool) :
    Except Errno Change := do
  let (parent, name, slash) ← files.lastName directory source fun _ => .busy
  let (parentAfter, nameAfter, slashAfter) ← files.lastName directory target fun _ =>
    if fresh then .alreadyExists else .busy
  let place := parent ++ [name]
  let placeAfter := parentAfter ++ [nameAfter]
  if !areTogether parent parentAfter then .error .crossDevice
  else match files.at? place with
  | none => .error .noEntry
  | some file =>
    let isDirectory := file.node.isDirectory
    if fresh && (files.number? placeAfter).isSome then .error .alreadyExists
    else if !isDirectory && (slash || slashAfter) then .error .notDirectory
    else if isDirectory && (below? place placeAfter).isSome then .error .invalid
    else if (below? placeAfter place).isSome then .error .notEmpty
    else if (files.number? place) = (files.number? placeAfter) then .ok { files }
    else do
      files.checkRemovable parent file
      if isDirectory && parent ≠ parentAfter && !file.allows .write then .error .permission
      else match files.at? placeAfter with
        | none => do
          files.checkChangeable parentAfter
          .ok { files := files.move place placeAfter, moves := [(place, placeAfter)] }
        | some other => do
          files.checkRemovable parentAfter other
          if isDirectory && !other.node.isDirectory then .error .notDirectory
          else if !isDirectory && other.node.isDirectory then .error .isDirectory
          else if !(files.children placeAfter).isEmpty then .error .notEmpty
          else if isDirectory then
            let retired := files.retire placeAfter
            .ok { files := retired.files.move place placeAfter
                  moves := retired.moves ++ [(place, placeAfter)] }
          else .ok { files := files.move place placeAfter, moves := [] }

/-- Changes a file that a path names, if it can be changed. -/
def alter (files : FileSystem) (directory : Location) (text : String) (follow : Bool)
    (check : File → Except Errno Unit) (change : File → File) : Except Errno FileSystem := do
  let (place, file) ← files.locateFile directory text follow
  match files.number? place with
  | none => .error .noEntry
  | some number => do
    check file
    .ok (files.update number change)

end LineShell.FileSystem
