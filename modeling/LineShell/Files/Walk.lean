import LineShell.Files.Tree
import LineShell.System.Errno

/-! Paths, and the walk along a path to the place it names. -/

namespace LineShell

/-- Splits a text at every separator; the pieces may be empty, and there is always one. -/
def splitAtEvery (separator : Char) : List Char → List (List Char)
  | [] => [[]]
  | c :: rest =>
    if c = separator then [] :: splitAtEvery separator rest
    else (splitAtEvery separator rest).modifyHead (c :: ·)

/-- A path taken apart. -/
structure Path where
  /-- Starts at the root and not at the current directory. -/
  absolute : Bool
  names : List String
  /-- Ends in a slash, so that it can name a directory only. -/
  slash : Bool
  deriving DecidableEq, Repr, Inhabited

namespace Path

/-- The parts of a path as it is written. -/
def ofString (text : String) : Path where
  absolute := text.toList.head? == some '/'
  names := ((splitAtEvery '/' text.toList).filter (!·.isEmpty)).map String.ofList
  slash := text.toList.getLast? == some '/'

/-- Where the walk along a path starts, seen from a directory. -/
def start (path : Path) (directory : Location) : Location :=
  if path.absolute then [] else directory

/-- The longest name of a file, in bytes. -/
def longestName : Nat := 255

/-- The longest path the system takes, in bytes. -/
def longestPath : Nat := 4095

/-- The number of links that one walk may follow. -/
def mostLinks : Nat := 40

end Path

/-- Where a walk without links leads. -/
inductive Leg
  | arrived (place : Location)
  /-- Only the last name is missing. -/
  | absent (place : Location)
  | failed (number : Errno)
  /-- The walk met a link in the directory `start`, with the names `rest` still to go. -/
  | detour (start : Location) (target : String) (rest : List String)
  deriving DecidableEq, Repr, Inhabited

/-- Where a path leads. -/
structure Arrival where
  place : Location
  /-- Nothing is there, but the directory it would be in exists. -/
  missing : Bool
  /-- Only a directory would do. -/
  slash : Bool
  deriving DecidableEq, Repr, Inhabited

namespace FileSystem

/-- Walks until the names are used up or a link is met; `follow` says whether a link under the
last name counts. -/
def leg (files : FileSystem) (follow : Bool) : Location → List String → Leg
  | place, [] => .arrived place
  | place, name :: rest =>
    match files.at? place with
    | none => .failed .noEntry
    | some here =>
      if !here.node.isDirectory then .failed .notDirectory
      else if !here.allows .execute then .failed .permission
      else if name = "." then leg files follow place rest
      else if name = ".." then leg files follow place.dropLast rest
      else if name.utf8ByteSize > Path.longestName then .failed .nameTooLong
      else match files.find? (place ++ [name]) with
        | none => if rest.isEmpty then .absent (place ++ [name]) else .failed .noEntry
        | some (.link target) =>
          if rest.isEmpty && !follow then .arrived (place ++ [name])
          else .detour place target rest
        | some _ => leg files follow (place ++ [name]) rest

/-- Walks leg after leg, with so many links still allowed. -/
def walkFrom (files : FileSystem) (follow : Bool) :
    Nat → Location → List String → Bool → Except Errno Arrival
  | links, place, names, slash =>
    match files.leg (follow || slash) place names with
    | .arrived place => .ok ⟨place, false, slash⟩
    | .absent place => .ok ⟨place, true, slash⟩
    | .failed number => .error number
    | .detour start target rest =>
      match links with
      | 0 => .error .tooManyLinks
      | links + 1 =>
        if target.isEmpty then .error .noEntry
        else
          let path := Path.ofString target
          files.walkFrom follow links (path.start start) (path.names ++ rest)
            (if rest.isEmpty then slash || path.slash else slash)

/-- Where a path leads, seen from a directory. -/
def walk (files : FileSystem) (directory : Location) (text : String) (follow : Bool) :
    Except Errno Arrival :=
  if text.isEmpty then .error .noEntry
  else if text.utf8ByteSize > Path.longestPath then .error .nameTooLong
  else
    let path := Path.ofString text
    files.walkFrom follow Path.mostLinks (path.start directory) path.names path.slash

/-- The place and the file that a path names, if they exist. -/
def locateFile (files : FileSystem) (directory : Location) (text : String) (follow : Bool) :
    Except Errno (Location × File) := do
  let arrival ← files.walk directory text follow
  match files.at? arrival.place with
  | none => .error .noEntry
  | some file =>
    if arrival.slash && !file.node.isDirectory then .error .notDirectory
    else .ok (arrival.place, file)

/-- The place and the node that a path names, if they exist. -/
def locate (files : FileSystem) (directory : Location) (text : String) (follow : Bool) :
    Except Errno (Location × Node) := do
  let (place, file) ← files.locateFile directory text follow
  .ok (place, file.node)

/-- The directory that the last name of a path is to be looked for in. -/
def parentOf (files : FileSystem) (directory : Location) (path : Path) :
    Except Errno Location := do
  -- The dot makes sure that it is a directory one can go through.
  let arrival ← files.walkFrom true Path.mostLinks (path.start directory)
    (path.names.dropLast ++ ["."]) false
  if arrival.missing then .error .noEntry else .ok arrival.place

/-- The place where a file can be created or opened under a path. A link under the last name leads
on from the directory that it stands in, unless the file must be new. -/
def placeUnder (files : FileSystem) (fresh : Bool)
    (onward : Location → String → Except Errno Location) (directory : Location) (path : Path) :
    Except Errno Location :=
  match path.names.getLast? with
  | none => .ok []
  | some name => do
    let parent ← files.parentOf directory path
    if name = "." then .ok parent
    else if name = ".." then .ok parent.dropLast
    -- A name with a slash behind it cannot be a file, whether or not it exists.
    else if path.slash then .error .isDirectory
    else if name.utf8ByteSize > Path.longestName then .error .nameTooLong
    else match files.find? (parent ++ [name]) with
      | some (.link target) => if fresh then .ok (parent ++ [name]) else onward parent target
      | _ => .ok (parent ++ [name])

/-- The place where a file can be created or opened under a path, after following at most so many
links. -/
def placeWithin (files : FileSystem) (fresh : Bool) : Nat → Location → Path → Except Errno Location
  | 0, directory, path =>
    files.placeUnder fresh (fun _ _ => .error .tooManyLinks) directory path
  | links + 1, directory, path =>
    files.placeUnder fresh (fun parent target =>
      if target.isEmpty then .error .noEntry
      else files.placeWithin fresh links parent (.ofString target)) directory path

/-- The place where a file can be created or opened under a path. -/
def placeToCreate (files : FileSystem) (directory : Location) (text : String) (fresh : Bool) :
    Except Errno Location :=
  if text.isEmpty then .error .noEntry
  else if text.utf8ByteSize > Path.longestPath then .error .nameTooLong
  else files.placeWithin fresh Path.mostLinks directory (.ofString text)

/-- Whether names can be given and taken in a directory; the reason if not. -/
def checkChangeable (files : FileSystem) (directory : Location) : Except Errno Unit :=
  match files.at? directory with
  | none => .error .noEntry
  | some file =>
    if isHidden directory then .error .noEntry
    else if file.allows .write && file.allows .execute then .ok ()
    else .error .permission

/-- At most `limit` bytes of a file, from an offset on. -/
def readAt (files : FileSystem) (number offset limit : Nat) : Except Errno Bytes :=
  match files.file? number with
  | some { node := .regular _ content, .. } => .ok ((content.drop offset).take limit)
  | some { node := .directory _, .. } => .error .isDirectory
  | some { node := .device .zero, .. } | some { node := .device .full, .. } =>
    .ok (List.replicate limit 0)
  | _ => .ok []

/-- A content with bytes written over it from an offset on; a gap is filled with zero bytes. -/
def overwrite (content : Bytes) (offset : Nat) (data : Bytes) : Bytes :=
  content.take offset ++ List.replicate (offset - content.length) 0 ++ data ++
    content.drop (offset + data.length)

/-- The number of bytes in a file. -/
def sizeOf (files : FileSystem) (number : Nat) : Nat :=
  match files.file? number with
  | some { node := .regular _ content, .. } => content.length
  | some { node := .link target, .. } => target.utf8ByteSize
  | some { node := .directory _, .. } => 4096
  | _ => 0

/-- Writes bytes to a file at a certain time; with no offset, at the end. Gives the offset behind
the last byte written. -/
def writeAt (files : FileSystem) (number : Nat) (offset : Option Nat) (data : Bytes)
    (modified : Int) : Except Errno (Nat × FileSystem) :=
  match files.file? number with
  | some { node := .regular mode content, own, .. } =>
    let (after, content) := match offset with
      | none => (content.length + data.length, content ++ data)
      | some offset => (offset + data.length, overwrite content offset data)
    .ok (after, files.update number fun _ =>
      { node := .regular (Node.changedMode mode) content, own, modified })
  | some { node := .directory _, .. } => .error .isDirectory
  | some { node := .device .full, .. } => .error .noSpace
  | _ => .ok (0, files)

end FileSystem

end LineShell
