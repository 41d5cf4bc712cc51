import LineShell.Error
import LineShell.Files.Walk

/-! The search for programs: which file a command name stands for. -/

namespace LineShell

/-- Anything that finds a program for a command name, seen from a directory. -/
abbrev Resolver := FileSystem → Location → String → Except LookupError String

namespace Search

/-- Whether a text holds a character. -/
def holds (text : String) (c : Char) : Bool :=
  text.toList.contains c

/-- The directories of a search path; an empty element stands for the current one. -/
def elements (searchPath : String) : List String :=
  (splitAtEvery ':' searchPath.toList).map String.ofList

/-- The path of a name in a directory. -/
def join (directory name : String) : String :=
  -- Nothing is put before a name in the current directory, not even a slash.
  if directory.isEmpty then name
  else if directory.toList.getLast? = some '/' then directory ++ name
  else directory ++ "/" ++ name

/-- Checks that a path names something that is not a directory and that may be executed. -/
def check (files : FileSystem) (directory : Location) (path : String) :
    Except LookupError Unit :=
  if holds path '\x00' then .error (.unreadable path .nulInPath)
  else match files.locate directory path true with
    | .error number => .error (.unreadable path (.system number))
    | .ok (_, node) =>
      if node.isDirectory then .error (.isDirectory path)
      else if !node.hasExecuteBit then .error (.notExecutable path)
      else .ok ()

/-- Whether a path passes the check. -/
def passes (files : FileSystem) (directory : Location) (path : String) : Bool :=
  match check files directory path with
  | .ok () => true
  | .error _ => false

/-- A name with a slash is a path of its own; any other is looked for in each directory of the
search path, and the first one that passes the check counts. -/
def resolve (searchPath : String) : Resolver := fun files directory name =>
  if name.isEmpty then .error (.notFound name)
  else if holds name '/' then
    match check files directory name with
    | .ok () => .ok name
    | .error error => .error error
  else
    -- Why a candidate fails does not matter, as long as another one passes.
    match ((elements searchPath).map (join · name)).find? (passes files directory) with
    | some path => .ok path
    | none => .error (.notFound name)

/-- A resolver that knows some names by heart and asks another about the rest. -/
def withTable (table : List (String × String)) (otherwise : Resolver) : Resolver :=
  fun files directory name =>
    match table.find? fun row => row.1 = name with
    | some row => .ok row.2
    | none => otherwise files directory name

end Search

end LineShell
