import LineShell.Text.Utf8

/-! The tree of files: the names at the places below the root, and the files they stand for. A
file can have several names, and it lasts as long as somebody reaches it. -/

namespace LineShell

/-- A place in the tree, as the names that lead to it from the root. -/
abbrev Location := List String

/-- A file that keeps nothing. -/
inductive Device
  /-- Takes every byte and gives none. -/
  | null
  /-- Takes every byte and gives zero bytes without end. -/
  | zero
  /-- Takes no byte and gives zero bytes without end. -/
  | full
  /-- The terminal of a process that has none. -/
  | terminal
  /-- What the process that looks at it has under a descriptor. -/
  | descriptor (number : Nat)
  deriving DecidableEq, Repr, Inhabited

/-- What stands at a place. -/
inductive Node
  | directory (mode : Nat)
  | regular (mode : Nat) (content : Bytes)
  | link (target : String)
  | fifo (mode : Nat)
  | device (kind : Device)
  deriving DecidableEq, Repr, Inhabited

namespace Node

def isDirectory : Node → Bool
  | .directory _ => true
  | _ => false

/-- The permission bits of a node; a link has none of its own. -/
def mode : Node → Nat
  | .directory mode | .regular mode _ | .fifo mode => mode
  | .link _ => 0o777
  | .device _ => 0o666

/-- Whether anyone may execute the node. -/
def hasExecuteBit (node : Node) : Bool :=
  node.mode &&& 0o111 != 0

/-- What is left of the permission bits of a file whose content is changed: whoever executes it does
not become its owner any more, nor a member of its group if that may execute it. -/
def changedMode (mode : Nat) : Nat :=
  mode ^^^ (mode &&& if mode &&& 0o010 = 0 then 0o4000 else 0o6000)

/-- The node with other permission bits. -/
def withMode (mode : Nat) : Node → Node
  | .directory _ => .directory mode
  | .regular _ content => .regular mode content
  | .fifo _ => .fifo mode
  | node => node

end Node

/-- What can be allowed to the user of a file. -/
inductive Access
  | read
  | write
  /-- Executes a file, or goes through a directory. -/
  | execute
  deriving DecidableEq, Repr, Inhabited

/-- The permission bit of an access, for those who do not own the file. -/
def Access.bit : Access → Nat
  | .read => 4
  | .write => 2
  | .execute => 1

/-- A node with what the system knows about it. -/
structure File where
  node : Node
  /-- Belongs to the user and not to the system. -/
  own : Bool := true
  /-- When the content was last changed, in microseconds. -/
  modified : Int := 0
  deriving DecidableEq, Repr, Inhabited

/-- Whether the user is allowed something: what the owner may, or what everyone else may. -/
def File.allows (file : File) (access : Access) : Bool :=
  file.node.mode / (if file.own then 64 else 1) &&& access.bit != 0

/-- All that is stored. -/
structure FileSystem where
  /-- The number of the file at each place. -/
  names : List (Location × Nat) := [([], 0)]
  /-- The files by number. -/
  files : List File := [{ node := .directory 0o755, own := false }]
  deriving Repr, Inhabited

namespace FileSystem

/-- The number of the file at a place, if there is one. -/
def number? (files : FileSystem) (place : Location) : Option Nat :=
  (files.names.find? fun entry => entry.1 = place).map (·.2)

/-- The file of a number. -/
def file? (files : FileSystem) (number : Nat) : Option File :=
  files.files[number]?

/-- The file at a place, if there is one. -/
def at? (files : FileSystem) (place : Location) : Option File :=
  (files.number? place).bind files.file?

/-- What stands at a place, if anything does. -/
def find? (files : FileSystem) (place : Location) : Option Node :=
  (files.at? place).map (·.node)

/-- Gives a file a name at a place, instead of what stood there. -/
def setName (files : FileSystem) (place : Location) (number : Nat) : FileSystem :=
  { files with names := (place, number) :: files.names.filter fun entry => entry.1 ≠ place }

/-- Leaves no name at a place. -/
def remove (files : FileSystem) (place : Location) : FileSystem :=
  { files with names := files.names.filter fun entry => entry.1 ≠ place }

/-- Puts a new file at a place, instead of what stood there, and gives its number. -/
def add (files : FileSystem) (place : Location) (file : File) : Nat × FileSystem :=
  (files.files.length,
    { files with files := files.files ++ [file] }.setName place files.files.length)

/-- Puts a new node of the user at a place. -/
def put (files : FileSystem) (place : Location) (node : Node) : FileSystem :=
  (files.add place { node }).2

/-- Changes the file of a number. -/
def update (files : FileSystem) (number : Nat) (change : File → File) : FileSystem :=
  { files with files := files.files.modify number change }

/-- What was named at a place is found there. -/
@[simp] theorem number?_setName_same (files : FileSystem) (place : Location) (number : Nat) :
    (files.setName place number).number? place = some number := by
  simp [number?, setName]

/-- Giving a name at one place leaves every other as it was. -/
@[simp] theorem number?_setName_other {files : FileSystem} {place other : Location}
    {number : Nat} (different : other ≠ place) :
    (files.setName place number).number? other = files.number? other := by
  have first : place ≠ other := fun same => different same.symm
  have kept : (fun entry : Location × Nat =>
      decide (decide (entry.1 ≠ place) = true ∧ decide (entry.1 = other) = true))
      = fun entry => decide (entry.1 = other) := by
    funext entry
    by_cases same : entry.1 = other <;> simp [same, different]
  simp only [number?, setName, List.find?_cons, first, decide_false, List.find?_filter, kept]

/-- Nothing is found where a name was removed. -/
@[simp] theorem number?_remove_same (files : FileSystem) (place : Location) :
    (files.remove place).number? place = none := by
  simp [number?, remove]

/-- What was put at a place is found there. -/
@[simp] theorem find?_put_same (files : FileSystem) (place : Location) (node : Node) :
    (files.put place node).find? place = some node := by
  simp [find?, at?, put, add, file?, setName, number?]

/-- The names that lead from one place to another below it. -/
def below? : (above place : Location) → Option Location
  | [], [] => none
  | [], name :: rest => some (name :: rest)
  | _ :: _, [] => none
  | name :: above, other :: rest => if name = other then below? above rest else none

/-- Where a place is after everything at and below another place has moved. -/
def relocate (source target place : Location) : Location :=
  if place = source then target
  else match below? source place with
    | some way => target ++ way
    | none => place

/-- Moves a name and everything below it to another place. -/
def move (files : FileSystem) (source target : Location) : FileSystem :=
  let others := files.names.filter fun entry => entry.1 ≠ target
  { files with names := others.map fun (place, number) => (relocate source target place, number) }

/-- A place that no path leads to, for a directory that has lost its name. -/
def hiddenPlace (number : Nat) : Location :=
  ["/" ++ toString number]

/-- Whether a place is one that no path leads to. -/
def isHidden (place : Location) : Bool :=
  place.any fun name => name.toList.contains '/'

/-- The names directly below a place. -/
def children (files : FileSystem) (place : Location) : List String :=
  files.names.filterMap fun entry =>
    match entry.1.getLast? with
    | some name => if entry.1.dropLast = place && !isHidden entry.1 then some name else none
    | none => none

/-- The number of names of a file. A directory also has one inside itself and one inside each
directory in it. -/
def nameCount (files : FileSystem) (number : Nat) : Nat :=
  let places := files.names.filter fun entry => entry.2 = number
  match places, files.file? number with
  | (place, _) :: _, some { node := .directory _, .. } =>
    let inner := (files.children place).filter fun name =>
      (files.find? (place ++ [name])).any Node.isDirectory
    inner.length + 2
  | _, _ => places.length

/-- Puts a file at a place and directories on the way to it where there is nothing yet. -/
def plant (files : FileSystem) (place : Location) (file : File) : FileSystem :=
  let parents := (List.range place.length).map place.take
  let ready := parents.foldl (fun files parent =>
    match files.number? parent with
    | some _ => files
    | none => (files.add parent { file with node := .directory 0o755 }).2) files
  (ready.add place file).2

/-- What has been created, changed or removed below a place, with the way to it from there. -/
def changes (before after : FileSystem) (above : Location) :
    List (Location × Option Node) :=
  let present := after.names.filterMap fun (place, number) =>
    match below? above place, after.file? number with
    | some way, some file =>
      if before.find? place = some file.node then none else some (way, some file.node)
    | _, _ => none
  let absent := before.names.filterMap fun (place, _) =>
    match below? above place with
    | some way => if (after.number? place).isNone then some (way, none) else none
    | none => none
  present ++ absent

end FileSystem

end LineShell
