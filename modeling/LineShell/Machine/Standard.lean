import LineShell.Machine.Serve
import LineShell.Programs.Catalog

/-! The standard machine: the files that every run starts with. -/

namespace LineShell.Machine

/-- The directory that a run starts in. -/
def workplace : Location := ["tmp", "work"]

/-- The file behind the standard input. -/
def inputPlace : Location := ["tmp", "input"]

/-- The file behind the standard output. -/
def outputPlace : Location := ["tmp", "output"]

/-- The file behind the standard error stream. -/
def errorPlace : Location := ["tmp", "errors"]

/-- The directories of the system and their permission bits. -/
def standardDirectories : List (Location × Nat) :=
  [([], 0o755), (["dev"], 0o755), (["dev", "fd"], 0o555), (["etc"], 0o755), (["home"], 0o755),
    (["root"], 0o700), (["tmp"], 0o1777), (["usr"], 0o755), (["usr", "bin"], 0o755),
    (["usr", "sbin"], 0o755), (["var"], 0o755)]

/-- The devices by their names. -/
def standardDevices : List (String × Device) :=
  [("null", .null), ("zero", .zero), ("full", .full), ("random", .zero), ("urandom", .zero),
    ("tty", .terminal), ("stdin", .descriptor 0), ("stdout", .descriptor 1),
    ("stderr", .descriptor 2)]

/-- When everything that a run finds was made. -/
def beforehand : Int := -1000000

/-- The tree with nothing but devices and programs, all of the system. -/
def standardFiles : FileSystem :=
  let directories := standardDirectories.map fun (place, mode) => (place, Node.directory mode)
  let links := [("bin", "usr/bin"), ("sbin", "usr/sbin")].map fun (name, target) =>
    ([name], Node.link target)
  let devices := standardDevices.map fun (name, kind) => (["dev", name], Node.device kind)
  let descriptors := (List.range 20).map fun number =>
    (["dev", "fd", toString number], Node.device (.descriptor number))
  let programs := Programs.catalog.map fun (name, _) =>
    (["usr", "bin", name], Node.regular 0o755 (Programs.imageOf name))
  let entries := directories ++ links ++ devices ++ descriptors ++ programs
  { names := entries.zipIdx.map fun ((place, _), number) => (place, number)
    files := entries.map fun (_, node) => { node, own := false, modified := beforehand } }

/-- A machine with the given input, in the directory to work in. -/
def standard (files : List (String × Node)) (input : Bytes)
    (environment : List (String × String)) (resolver : Resolver) : Machine :=
  let plant := fun (tree : FileSystem) (place : Location) (node : Node) =>
    tree.plant place { node, modified := beforehand }
  let empty := plant standardFiles workplace (.directory 0o755)
  let planted := files.foldl (fun tree (path, node) =>
    plant tree (workplace ++ (Path.ofString path).names) node) empty
  let (input, tree) := planted.add inputPlace { node := .regular 0o644 input }
  let (output, tree) := tree.add outputPlace { node := .regular 0o644 [] }
  let (errors, tree) := tree.add errorPlace { node := .regular 0o644 [] }
  { files := tree
    directory := workplace
    environment
    resolver
    image := Programs.image
    openings := [
      { file := input, readable := true },
      { file := output, writable := true, appending := true },
      { file := errors, writable := true, appending := true }] }

/-- The machine with another file behind one of its first three openings. -/
def redirect (machine : Machine) (opening : Nat) (place : Location) : Machine :=
  match machine.openings[opening]?, machine.files.number? place with
  | some state, some file =>
    { machine with openings := machine.openings.set opening { state with file } }
  | _, _ => machine

/-- The content of a file. -/
def contentAt (machine : Machine) (place : Location) : Bytes :=
  match machine.files.find? place with
  | some (.regular _ content) => content
  | _ => []

/-- A listener that keeps all it reads from its input. -/
def listener : Behaviour :=
  Task.toBehaviour (Task.iterate () fun () => do
    match ← Task.request (.read 0 65536) with
    | .ok (byte :: rest) =>
      discard (Task.writeAll 1 (byte :: rest))
      pure (.inl ())
    | _ => pure (.inr 0))

/-- Makes a pipe with a listener behind it, which keeps what it hears at a place. The interpreter
holds the writing end. -/
def listen (machine : Machine) (place : Location) : Handle × Machine :=
  let (pipe, machine) := machine.addPipe
  let (file, files) := machine.files.add place { node := .regular 0o644 [] }
  let (kept, machine) := { machine with files }.addOpening { file, writable := true }
  let process : Process := {
    handles := [(0, .reader pipe), (1, kept)]
    directory := machine.directory
    progress := .running listener }
  (.writer pipe, { machine with
    processes := machine.processes ++ [process]
    held := .writer pipe :: machine.held })

/-- Makes a pipe that holds some bytes and has no writer. The interpreter holds the reading end. -/
def offer (machine : Machine) (data : Bytes) : Handle × Machine :=
  let handle := Handle.reader machine.pipes.length
  (handle, { machine with
    pipes := machine.pipes ++ [{ content := data }]
    held := handle :: machine.held })

end LineShell.Machine
