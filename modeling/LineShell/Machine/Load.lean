import LineShell.Machine.Basic

/-! Loading: which behaviour a file has when it is executed. -/

namespace LineShell.Machine

/-- The character that separates an interpreter from its argument in the first line of a script. -/
def isGap (byte : UInt8) : Bool :=
  byte == 32 || byte == 9

/-- How many bytes at the start of a file are looked at, as if zero bytes came after its end. -/
def headLength : Nat := 256

/-- How a file begins. -/
inductive Heading
  /-- The file is no script. -/
  | none
  /-- The file is a script, but names no interpreter. -/
  | broken
  /-- The file is a script that names an interpreter, and perhaps one argument for it. -/
  | script (interpreter : Bytes) (argument : Option Bytes)
  deriving DecidableEq, Repr, Inhabited

/-- The bytes up to the first that ends a name in the first line of a script. -/
def takeName (line : Bytes) : Bytes :=
  line.takeWhile fun byte => !isGap byte && byte != 0

/-- What the first line of a script says, without the mark in front of it. -/
def headingOfLine (line : Bytes) : Heading :=
  let line := line.dropWhile isGap
  let interpreter := takeName line
  if line.isEmpty then .broken
  else match line.drop interpreter.length with
    | [] => .script interpreter none
    | 0 :: _ => .script interpreter none
    | rest =>
      match rest.dropWhile isGap with
      | [] => .script interpreter none
      | argument => .script interpreter (some (argument.takeWhile (· != 0)))

/-- How a file with a content begins. -/
def heading (content : Bytes) : Heading :=
  let start := content.take headLength
  match start ++ List.replicate (headLength - start.length) 0 with
  | 35 :: 33 :: rest =>
    if rest.contains 10 then
      let line := rest.takeWhile (· != 10)
      headingOfLine (line.reverse.dropWhile isGap).reverse
    else
      -- Without its end in sight, the name of the interpreter may have been cut off.
      let name := rest.dropWhile isGap
      if name.all fun byte => !isGap byte && byte != 0 then .broken
      else headingOfLine (rest.dropLast.reverse.dropWhile isGap).reverse
  | _ => .none

/-- The number of scripts that may be interpreted by scripts in a row. -/
def mostInterpreters : Nat := 5

/-- A path given in bytes as text. -/
def pathText (path : Bytes) : Except Errno String :=
  match Utf8.toString? path with
  | some text => .ok text
  | none => .error .illegalSequence

/-- One argument may not be longer than this, the byte that ends it included. -/
def longestArgument : Nat := 131072

/-- The behaviour of an executable file, through at most so many interpreters. A file that is
being written cannot be executed. -/
def loadThrough (machine : Machine) (directory : Location) :
    Nat → Bytes → List Bytes → Environment → Except Errno Behaviour
  | interpreters, path, arguments, environment => do
    let text ← pathText path
    let (place, file) ← machine.files.locateFile directory text true
    match file.node with
    | .regular _ content =>
      if !file.allows .execute then .error .permission
      else if (machine.files.number? place).any machine.isWritten then .error .textBusy
      else match heading content with
        | .broken => .error .notExecutableFormat
        | .script [] _ => .error .permission
        | .script name argument =>
          match interpreters with
          | 0 => .error .tooManyLinks
          | interpreters + 1 =>
            loadThrough machine directory interpreters name
              (name :: argument.toList ++ path :: arguments.drop 1) environment
        | .none =>
          match machine.image content with
          | some program => .ok (program arguments environment)
          | none => .error .notExecutableFormat
    | _ => .error .permission

/-- The behaviour of an executable file. -/
def load (machine : Machine) (directory : Location) (path : Bytes) (arguments : List Bytes)
    (environment : Environment) : Except Errno Behaviour :=
  if arguments.any fun argument => argument.length ≥ longestArgument then
    .error .argumentsTooLong
  else machine.loadThrough directory mostInterpreters path arguments environment

/-- Whether a search for a program goes on after this error. -/
def searchesOn (number : Errno) : Bool :=
  number = .noEntry || number = .notDirectory || number = .permission

/-- Tries the candidates of a search until one can be loaded or fails for good. A refusal is
remembered over files that are missing. -/
def loadFirst (attempt : Bytes → Except Errno Behaviour) :
    List Bytes → Errno → Except Errno Behaviour
  | [], last => .error last
  | path :: rest, last =>
    match attempt path with
    | .ok behaviour => .ok behaviour
    | .error number =>
      if !searchesOn number then .error number
      else loadFirst attempt rest (if last = .permission then last else number)

/-- Where programs are looked for if no variable tells. -/
def defaultSearchPath : String := "/bin:/usr/bin"

/-- The elements of a search path that the system tries. Of those that are as long as a whole
search path may be, one at the end is left out, and any other stands for the current directory. -/
def triedElements (limit : Nat) : List String → List String
  | [] => []
  | [element] => if element.utf8ByteSize ≥ limit then [] else [element]
  | element :: rest =>
    (if element.utf8ByteSize ≥ limit then "" else element) :: triedElements limit rest

/-- The behaviour of the program that the system starts for a name: a name with a slash is a
path, and any other is looked for along the search path of the environment. -/
def loadNamed (machine : Machine) (program : String) (arguments : List String) :
    Except Errno Behaviour :=
  let words := arguments.map Utf8.ofString
  let environment := machine.environment.map fun (key, value) =>
    (Utf8.ofString key, Utf8.ofString value)
  let attempt := fun path => machine.load machine.directory path words environment
  if program.isEmpty then .error .noEntry
  else if Search.holds program '/' then attempt (Utf8.ofString program)
  else if program.utf8ByteSize > Path.longestName then .error .nameTooLong
  else
    let searchPath := (machine.environment.lookup "PATH").getD defaultSearchPath
    let limit := min searchPath.utf8ByteSize Path.longestPath + 1
    let candidates := (triedElements limit (Search.elements searchPath)).map fun element =>
      Utf8.ofString (if element.isEmpty then program else element ++ "/" ++ program)
    loadFirst attempt candidates .noEntry

end LineShell.Machine
