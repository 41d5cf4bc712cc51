import LineShell.Programs.Usage

/-! Streams: what programs do with their inputs and outputs one block after the other. -/

namespace LineShell.Programs

/-- Does something for each of some values and gives the largest exit code. -/
def forAll {α : Type} (values : List α) (action : α → Task UInt8) : Task UInt8 :=
  values.foldlM (fun code value => do pure (max code (← action value))) 0

/-- Writes a block of output, or ends the program because that is not possible. -/
def outputBlock (invocation : Invocation) (data : Bytes) : Task Unit := do
  match ← Task.writeAll 1 data with
  | .ok () => pure ()
  | .error cause =>
    complain invocation (bytes ("write error: " ++ cause.text))
    Task.exit 1

/-- How a file is named in messages. -/
def titleOf (path : Bytes) : Bytes :=
  if path = bytes "-" then bytes "standard input" else path

/-- Gives up the standard input after it has been used, and gives the exit code of a failure. -/
def endInput (invocation : Invocation) (operands : List Bytes) (message : String)
    (code failure : UInt8) : Task UInt8 := do
  if !(inputs operands).contains (bytes "-") then pure code
  else match ← Task.request (.close 0) with
    | .ok () => pure code
    | .error cause =>
      complain invocation (bytes (message ++ ": " ++ cause.text))
      pure failure

/-- Refuses an operand beside a file that holds the names of the files. -/
def refuseBeside (invocation : Invocation) (operand : Bytes) (code : UInt8) : Task UInt8 := do
  complain invocation (bytes "extra operand " ++ quoteName operand)
  discard (Task.writeAll 2 (bytes "file operands cannot be combined with --files0-from\n"))
  adviseHelp invocation code

/-- The names in a file, each with a zero byte behind it. -/
def namesIn (data : Bytes) : List Bytes :=
  let names := splitAt 0 data
  if names.getLast? = some [] then names.dropLast else names

/-- What is said about the standard input among the files whose names it holds. -/
def inputAmongNames : Bytes :=
  bytes "when reading file names from stdin, no file name of '-' allowed"

/-- What is said about an empty name among those in a file. -/
def emptyName (path : Bytes) (number : Nat) : Bytes :=
  mention path ++ 58 :: digits number ++ bytes ": invalid zero-length file name"

/-- What is known about the file behind a descriptor, if there is one. -/
def factsBehind (descriptor : Nat) : Task (Option Facts) := do
  match ← Task.request (.inspect descriptor) with
  | .ok facts => pure facts
  | .error _ => pure none

/-- How many bytes a file holds, if it keeps what is written to it. -/
def Facts.size? (facts : Facts) : Option Nat :=
  match facts.file.node with
  | .regular _ content => some content.length
  | _ => none

/-- How the contents of files are shown. -/
structure Display where
  numbered : Bool := false
  /-- Only lines with something in them are numbered. -/
  filledOnly : Bool := false
  /-- Of several empty lines in a row, only one is shown. -/
  squeezed : Bool := false
  /-- A sign stands at the ends of lines. -/
  ends : Bool := false
  /-- Bytes that are not shown as they are stand for themselves otherwise. -/
  visible : Bool := false
  tabs : Bool := false
  deriving DecidableEq, Repr, Inhabited

/-- How far the display of some contents has come. -/
structure Display.State where
  /-- The number of the last line. -/
  line : Nat := 0
  /-- How many line feeds stand in a row, but for the one that ends a line with something in it. -/
  feeds : Nat := 1
  /-- A carriage return still has to be shown. -/
  returned : Bool := false
  deriving DecidableEq, Repr, Inhabited

namespace Display

/-- Whether contents are shown as they are. -/
def isPlain (display : Display) : Bool :=
  display = {}

/-- The switches that change how contents are shown. -/
def take (display : Display) (given : Given) : Except Refusal Display :=
  .ok (match given.key with
  | "b" => { display with numbered := true, filledOnly := true }
  | "e" => { display with ends := true, visible := true }
  | "n" => { display with numbered := true }
  | "s" => { display with squeezed := true }
  | "t" => { display with tabs := true, visible := true }
  | "v" => { display with visible := true }
  | "A" => { display with visible := true, ends := true, tabs := true }
  | "E" => { display with ends := true }
  | "T" => { display with tabs := true }
  | _ => display)

/-- A number in front of a line. -/
def numeral (number : Nat) : Bytes :=
  let figures := digits number
  List.replicate (6 - figures.length) 32 ++ figures ++ [9]

/-- How a byte other than a line feed is shown. -/
def glyph (display : Display) (byte : UInt8) : Bytes :=
  if byte = 9 then (if display.tabs then [94, 73] else [9])
  else if !display.visible then [byte]
  else
    let below := fun (byte : UInt8) =>
      if byte < 32 then [94, byte + 64] else if byte = 127 then [94, 63] else [byte]
    if byte < 128 then below byte else [77, 45] ++ below (byte - 128)

/-- The display of one more byte. -/
def step (display : Display) (state : State) (byte : UInt8) : Bytes × State :=
  if byte = 10 then
    let ending := (if display.ends && state.returned then [94, 77] else []) ++
      (if display.ends then [36] else []) ++ [10]
    let isEmpty : Bool := state.feeds ≥ 1 && !state.returned
    if !isEmpty then (ending, { state with feeds := 1, returned := false })
    else if display.squeezed && state.feeds ≥ 2 then ([], state)
    else
      let state := { state with feeds := state.feeds + 1, returned := false }
      if display.numbered && !display.filledOnly then
        (numeral (state.line + 1) ++ ending, { state with line := state.line + 1 })
      else (ending, state)
  else
    let before : Bytes := if state.returned then [13] else []
    let starts : Bool := state.feeds ≥ 1 && !state.returned
    let state := { state with feeds := 0, returned := false }
    let (number, state) := if starts && display.numbered
      then (numeral (state.line + 1), { state with line := state.line + 1 }) else ([], state)
    if byte = 13 && display.ends && !display.visible then
      (before ++ number, { state with returned := true })
    else (before ++ number ++ display.glyph byte, state)

/-- The display of some more bytes. -/
def apply (display : Display) (state : State) (data : Bytes) : Bytes × State :=
  let (shown, state) := data.foldl (fun (shown, state) byte =>
    let (part, state) := display.step state byte
    (part.reverse ++ shown, state)) (([] : Bytes), state)
  (shown.reverse, state)

end Display

/-- The most bytes that are read from a file at once. -/
def blockLength : Nat := 131072

/-- Shows all that can be read from a descriptor; gives why reading failed, and how far the display
has come. -/
def displayAll (invocation : Invocation) (display : Display) (state : Display.State)
    (descriptor : Nat) : Task (Option Errno × Display.State) :=
  Task.iterate state fun state => do
    match ← Task.request (.read descriptor blockLength) with
    | .error cause => pure (.inr (some cause, state))
    | .ok [] => pure (.inr (none, state))
    | .ok data =>
      let (shown, state) := if display.isPlain then (data, state) else display.apply state data
      outputBlock invocation shown
      pure (.inl state)

/-- Whether a descriptor reaches the file that the output goes to, with something left to read. -/
def isOutput (target : Option Facts) (descriptor : Nat) : Task Bool := do
  match target.bind fun facts => (Facts.size? facts).map (facts.number, ·) with
  | none => pure false
  | some (number, size) =>
    match ← factsBehind descriptor with
    | some facts =>
      let offset := (← Task.request (.seek descriptor .current 0)).toOption.getD 0
      pure (facts.number = number && offset < size)
    | none => pure false

/-- The switches of the program that shows the contents of files. -/
def catSwitches : List Switch :=
  Usage.plainSwitches [("b", "number-nonblank"), ("e", ""), ("n", "number"),
    ("s", "squeeze-blank"), ("t", ""), ("u", ""), ("v", "show-nonprinting"), ("E", "show-ends"),
    ("T", "show-tabs"), ("A", "show-all")]

/-- The contents of files, one after the other. -/
def cat : Work := Usage.work { switches := catSwitches, take := Display.take } {}
    fun invocation display operands => do
  match ← Task.request (.inspect 1) with
  | .error cause =>
    complain invocation (bytes ("standard output: " ++ cause.text))
    pure 1
  | .ok target =>
    let (code, state) ← (inputs operands).foldlM (fun (code, state) path => do
      let failed := fun (cause : Errno) => do
        complain invocation (mention path ++ bytes (": " ++ cause.text))
        pure ((1 : UInt8), (state : Display.State))
      withInput path failed fun descriptor => do
        match ← Task.request (.inspect descriptor) with
        | .error cause => failed cause
        | .ok _ =>
          if ← isOutput target descriptor then
            complain invocation (mention path ++ bytes ": input file is output file")
            pure (1, state)
          else match ← displayAll invocation display state descriptor with
            | (none, state) => pure (code, state)
            | (some cause, state) =>
              complain invocation (mention path ++ bytes (": " ++ cause.text))
              pure (1, state)) ((0 : UInt8), ({} : Display.State))
    if state.returned then outputBlock invocation [13]
    endInput invocation operands "closing standard input" code 1

/-- What is done about outputs that cannot be written to. -/
structure Tee where
  appends : Bool := false
  /-- A pipe that nobody reads is mentioned. -/
  mentionsPipes : Bool := false
  /-- Nothing is done after the first failure. -/
  stops : Bool := false
  /-- A pipe that nobody reads does not end the program. -/
  endures : Bool := false
  /-- Interruptions do not end the program. -/
  uninterrupted : Bool := false
  deriving DecidableEq, Repr, Inhabited

namespace Tee

/-- The ways to deal with outputs that cannot be written to, by name. -/
def modes : List (String × (Bool × Bool)) :=
  [("warn", (true, false)), ("warn-nopipe", (false, false)), ("exit", (true, true)),
    ("exit-nopipe", (false, true))]

/-- The switches of the program that copies its input to files. -/
def take (tee : Tee) (given : Given) : Except Refusal Tee :=
  match given.key with
  | "a" => .ok { tee with appends := true }
  | "i" => .ok { tee with uninterrupted := true }
  | _ =>
    match given.value with
    | none => .ok { tee with endures := true }
    | some name => do
      let (mentionsPipes, stops) ← Usage.choose "--output-error" modes name
      pure { tee with mentionsPipes, stops, endures := true }

/-- The switches of the program that copies its input to files. -/
def switches : List Switch := [
  { key := "a", word := "append" }, { key := "i", word := "ignore-interrupts" }, { key := "p" },
  { key := "output-error", word := "output-error", demand := .optional }]

/-- Writes a block to each of some outputs, and gives those that can be written to any further. -/
def writeTo (invocation : Invocation) (tee : Tee) (data : Bytes) (targets : List (Bytes × Nat))
    (code : UInt8) : Task (List (Bytes × Nat) × UInt8) :=
  targets.foldlM (fun (kept, code) (name, target) => do
    match ← Task.writeAll target data with
    | .ok () => pure (kept ++ [(name, target)], code)
    | .error cause =>
      if cause = .brokenPipe && !tee.mentionsPipes then pure (kept, code)
      else
        complain invocation (mention name ++ bytes (": " ++ cause.text))
        if tee.stops then Task.exit 1 else pure (kept, 1)) ([], code)

end Tee

/-- Opens files for writing, and says which cannot be opened. -/
def openAll (invocation : Invocation) (manner : Manner) (stops : Bool) (paths : List Bytes) :
    Task (List (Bytes × Nat) × UInt8) :=
  paths.foldlM (fun (opened, code) path => do
    match ← Task.request (.openFile path manner 0o666) with
    | .ok descriptor => pure (opened ++ [(path, descriptor)], code)
    | .error cause =>
      complain invocation (mention path ++ bytes (": " ++ cause.text))
      if stops then Task.exit 1 else pure (opened, 1)) ([], 0)

/-- Copies the input to the output and to files. -/
def tee : Work := Usage.work { switches := Tee.switches, take := Tee.take } {}
    fun invocation tee operands => do
  if tee.uninterrupted then Task.request (.dispose 2 .ignored)
  if tee.endures then Task.request (.dispose 13 .ignored)
  let manner := if tee.appends then Manner.extending else .replacing
  let (opened, code) ← openAll invocation manner tee.stops operands
  let code ← Task.iterate ((bytes "standard output", 1) :: opened, code) fun (targets, code) => do
    if targets.isEmpty then return .inr code
    match ← Task.request (.read 0 8192) with
    | .error cause =>
      complain invocation (bytes ("read error: " ++ cause.text))
      pure (.inr 1)
    | .ok [] => pure (.inr code)
    | .ok data => pure (.inl (← Tee.writeTo invocation tee data targets code))
  match ← Task.request (.close 0) with
  | .ok () => pure code
  | .error cause =>
    complain invocation (bytes ("standard input: " ++ cause.text))
    pure 1

end LineShell.Programs
