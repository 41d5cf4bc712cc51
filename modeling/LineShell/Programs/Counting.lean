import LineShell.Programs.Streams

/-! Counting: a program that counts the lines, words and bytes of files. -/

namespace LineShell.Programs

/-- Numbers of what is in a file. -/
structure Counts where
  lines : Nat := 0
  words : Nat := 0
  bytes : Nat := 0
  /-- The columns of the longest line. -/
  longest : Nat := 0
  deriving DecidableEq, Repr, Inhabited

/-- What is counted. -/
structure Counted where
  lines : Bool := false
  words : Bool := false
  characters : Bool := false
  bytes : Bool := false
  longest : Bool := false
  /-- The file that holds the names of the files. -/
  names : Option Bytes := none
  deriving DecidableEq, Repr, Inhabited

namespace Counts

/-- How far the count of some bytes has come. -/
structure State where
  counts : Counts := {}
  /-- The word that has begun goes on. -/
  inWord : Bool := false
  column : Nat := 0
  deriving DecidableEq, Repr, Inhabited

/-- The count after one more byte. A word has at least one byte that is shown, and bytes that are
not neither begin nor end one. -/
def step (state : State) (byte : UInt8) : State :=
  let counts := { state.counts with bytes := state.counts.bytes + 1 }
  let ended := { counts with words := counts.words + if state.inWord then 1 else 0 }
  let longest := max counts.longest state.column
  if byte = 10 then
    { counts := { ended with lines := counts.lines + 1, longest } }
  else if byte = 13 || byte = 12 then { counts := { ended with longest } }
  else if byte = 9 then { counts := ended, column := state.column + (8 - state.column % 8) }
  else if byte = 32 then { counts := ended, column := state.column + 1 }
  else if byte = 11 then { counts := ended, column := state.column }
  else if Naming.isPrintable byte then { counts, inWord := true, column := state.column + 1 }
  else { state with counts }

/-- The counts of some bytes. -/
def ofBytes (data : Bytes) : Counts :=
  let state := data.foldl step {}
  { state.counts with
    words := state.counts.words + if state.inWord then 1 else 0
    longest := max state.counts.longest state.column }

/-- The counts of two files together. -/
def add (first second : Counts) : Counts where
  lines := first.lines + second.lines
  words := first.words + second.words
  bytes := first.bytes + second.bytes
  longest := max first.longest second.longest

end Counts

namespace Counted

/-- The switches that say what is counted. -/
def switches : List Switch :=
  Usage.plainSwitches [("c", "bytes"), ("m", "chars"), ("l", "lines"), ("w", "words")] ++
    [{ key := "names", word := "files0-from", demand := .value },
      { key := "L", word := "max-line-length" }]

/-- What a switch changes. -/
def take (counted : Counted) (given : Given) : Except Refusal Counted :=
  .ok (match given.key with
  | "c" => { counted with bytes := true }
  | "l" => { counted with lines := true }
  | "m" => { counted with characters := true }
  | "w" => { counted with words := true }
  | "names" => { counted with names := given.value }
  | _ => { counted with longest := true })

/-- What is counted if nothing is said about it. -/
def orUsual (counted : Counted) : Counted :=
  if { counted with names := none } = {} then
    { counted with lines := true, words := true, bytes := true }
  else counted

/-- The numbers that are shown. -/
def chosen (counted : Counted) (counts : Counts) : List Nat :=
  (if counted.lines then [counts.lines] else []) ++
    (if counted.words then [counts.words] else []) ++
    (if counted.characters then [counts.bytes] else []) ++
    (if counted.bytes then [counts.bytes] else []) ++
    (if counted.longest then [counts.longest] else [])

/-- Whether only bytes are counted, for which nothing has to be looked at. -/
def isSize (counted : Counted) : Bool :=
  !counted.lines && !counted.words && !counted.longest

/-- A line that shows counts. -/
def row (counted : Counted) (width : Nat) (counts : Counts) (name : Option Bytes) : Bytes :=
  let columns := (counted.chosen counts).map fun count =>
    let figures := digits count
    List.replicate (width - figures.length) 32 ++ figures
  let shown := name.map fun name => if name.contains 10 then mention name else name
  joinWords (columns ++ shown.toList) ++ [10]

end Counted

/-- What is known of a file before it is read. -/
inductive Extent
  | missing
  /-- The number of its bytes. -/
  | size (bytes : Nat)
  | unsized
  deriving DecidableEq, Repr, Inhabited

namespace Extent

/-- The extent of what a path names. -/
def ofPath (path : Bytes) : Task Extent := do
  let answer ← if path = bytes "-" then Task.request (.inspect 0) else do
    pure ((← Task.request (.examine path true)).map some)
  match answer with
  | .ok facts =>
    match facts.bind Facts.size? with
    | some bytes => pure (.size bytes)
    | none => pure .unsized
  | .error _ => pure .missing

/-- How wide the counts of some files are shown: by the size of all of them, and at least in seven
places if one of them has no size. -/
def width (extents : List Extent) : Nat :=
  let sizes := extents.filterMap fun
    | .size bytes => some bytes
    | _ => none
  let width := (digits (total sizes)).length
  if extents.contains .unsized then max 7 width else width

end Extent

/-- Sizes that are multiples of this are not relied on. -/
def pageLength : Nat := 4096

/-- The number of bytes from where a descriptor stands to the end of its file, if that can be told
without reading them; and the number of those that have been passed over so that the others can be
read. -/
def remaining (descriptor : Nat) : Task (Nat ⊕ Nat) := do
  match (← factsBehind descriptor).bind Facts.size? with
  | none => pure (.inr 0)
  | some size =>
    match ← Task.request (.seek descriptor .current 0) with
    | .error _ => pure (.inr 0)
    | .ok offset =>
      let target := size - size % (pageLength + 1)
      if size % pageLength ≠ 0 then pure (.inl (size - offset))
      else if offset < target then
        match ← Task.request (.seek descriptor .current target) with
        | .ok _ => pure (.inr (target - offset))
        | .error _ => pure (.inr 0)
      else pure (.inr 0)

/-- Counts what can be read from a descriptor. -/
def countAll (counted : Counted) (descriptor : Nat) : Task (Except Errno Counts) := do
  let known ← if counted.isSize then remaining descriptor else pure (.inr 0)
  match known with
  | .inl bytes => pure (.ok { bytes })
  | .inr passed =>
    match ← Task.readAll descriptor with
    | .error cause => pure (.error cause)
    | .ok data =>
      let counts := Counts.ofBytes data
      pure (.ok { counts with bytes := counts.bytes + passed })

/-- The files to be counted: by the operands, or by names in a file, which may be known only one
after the other. -/
structure Subjects where
  paths : List Bytes
  /-- The file that holds the names. -/
  source : Option Bytes := none
  /-- The names are not known from the start. -/
  streams : Bool := false
  /-- Why reading the names ended too early. -/
  broken : Option Errno := none
  deriving Repr, Inhabited

namespace Subjects

/-- The files whose names a file holds. -/
def ofFile (invocation : Invocation) (source : Bytes) : Task (Option Subjects) := do
  let failed := fun (cause : Errno) => do
    complain invocation (bytes "cannot open " ++ quoteName source ++
      bytes (" for reading: " ++ cause.text))
    pure none
  withInput source failed fun descriptor => do
    let isRegular := ((← factsBehind descriptor).bind Facts.size?).isSome
    match ← Task.readAll descriptor with
    | .ok data => pure (some {
        paths := namesIn data, source := some source, streams := !isRegular })
    | .error cause => pure (some { paths := [], source, streams := true, broken := some cause })

/-- What is wrong with the name of one of the files, whose number is given as well. -/
def wrongName? (subjects : Subjects) (path : Bytes) (number : Nat) : Option Bytes :=
  if path.isEmpty then
    some (match subjects.source with
      | some source => emptyName source number
      | none => bytes "invalid zero-length file name")
  else if path = [45] && subjects.source = some [45] then some inputAmongNames
  else none

end Subjects

/-- How far the count of some files has come. -/
structure Tally where
  sum : Counts := {}
  code : UInt8 := 0
  /-- A line could not be written. -/
  unwritten : Bool := false
  deriving Repr, Inhabited

/-- Shows the counts of some files, and of all of them together. -/
def countFiles (invocation : Invocation) (counted : Counted) (operands : List Bytes)
    (subjects : Subjects) : Task UInt8 := do
  let paths := subjects.paths
  let single := paths.length = 1 && (counted.chosen {}).length = 1
  let width ← if single || subjects.streams || paths.isEmpty then pure 1
    else do pure (Extent.width (← paths.mapM Extent.ofPath))
  let named := subjects.source.isSome || !operands.isEmpty
  let subject := fun (path : Bytes) => mention (if named then path else titleOf path)
  -- Every line is written at once, and what becomes of it is told in the end.
  let show_ := fun (counts : Counts) (name : Bytes) (tally : Tally) => do
    match ← Task.writeAll 1 (counted.row width counts (if named then some name else none)) with
    | .ok () => pure tally
    | .error _ => pure { tally with unwritten := true }
  let tally ← paths.zipIdx.foldlM (fun (tally : Tally) (path, index) => do
    let failed := fun (cause : Errno) => do
      complain invocation (subject path ++ bytes (": " ++ cause.text))
      pure { tally with code := 1 }
    match subjects.wrongName? path (index + 1) with
    | some message =>
      complain invocation message
      pure { tally with code := 1 }
    | none => withInput path failed fun descriptor => do
      match ← countAll counted descriptor with
      | .ok counts => show_ counts path { tally with sum := tally.sum.add counts }
      | .error cause => show_ {} path (← failed cause)) {}
  let tally ← match subjects.broken with
    | none => pure tally
    | some cause =>
      complain invocation (mention (subjects.source.getD []) ++
        bytes (": read error: " ++ cause.text))
      pure { tally with code := 1 }
  let tally ← if paths.length > 1 then show_ tally.sum (bytes "total") tally else pure tally
  let code ← endInput invocation paths "-" tally.code 1
  if tally.unwritten then lostOutput invocation else pure code

/-- The number of lines, words and bytes in files. -/
def wc : Work := Usage.work { switches := Counted.switches, take := Counted.take } {}
    fun invocation counted operands => do
  let counted := counted.orUsual
  match counted.names, operands with
  | none, _ => countFiles invocation counted operands { paths := inputs operands }
  | some _, extra :: _ => refuseBeside invocation extra 1
  | some source, [] =>
    match ← Subjects.ofFile invocation source with
    | none => pure 1
    | some subjects => countFiles invocation counted [] subjects

end LineShell.Programs
