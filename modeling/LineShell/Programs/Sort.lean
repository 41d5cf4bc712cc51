import LineShell.Programs.Amount
import LineShell.Programs.Order
import LineShell.Programs.Streams

/-! Sorting: a program that puts the lines of files in order, or checks their order. -/

namespace LineShell.Programs

/-- What is asked for when lines are sorted. -/
structure Sorting where
  keys : List SortKey := []
  /-- How keys are compared that do not say it themselves. -/
  usual : Comparison := {}
  separator : Option UInt8 := none
  stable : Bool := false
  unique : Bool := false
  /-- Only the order is checked; the letter tells whether something is said about it. -/
  check : Option UInt8 := none
  /-- The files are in order already. -/
  merges : Bool := false
  target : Option Bytes := none
  ending : UInt8 := 10
  /-- The file that holds the names of the files. -/
  names : Option Bytes := none
  /-- Where random bytes come from. -/
  source : Option Bytes := none
  /-- The program that shortens what is kept in between. -/
  compressor : Option Bytes := none
  deriving DecidableEq, Repr, Inhabited

namespace Sorting

/-- The exit code for everything that goes wrong. -/
def failure : UInt8 := 2

/-- The switches of sorting. -/
def switches : List Switch :=
  Usage.plainSwitches [("b", "ignore-leading-blanks")] ++
  [{ key := "check", word := "check", demand := .optional },
    { key := "compress", word := "compress-program", demand := .value }] ++
  Usage.plainSwitches [("debug", "debug"), ("d", "dictionary-order"), ("f", "ignore-case")] ++
  [{ key := "names", word := "files0-from", demand := .value }] ++
  Usage.plainSwitches [("g", "general-numeric-sort"), ("i", "ignore-nonprinting")] ++
  [{ key := "k", word := "key", demand := .value }] ++
  Usage.plainSwitches [("m", "merge"), ("M", "month-sort"), ("n", "numeric-sort"),
    ("h", "human-numeric-sort"), ("V", "version-sort"), ("R", "random-sort")] ++
  [{ key := "source", word := "random-source", demand := .value },
    { key := "sort", word := "sort", demand := .value },
    { key := "o", word := "output", demand := .value }] ++
  Usage.plainSwitches [("r", "reverse"), ("s", "stable")] ++
  [{ key := "batch", word := "batch-size", demand := .value },
    { key := "buffer", word := "buffer-size", demand := .value },
    { key := "t", word := "field-separator", demand := .value },
    { key := "T", word := "temporary-directory", demand := .value }] ++
  Usage.plainSwitches [("u", "unique"), ("z", "zero-terminated")] ++
  [{ key := "parallel", word := "parallel", demand := .value }] ++
  Usage.plainSwitches [("c", ""), ("C", "")] ++
  [{ key := "S", demand := .value }, { key := "y", demand := .value }]

/-- What is said about options that exclude each other. -/
def incompatible (letters : String) : Refusal :=
  { message := bytes ("options '-" ++ letters ++ "' are incompatible") }

/-- What is said about a text that describes no key. -/
def badKey (what : String) (text : Bytes) : Refusal :=
  { message := bytes (what ++ ": invalid field specification ") ++ quoteWord text }

/-- The number that a text begins with, and the rest of it. -/
def countIn (what : String) (text : Bytes) : Except Refusal (Nat × Bytes) :=
  let unsigned := match text.dropWhile isGap with
    | 43 :: rest => rest
    | rest => rest
  let figures := Numeral.digitsOf 10 unsigned
  if figures.isEmpty then
    .error { message := bytes (what ++ ": invalid count at start of ") ++ quoteWord text }
  else .ok (Numeral.valueOf 10 figures, unsigned.drop figures.length)

/-- The key that a text describes. -/
def keyIn (text : Bytes) : Except Refusal SortKey := do
  let (field, rest) ← countIn "invalid number at field start" text
  if field = 0 then .error (badKey "field number is zero" text)
  let (first, rest) ← match rest with
    | 46 :: rest => do
      let (first, rest) ← countIn "invalid number after '.'" rest
      if first = 0 then .error (badKey "character offset is zero" text) else pure (first - 1, rest)
    | _ => pure (0, rest)
  let (comparison, rest) := Comparison.readLetters {} true false rest
  let key : SortKey := { startField := field - 1, startByte := first, comparison }
  match rest with
  | [] => pure key
  | 44 :: rest =>
    let (last, rest) ← countIn "invalid number after ','" rest
    if last = 0 then .error (badKey "field number is zero" text)
    let (count, rest) ← match rest with
      | 46 :: rest => countIn "invalid number after '.'" rest
      | _ => pure (0, rest)
    let (comparison, rest) := Comparison.readLetters comparison false true rest
    if rest.isEmpty then pure { key with ending := some (last - 1, count), comparison }
    else .error (badKey "stray character in field spec" text)
  | _ => .error (badKey "stray character in field spec" text)

/-- The byte that separates fields, given as a text. -/
def separatorIn (text : Bytes) : Except Refusal UInt8 :=
  match text with
  | [] => .error { message := bytes "empty tab" }
  | [byte] => .ok byte
  | _ =>
    if text = bytes "\\0" then .ok 0
    else .error { message := bytes "multi-character tab " ++ quoteWord text }

/-- The sorts by name, with their letters. -/
def sortNames : List (String × Char) :=
  [("general-numeric", 'g'), ("human-numeric", 'h'), ("month", 'M'), ("numeric", 'n'),
    ("random", 'R'), ("version", 'V')]

/-- The kinds of checks by name, with their letters. -/
def checkNames : List (String × UInt8) :=
  [("quiet", 67), ("silent", 67), ("diagnose-first", 99)]

/-- The letters behind the size of a buffer. -/
def sizeLetters : String := "EgGkKmMPtTYZ"

/-- The largest number of files that can be open at once. -/
def mostFiles : Nat := 1048576

/-- The number that the value of an option stands for, with one of some letters behind it. -/
def limitIn (option letters : String) (text : Bytes) : Except Refusal Nat :=
  let unsigned := match text.dropWhile isGap with
    | 43 :: rest => rest
    | rest => rest
  let figures := Numeral.digitsOf 10 unsigned
  let rest := if figures.isEmpty then text else unsigned.drop figures.length
  let refuse := fun (before after : String) =>
    .error { message := bytes (before ++ option ++ " argument '") ++ text ++ bytes ("'" ++ after) }
  if figures.isEmpty && (Amount.multiplier? letters (text.take 1)).isNone || text.isEmpty then
    refuse "invalid " ""
  else match Amount.multiplier? letters rest with
    | none => refuse "invalid suffix in " ""
    | some factor =>
      let value := (if figures.isEmpty then 1 else Numeral.valueOf 10 figures) * factor
      if value > Amount.largest then refuse "" " too large" else .ok value

/-- The size of a buffer; a number alone counts blocks of 1024 bytes. -/
def sizeIn (option : String) (text : Bytes) : Except Refusal Nat :=
  let unit := text.getLast?.getD 0
  let isPlain := unit = 98 || unit = 37
  let before := (text.dropLast.getLast?).any fun byte => 48 ≤ byte && byte ≤ 57
  if isPlain && before then limitIn option "" text.dropLast
  else do
    let size ← limitIn option sizeLetters text
    if 48 ≤ unit && unit ≤ 57 && size * 1024 > Amount.largest then
      .error { message := bytes (option ++ " argument '") ++ text ++ bytes "' too large" }
    else pure size

/-- Checks the value of an option that says how the work is done, but not what comes out of it. -/
def checkLimit (given : Given) : Except Refusal Unit := do
  let value := given.value.getD []
  match given.key with
  | "S" => discard (sizeIn "-S" value)
  | "buffer" => discard (sizeIn "--buffer-size" value)
  | "batch" =>
    let option := "--batch-size"
    let most := bytes ("maximum " ++ option ++ " argument with current rlimit is ") ++
      digits (mostFiles - 3)
    match limitIn option "" value with
    | .error refusal =>
      if bytes "too large" |>.isSuffixOf refusal.message then
        .error { refusal with more := some most }
      else .error refusal
    | .ok count =>
      let quoted := bytes (option ++ " argument '") ++ value ++ [39]
      if count < 2 then .error {
        message := bytes "invalid " ++ quoted
        more := some (bytes ("minimum " ++ option ++ " argument is '2'")) }
      else if count > mostFiles - 3 then .error {
        message := quoted ++ bytes " too large", more := some most }
      else pure ()
  | "parallel" =>
    match limitIn "--parallel" "" value with
    | .ok 0 => .error { message := bytes "number in parallel must be nonzero" }
    | .ok _ => pure ()
    | .error refusal =>
      if bytes "too large" |>.isSuffixOf refusal.message then pure () else .error refusal
  | _ => pure ()

/-- The order is checked, in the way of a letter. -/
def withCheck (sorting : Sorting) (letter : UInt8) : Except Refusal Sorting :=
  if sorting.check.any (· ≠ letter) then .error (incompatible "cC")
  else .ok { sorting with check := some letter }

/-- What a switch changes. -/
def take (sorting : Sorting) (given : Given) : Except Refusal Sorting := do
  let value := given.value.getD []
  match given.key with
  | "c" => sorting.withCheck 99
  | "C" => sorting.withCheck 67
  | "check" => do
    let letter ← match given.value with
      | some name => Usage.choose "--check" checkNames name
      | none => pure 99
    sorting.withCheck letter
  | "k" => do pure { sorting with keys := sorting.keys ++ [← keyIn value] }
  | "m" => pure { sorting with merges := true }
  | "o" =>
    if sorting.target.any (· ≠ value) then
      .error { message := bytes "multiple output files specified" }
    else pure { sorting with target := some value }
  | "s" => pure { sorting with stable := true }
  | "S" | "buffer" | "batch" | "parallel" => do
    checkLimit given
    pure sorting
  | "names" => pure { sorting with names := given.value }
  | "source" =>
    if sorting.source.any (· ≠ value) then
      .error { message := bytes "multiple random sources specified" }
    else pure { sorting with source := some value }
  | "compress" =>
    if sorting.compressor.any (· ≠ value) then
      .error { message := bytes "multiple compress programs specified" }
    else pure { sorting with compressor := some value }
  | "sort" => do
    let letter ← Usage.choose "--sort" sortNames value
    let usual := (sorting.usual.take? true true (UInt8.ofNat letter.toNat)).getD sorting.usual
    pure { sorting with usual }
  | "t" => do
    let separator ← separatorIn value
    if sorting.separator.any (· ≠ separator) then
      .error { message := bytes "incompatible tabs" }
    else pure { sorting with separator := some separator }
  | "u" => pure { sorting with unique := true }
  | "z" => pure { sorting with ending := 0 }
  | letter =>
    match (bytes letter) with
    | [letter] => pure { sorting with
        usual := (sorting.usual.take? true true letter).getD sorting.usual }
    | _ => pure sorting

/-- A place in the old way of writing keys, counted from zero, as it is written now. -/
def placeOf? (text : Bytes) (isEnd : Bool) : Option Bytes :=
  let figures := Numeral.digitsOf 10 text
  let rest := text.drop figures.length
  let (inner, letters) := match rest with
    | 46 :: rest =>
      let inner := Numeral.digitsOf 10 rest
      (inner, rest.drop inner.length)
    | _ => ([], rest)
  let field := Numeral.valueOf 10 figures
  let place := Numeral.valueOf 10 inner
  if figures.isEmpty || !letters.all (bytes "bdfghiMnRrV").contains then none
  else if isEnd then
    some (if place = 0 then digits field ++ letters
      else digits (field + 1) ++ 46 :: digits place ++ letters)
  else some (digits (field + 1) ++ 46 :: digits (place + 1) ++ letters)

/-- The arguments with keys that are written in the old way as they are written now. -/
def modernize : List Bytes → List Bytes
  | [] => []
  | argument :: rest =>
    match argument with
    | [45, 45] => argument :: rest
    | [45, 121] =>
      -- What follows belongs to this letter only if it is a number.
      match rest with
      | [] => [argument]
      | next :: others =>
        if next.all fun byte => 48 ≤ byte && byte ≤ 57 then argument :: next :: modernize others
        else bytes "-y0" :: modernize (next :: others)
    | 43 :: text =>
      match placeOf? text false, rest with
      | none, rest => argument :: modernize rest
      | some start, [] => [bytes "-k" ++ start]
      | some start, next :: others =>
        match next with
        | 45 :: text =>
          match placeOf? text true with
          | some ending => (bytes "-k" ++ start ++ 44 :: ending) :: modernize others
          | none => (bytes "-k" ++ start) :: modernize (next :: others)
        | _ => (bytes "-k" ++ start) :: modernize (next :: others)
    | _ => argument :: modernize rest

/-- The order that is asked for, or the letters of a comparison that excludes itself. -/
def order (sorting : Sorting) : Except Refusal LineOrder :=
  let keys := sorting.keys.map fun key =>
    if key.comparison.isUsual && !key.comparison.reversed
    then { key with comparison := sorting.usual } else key
  let keys := if keys.isEmpty && !sorting.usual.isUsual
    then [{ comparison := sorting.usual }] else keys
  match keys.findSome? fun key => key.comparison.conflict? with
  | some letters => .error (incompatible letters)
  | none => .ok {
      keys, separator := sorting.separator, stable := sorting.stable, unique := sorting.unique
      reversed := sorting.usual.reversed }

/-- Says what could not be done with a file, and ends the program. -/
def fail {α : Type} (invocation : Invocation) (deed : String) (path : Bytes) (cause : Errno) :
    Task α := do
  complain invocation (bytes (deed ++ ": ") ++ mention path ++ bytes (": " ++ cause.text))
  Task.exit failure

/-- The lines of a file. -/
def linesIn (invocation : Invocation) (sorting : Sorting) (path : Bytes) : Task (List Bytes) :=
  withInput path (fail invocation "open failed" path) fun descriptor => do
    match ← Task.readAll descriptor with
    | .ok data => pure (linesOf sorting.ending data)
    | .error cause => fail invocation "read failed" path cause

/-- Gives up the standard input if it has been used. -/
def endReading (invocation : Invocation) (paths : List Bytes) : Task Unit := do
  if paths.contains (bytes "-") then
    if let .error cause ← Task.request (.close 0) then
      fail invocation "close failed" (bytes "-") cause

/-- Checks whether the lines of a file are in order. -/
def verify (invocation : Invocation) (sorting : Sorting) (order : LineOrder) (loud : Bool)
    (path : Bytes) : Task UInt8 := do
  let lines ← sorting.linesIn invocation path
  match order.disorder? lines with
  | none => pure 0
  | some (place, line) =>
    if loud then
      let title := path ++ 58 :: digits place ++ bytes ": disorder: "
      complain invocation (title ++ line)
    pure 1

/-- Makes sure that every file can be read, and that the target can be written. -/
def examine (invocation : Invocation) (sorting : Sorting) (paths : List Bytes) : Task Unit := do
  (paths.filter (· ≠ bytes "-")).forM fun path => do
    match ← Task.request (.examine path true) with
    | .error cause => fail invocation "cannot read" path cause
    | .ok facts =>
      if !facts.file.allows .read then fail invocation "cannot read" path .permission
  if let some target := sorting.target then
    match ← Task.request (.openFile target { writes := true, creates := true } 0o666) with
    | .error cause => fail invocation "open failed" target cause
    | .ok descriptor => discard (Task.request (.close descriptor))
  if paths.contains (bytes "-") then
    if let .error cause ← Task.request (.inspect 0) then
      fail invocation "stat failed" (bytes "-") cause

/-- Writes the lines to where they belong. -/
def write (invocation : Invocation) (sorting : Sorting) (lines : List Bytes) : Task UInt8 := do
  let written ← match sorting.target with
    | none => pure 1
    | some target =>
      match ← Task.request (.openFile target .replacing 0o666) with
      | .ok descriptor => pure descriptor
      | .error cause => fail invocation "open failed" target cause
  let text := joinLines lines sorting.ending
  match ← Task.writeAll written text with
  | .ok () => pure 0
  | .error cause =>
    let name := sorting.target.getD (bytes "standard output")
    let deed := if text.length > bufferLength then "write failed: " else "fflush failed: "
    complain invocation (bytes deed ++ mention name ++ bytes (": " ++ cause.text))
    complain invocation (bytes "write error")
    pure failure

/-- The files whose names a file holds. -/
def namedIn (invocation : Invocation) (source : Bytes) : Task (List Bytes) := do
  let quit := fun {α : Type} (message : Bytes) => (do
    complain invocation message
    Task.exit failure : Task α)
  let data ← withInput source (fail invocation "open failed" source) Task.readAll
  match data with
  | .error _ => quit (bytes "cannot read file names from " ++ quoteName source)
  | .ok data =>
    let names := namesIn data
    if names.isEmpty then quit (bytes "no input from " ++ quoteName source)
    else match names.zipIdx.find? fun (name, _) => name.isEmpty || name = [45] with
      | none => pure names
      | some ([], index) => quit (emptyName source (index + 1))
      | some _ => quit inputAmongNames

/-- Puts the lines of files in order, or checks their order. -/
def run (invocation : Invocation) (sorting : Sorting) (operands : List Bytes) : Task UInt8 := do
  if let (some _, extra :: _) := (sorting.names, operands) then
    return ← refuseBeside invocation extra failure
  let paths ← match sorting.names with
    | none => pure (inputs operands)
    | some source => namedIn invocation source
  match sorting.order with
  | .error refusal => refuse invocation refusal failure
  | .ok order =>
    match sorting.check with
    | some letter =>
      let name := if letter = 99 then "c" else "C"
      match paths.drop 1 with
      | extra :: _ =>
        complain invocation
          (bytes "extra operand " ++ quoteWord extra ++ bytes (" not allowed with -" ++ name))
        pure failure
      | [] =>
        if sorting.target.isSome then refuse invocation (incompatible (name ++ "o")) failure
        else sorting.verify invocation order (letter = 99) (paths.headD [])
    | none =>
      sorting.examine invocation paths
      let lists ← paths.mapM (sorting.linesIn invocation)
      let lines := if sorting.merges then order.merge lists else order.sort lists.flatten
      let code ← sorting.write invocation lines
      if code = 0 then endReading invocation paths
      pure code

end Sorting

/-- The lines of all files in order. -/
def sort : Work := fun invocation =>
  let usage : Usage Sorting := {
    switches := Sorting.switches, take := Sorting.take, code := Sorting.failure }
  Usage.work usage {} Sorting.run
    { invocation with arguments := Sorting.modernize invocation.arguments }

end LineShell.Programs
