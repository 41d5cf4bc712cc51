import LineShell.Programs.Amount
import LineShell.Programs.Streams
import LineShell.Text.Floating

/-! Programs that show the beginnings or the ends of files. -/

namespace LineShell.Programs

/-- When titles are shown above the parts of files. -/
inductive Titles
  | several
  | never
  | always
  deriving DecidableEq, Repr, Inhabited

/-- What is asked for of each file: so many lines or bytes. -/
structure Portion where
  byLine : Bool := true
  /-- The sign before the number. -/
  sign : Option UInt8 := none
  count : Nat := 10
  titles : Titles := .several
  /-- The byte that ends a line. -/
  ending : UInt8 := 10
  /-- What is added to a file later is shown as well. -/
  follows : Bool := false
  /-- A file that is missing is looked for again. -/
  retries : Bool := false
  /-- The end of a process ends the wait for more. -/
  watches : Bool := false
  deriving DecidableEq, Repr, Inhabited

namespace Portion

/-- The letters that multiply a number of lines or bytes. -/
def letters : String := "bkKmMGTPEZY0"

/-- What is said about a wrong number. -/
def complaint (byLine : Bool) : String :=
  if byLine then "invalid number of lines" else "invalid number of bytes"

/-- The portion with the number that an option asks for, whose sign has been taken off. -/
def withCount (portion : Portion) (byLine : Bool) (sign : Option UInt8) (text : Bytes) :
    Except Refusal Portion :=
  match Amount.read letters text with
  | .ok count => .ok { portion with byLine, sign, count }
  | .error fault => .error { message := fault.message (complaint byLine) text }

/-- The portion with what any option changes but for numbers. -/
def takeOther (portion : Portion) (given : Given) : Portion :=
  match given.key with
  | "q" => { portion with titles := .never }
  | "v" => { portion with titles := .always }
  | "z" => { portion with ending := 0 }
  | _ => portion

/-- The switches that are digits. -/
def digitSwitches : List Switch :=
  "0123456789".toList.map fun digit => { key := String.ofList [digit] }

/-- The switches for the beginnings of files. -/
def switchesForHead : List Switch :=
  [{ key := "c", word := "bytes", demand := .value },
    { key := "n", word := "lines", demand := .value },
    { key := "presume", word := "-presume-input-pipe" },
    { key := "q", word := "quiet" }, { key := "q", word := "silent" },
    { key := "v", word := "verbose" }, { key := "z", word := "zero-terminated" }] ++ digitSwitches

/-- The switches for the ends of files. -/
def switchesForTail : List Switch :=
  [{ key := "c", word := "bytes", demand := .value },
    { key := "follow", word := "follow", demand := .optional },
    { key := "n", word := "lines", demand := .value },
    { key := "stats", word := "max-unchanged-stats", demand := .value },
    { key := "polls", word := "-disable-inotify" },
    { key := "pid", word := "pid", demand := .value },
    { key := "presume", word := "-presume-input-pipe" }, { key := "q", word := "quiet" },
    { key := "retry", word := "retry" }, { key := "q", word := "silent" },
    { key := "s", word := "sleep-interval", demand := .value },
    { key := "v", word := "verbose" }, { key := "z", word := "zero-terminated" },
    { key := "f" }, { key := "F" }] ++ digitSwitches

/-- Whether a switch is a digit. -/
def isDigit (given : Given) : Bool :=
  "0123456789".toList.any fun digit => given.key.toList = [digit]

/-- What an option changes for the beginnings of files: all but the last lines or bytes are asked
for by a minus sign. -/
def takeForHead (portion : Portion) (given : Given) : Except Refusal Portion :=
  if isDigit given then
    .error { message := bytes ("invalid trailing option -- " ++ given.key), helps := true }
  else if given.key = "c" || given.key = "n" then
    match given.value.getD [] with
    | 45 :: rest => portion.withCount (given.key = "n") (some 45) rest
    | text => portion.withCount (given.key = "n") none text
  else .ok (portion.takeOther given)

/-- Checks the value of an option for the ends of files that does not say what is shown. -/
def checkWait (given : Given) : Except Refusal Unit := do
  let value := given.value.getD []
  let refuse := fun (what : String) (value : Bytes) => .error {
    message := bytes (what ++ ": ") ++ quoteWord value }
  let figures := Numeral.digitsOf 10 value
  match given.key with
  | "follow" =>
    let known := [("descriptor", 0), ("name", 1)]
    if let some value := given.value then discard (Usage.choose "--follow" known value)
  | "stats" =>
    if figures.length ≠ value.length || figures.isEmpty then
      refuse "invalid maximum number of unchanged stats between opens" value
  | "pid" =>
    if figures.length ≠ value.length || figures.isEmpty then refuse "invalid PID" value
    else if Numeral.valueOf 10 figures ≥ 2147483648 then
      .error { message := Amount.Fault.tooLarge.message "invalid PID" value }
  | "s" =>
    let isTime := match Floating.read? Floating.double value with
      | some (.finite negative mantissa _, length) =>
        length = value.length && !(negative && mantissa ≠ 0)
      | some (.infinite negative, length) => length = value.length && !negative
      | _ => false
    if !isTime then refuse "invalid number of seconds" value
  | _ => pure ()

/-- What an option changes for the ends of files: where to begin is told by a plus sign. -/
def takeForTail (portion : Portion) (given : Given) : Except Refusal Portion := do
  checkWait given
  if given.key = "f" || given.key = "follow" then return { portion with follows := true }
  if given.key = "F" then return { portion with follows := true, retries := true }
  if given.key = "retry" then return { portion with retries := true }
  if given.key = "pid" then return { portion with watches := true }
  if isDigit given then
    .error { message := bytes ("option used in invalid context -- " ++ given.key) }
  else if given.key = "c" || given.key = "n" then
    match given.value.getD [] with
    | 45 :: rest => portion.withCount (given.key = "n") portion.sign rest
    | 43 :: rest => portion.withCount (given.key = "n") (some 43) (43 :: rest)
    | text => portion.withCount (given.key = "n") portion.sign text
  else .ok (portion.takeOther given)

/-- The lines of some bytes with what ends them. -/
def parts (portion : Portion) (data : Bytes) : List Bytes :=
  if !portion.byLine then data.map ([·])
  else
    let lines := (splitAt portion.ending data).map (· ++ [portion.ending])
    match lines.getLast? with
    | none => []
    | some last => if last.length = 1 then lines.dropLast else lines.dropLast ++ [last.dropLast]

/-- Writes a part of a file, or ends the program because that is not possible. -/
def outputPart (invocation : Invocation) (data : Bytes) : Task Unit := do
  match ← Task.writeAll 1 data with
  | .ok () => pure ()
  | .error cause =>
    let deed := if data.length < bufferLength then "write error"
      else "error writing 'standard output'"
    complain invocation (bytes (deed ++ ": " ++ cause.text))
    Task.exit 1

/-- Whether a file that cannot be read ends the program: the rest of a file is copied without being
looked at. -/
def endsAtFault (portion : Portion) : Bool :=
  portion.sign = some 43 && (!portion.byLine || portion.count ≤ 1)

/-- Shows a portion of each file, with titles if they are wanted. -/
def showAll (invocation : Invocation) (portion : Portion) (operands : List Bytes)
    (copy : Nat → Task (Except Bytes Unit)) : Task UInt8 := do
  let titled := portion.titles = .always || (portion.titles = .several && operands.length > 1)
  let (code, _) ← (inputs operands).foldlM (fun (code, isFirst) path => do
    let failed := fun (cause : Errno) => do
      complain invocation (bytes "cannot open " ++ quoteName (titleOf path) ++
        bytes (" for reading: " ++ cause.text))
      pure ((1 : UInt8), isFirst)
    withInput path failed fun descriptor => do
      if titled then
        let title := bytes "==> " ++ titleOf path ++ bytes " <==\n"
        outputBlock invocation (if isFirst then title else 10 :: title)
      match ← copy descriptor with
      | .ok () => pure (code, false)
      | .error message =>
        let parts := splitAt 0 message
        complain invocation (parts.headD [] ++ quoteName (titleOf path) ++ parts.getLastD [])
        if portion.endsAtFault then Task.exit 1 else pure (1, false)) ((0 : UInt8), true)
  endInput invocation operands "-" code 1

/-- What is said about a failure, with a zero byte in the place of the file. -/
def failure (act : String) (cause : Errno) : Bytes :=
  bytes act ++ 0 :: bytes (": " ++ cause.text)

/-- The first parts of some bytes, up to a number, the rest, and how many parts are missing. -/
def takeParts (portion : Portion) : Nat → Bytes → Bytes × Bytes × Nat
  | 0, data => ([], data, 0)
  | missing + 1, data =>
    if !portion.byLine then
      (data.take (missing + 1), data.drop (missing + 1), missing + 1 - data.length)
    else go data [] missing
where
  /-- Goes on in a line, with the bytes before in reverse order. -/
  go : Bytes → Bytes → Nat → Bytes × Bytes × Nat
    | [], before, missing => (before.reverse, [], missing + 1)
    | byte :: rest, before, missing =>
      if byte = portion.ending then
        match missing with
        | 0 => ((byte :: before).reverse, rest, 0)
        | missing + 1 => go rest (byte :: before) missing
      else go rest (byte :: before) missing

/-- Gives back what has been read too much, as far as that is possible. -/
def giveBack (descriptor count : Nat) : Task Unit :=
  if count = 0 then pure ()
  else discard (Task.request (.seek descriptor .current (-count)))

/-- Copies the first lines or bytes that can be read. -/
def copyFirst (invocation : Invocation) (portion : Portion) (descriptor : Nat) :
    Task (Except Bytes Unit) :=
  Task.iterate portion.count fun missing => do
    if missing = 0 then return .inr (.ok ())
    let limit := if portion.byLine then 8192 else min missing 8192
    match ← Task.request (.read descriptor limit) with
    | .error cause => pure (.inr (.error (failure "error reading " cause)))
    | .ok [] => pure (.inr (.ok ()))
    | .ok data =>
      let (taken, rest, missing) := portion.takeParts missing data
      giveBack descriptor rest.length
      outputPart invocation taken
      pure (.inl missing)

/-- Copies all but the last lines or bytes. -/
def copyButLast (invocation : Invocation) (portion : Portion) (descriptor : Nat) :
    Task (Except Bytes Unit) := do
  match ← Task.request (.inspect descriptor) with
  | .error cause => pure (.error (failure "cannot fstat " cause))
  | .ok _ =>
    match ← Task.readAll descriptor with
    | .error cause => pure (.error (failure "error reading " cause))
    | .ok data =>
      let all := portion.parts data
      let kept := (all.take (all.length - portion.count)).flatten
      giveBack descriptor (data.length - kept.length)
      outputPart invocation kept
      pure (.ok ())

/-- Copies the last lines or bytes, or those from some place on. -/
def copyLast (invocation : Invocation) (portion : Portion) (descriptor : Nat) :
    Task (Except Bytes Unit) := do
  match ← Task.request (.inspect descriptor) with
  | .error cause => pure (.error (failure "cannot fstat " cause))
  | .ok _ =>
    match ← Task.readAll descriptor with
    | .error cause => pure (.error (failure "error reading " cause))
    | .ok data =>
      let all := portion.parts data
      let skipped := if portion.sign = some 43 then portion.count - 1
        else all.length - portion.count
      outputPart invocation (all.drop skipped).flatten
      pure (.ok ())

/-- Reads the letters behind a number that stands right behind a dash, for the beginnings of
files. -/
def readLetters (portion : Portion) (scale : Bytes) : Bytes → Except Refusal (Portion × Bytes)
  | [] => .ok (portion, scale)
  | letter :: rest =>
    match Char.ofNat letter.toNat with
    | 'c' => readLetters { portion with byLine := false } [] rest
    | 'b' | 'k' | 'm' => readLetters { portion with byLine := false } [letter] rest
    | 'l' => readLetters { portion with byLine := true } scale rest
    | 'q' => readLetters { portion with titles := .never } scale rest
    | 'v' => readLetters { portion with titles := .always } scale rest
    | 'z' => readLetters { portion with ending := 0 } scale rest
    | _ => .error { message := bytes "invalid trailing option -- " ++ [letter], helps := true }

/-- What the first argument asks for if it is a number behind a dash, for the beginnings of
files. -/
def ofNumber (argument : Bytes) : Option (Except Refusal Portion) :=
  let figures := Numeral.digitsOf 10 (argument.drop 1)
  if argument.head? ≠ some 45 || figures.isEmpty then none
  else some do
    let (portion, scale) ← readLetters {} [] (argument.drop (1 + figures.length))
    portion.withCount portion.byLine none (figures ++ scale)

/-- What the first argument asks for if it is a number behind a sign, for the ends of files. There
may be one file at most then. -/
def ofSigned (arguments : List Bytes) : Option (Except Refusal Portion) :=
  let isAlone := match arguments with
    | [_] => true
    | [_, second] => second.head? ≠ some 45 || second.length = 1 || second = bytes "--"
    | [_, second, _] => second = bytes "--"
    | _ => false
  match arguments, isAlone with
  | (sign :: text) :: _, true =>
    let figures := Numeral.digitsOf 10 text
    let letters := text.drop figures.length
    let isLonely := sign = 45 && (text.isEmpty || text = bytes "c")
    let follows := letters.getLast? = some 102
    let kind := match if follows then letters.dropLast else letters with
      | [] | [108] => some (true, [])
      | [99] => some (false, [])
      | [98] => some (false, [(98 : UInt8)])
      | _ => none
    if (sign ≠ 43 && sign ≠ 45) || isLonely then none
    else kind.map fun (byLine, scale) =>
      let number := if figures.isEmpty then bytes "10" else figures
      match Amount.read "b" (number ++ scale) with
      | .ok count => .ok {
          byLine, count, follows, sign := if sign = 43 then some 43 else none }
      | .error fault => .error { message := fault.message "invalid number" (sign :: text) }
  | _, _ => none

/-- Warns about options that mean nothing as long as files are not followed. -/
def warn (portion : Portion) (invocation : Invocation) : Task Unit := do
  if !portion.follows then
    if portion.retries then
      complain invocation
        (bytes "warning: --retry ignored; --retry is useful only when following")
    if portion.watches then
      complain invocation (bytes "warning: PID ignored; --pid=PID is useful only when following")

/-- What comes when all files have been shown that are followed: nothing is added to any of them,
and it is told if there are none. -/
def endFollowing (invocation : Invocation) (portion : Portion) (operands : List Bytes)
    (code : UInt8) : Task UInt8 := do
  let isOpen ← (inputs operands).anyM fun path =>
    if path = bytes "-" then pure true
    else do pure (← Task.request (.examine path true)).isOk
  if !isOpen && !portion.retries then complain invocation (bytes "no files remaining")
  pure code

end Portion

/-- The beginnings of files. -/
def head : Work := fun invocation =>
  let start := Portion.ofNumber (invocation.arguments.headD [])
  match start with
  | some (.error refusal) => refuse invocation refusal 1
  | _ =>
    let portion := match start with
      | some (.ok portion) => portion
      | _ => {}
    let arguments := if start.isSome then invocation.arguments.drop 1 else invocation.arguments
    let usage := { switches := Portion.switchesForHead, take := Portion.takeForHead }
    Usage.work usage portion (fun invocation portion operands =>
      portion.showAll invocation operands
        (if portion.sign = some 45 then portion.copyButLast invocation
          else portion.copyFirst invocation)) { invocation with arguments }

/-- The ends of files. -/
def tail : Work := fun invocation =>
  match Portion.ofSigned invocation.arguments with
  | some (.error refusal) => refuse invocation refusal 1
  | start =>
    let portion := match start with
      | some (.ok portion) => portion
      | _ => {}
    let arguments := if start.isSome then invocation.arguments.drop 1 else invocation.arguments
    let usage := { switches := Portion.switchesForTail, take := Portion.takeForTail }
    Usage.work usage portion (fun invocation portion operands => do
      portion.warn invocation
      -- Nothing has to be opened if nothing is to be shown.
      if portion.count = 0 && portion.sign ≠ some 43 && !portion.follows then pure 0
      else
        let code ← portion.showAll invocation operands (portion.copyLast invocation)
        if portion.follows then portion.endFollowing invocation operands code else pure code)
      { invocation with arguments }

end LineShell.Programs
