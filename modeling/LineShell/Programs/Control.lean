import LineShell.Programs.Usage
import LineShell.System.Signal
import LineShell.Text.Floating

/-! Programs that wait, or that show and change the variables other programs are started with. -/

namespace LineShell.Programs

/-- What the letter behind a number of seconds multiplies it by. -/
def secondsIn? : Bytes → Option Nat
  | [] | [115] => some 1
  | [109] => some 60
  | [104] => some 3600
  | [100] => some 86400
  | _ => none

/-- The longest time that anything waits, in microseconds. -/
def longestWait : Nat := 10000000000000000

/-- The number of microseconds that a text stands for: seconds, or another unit by the letter behind
them. -/
def duration? (text : Bytes) : Option Nat := do
  let (number, length) ← Floating.read? Floating.double text
  let seconds ← secondsIn? (text.drop length)
  match number with
  | .finite negative mantissa exponent =>
    let (numerator, denominator) := Floating.quotient mantissa exponent
    if negative && mantissa ≠ 0 then none
    else some (min longestWait ((numerator * seconds * 1000000 + denominator - 1) / denominator))
  | .infinite negative => if negative then none else some longestWait
  | .undefined _ => none

/-- Does nothing for some time. -/
def sleep : Work := Usage.work { take := Usage.remember } [] fun invocation _ operands => do
  if invocation.arguments.isEmpty then misuse invocation (bytes "missing operand") 1
  else
    let wrong := operands.filter fun operand => (duration? operand).isNone
    match wrong.getLast? with
    | some last =>
      wrong.dropLast.forM fun operand =>
        complain invocation (bytes "invalid time interval " ++ quoteWord operand)
      misuse invocation (bytes "invalid time interval " ++ quoteWord last) 1
    | none =>
      Task.request (.sleep (total (operands.filterMap duration?)))
      pure 0

/-- The name and the value of an assignment. -/
def assignment? (word : Bytes) : Option (Bytes × Bytes) :=
  let name := word.takeWhile (· != 61)
  if name.length = word.length then none
  else some (name, word.drop (name.length + 1))

/-- Variables with another value for a name. -/
def putVariable (environment : Environment) (name value : Bytes) : Environment :=
  if environment.any fun entry => entry.1 = name then
    environment.map fun entry => if entry.1 = name then (name, value) else entry
  else environment ++ [(name, value)]

/-- How variables are shown, each with a byte behind it. -/
def listing (environment : Environment) (ending : UInt8) : Bytes :=
  environment.flatMap fun (name, value) => name ++ 61 :: value ++ [ending]

/-- Becomes the first program that can be run at some paths. A file that is no program is a script
for the shell. -/
def execFirst (words : List Bytes) (environment : Environment) :
    List Bytes → Errno → Task Errno
  | [], cause => pure cause
  | path :: rest, cause => do
    let found ← Task.exec path words environment
    if found = .noEntry || found = .notDirectory then execFirst words environment rest cause
    else if found = .permission then execFirst words environment rest found
    else if found = .notExecutableFormat then
      let shell := bytes "/bin/sh"
      Task.exec shell (shell :: path :: words.drop 1) environment
    else pure found

/-- What a program is to be started with. -/
structure Surroundings where
  /-- None of the variables that there are is kept. -/
  fresh : Bool := false
  /-- The names that are not kept. -/
  dropped : List Bytes := []
  directory : Option Bytes := none
  /-- A zero byte stands behind what is shown, and not a line feed. -/
  zero : Bool := false
  /-- What is done is told. -/
  talks : Bool := false
  /-- The signals that the program is to ignore or not. -/
  signals : List (Nat × Disposition) := []
  /-- The signals that have been named, and not only meant with all others. -/
  namedSignals : List Nat := []
  deriving Repr, Inhabited

namespace Surroundings

/-- The exit code for everything that keeps a program from being started. -/
def failure : UInt8 := 125

/-- The switches for what a program is to be started with. -/
def switches : List Switch := [
  { key := "i", word := "ignore-environment" }, { key := "0", word := "null" },
  { key := "u", word := "unset", demand := .value },
  { key := "C", word := "chdir", demand := .value },
  { key := "usual", word := "default-signal", demand := .optional },
  { key := "ignored", word := "ignore-signal", demand := .optional },
  { key := "blocked", word := "block-signal", demand := .optional },
  { key := "listed", word := "list-signal-handling" }, { key := "v", word := "debug" },
  { key := "S", word := "split-string", demand := .value }] ++
  [" ", "\t", "\n", "\x0b", "\x0c", "\r"].map fun blank => { key := blank }

/-- Where to look for help about blanks in the first line of a script. -/
def hint : String := "use -[v]S to pass options in shebang lines"

/-- The number of a signal that a word stands for: its number, or its name with or without the
beginning that all names of signals have. -/
def signalOf (word : Bytes) : Except Refusal Nat :=
  let figures := Numeral.digitsOf 10 word
  let isLong := (Utf8.toString? (word.take 3)).any fun text => text.map Char.toUpper = "SIG"
  let number := if !figures.isEmpty && figures.length = word.length
    then some (Numeral.valueOf 10 figures)
    else (Utf8.toString? (if isLong then word.drop 3 else word)).bind (Signal.ofName? 1)
  let isKnown := fun (number : Nat) =>
    1 ≤ number && number ≤ Signal.last && !(32 ≤ number && number < Signal.firstCounted)
  match number.filter isKnown with
  | some number => .ok number
  | none => .error {
      message := quoteWord word ++ bytes ": invalid signal", helps := true }

/-- The same with some signals that are to be treated in a certain way. -/
def withSignals (state : Surroundings) (disposition : Disposition) (value : Option Bytes) :
    Except Refusal Surroundings := do
  match value with
  | none =>
    let all := (List.range (Signal.last + 1)).drop 1
    pure { state with signals := state.signals ++ all.map fun number => (number, disposition) }
  | some text =>
    let words := (splitAt 44 text).filter fun word => !word.isEmpty
    let numbers ← words.mapM signalOf
    pure { state with
      signals := state.signals ++ numbers.map fun number => (number, disposition)
      namedSignals := state.namedSignals ++ numbers }

/-- What one of the switches changes. -/
def take (state : Surroundings) (given : Given) : Except Refusal Surroundings :=
  match given.key with
  | "usual" => state.withSignals .usual given.value
  | "ignored" => state.withSignals .ignored given.value
  | "blocked" => do
    discard (state.withSignals .usual given.value)
    pure state
  | "listed" => .ok state
  | "i" => .ok { state with fresh := true }
  | "0" => .ok { state with zero := true }
  | "v" => .ok { state with talks := true }
  | "u" => .ok { state with dropped := state.dropped ++ given.value.toList }
  | "C" => .ok { state with directory := given.value }
  | "S" => .ok state
  | blank => .error {
      message := bytes ("invalid option -- '" ++ blank ++ "'"), more := some (bytes hint)
      helps := true }

/-- The name in braces that a text behind a dollar sign begins with. -/
def nameInBraces? : Bytes → Option Bytes
  | 123 :: first :: rest =>
    let isLetter := fun (byte : UInt8) =>
      (65 ≤ byte && byte ≤ 90) || (97 ≤ byte && byte ≤ 122) || byte = 95
    let name := rest.takeWhile fun byte => isLetter byte || (48 ≤ byte && byte ≤ 57)
    if isLetter first && (rest.drop name.length).head? = some 125 then some (first :: name)
    else none
  | _ => none

/-- How far a text has been split into words. -/
structure Splitting where
  /-- The words so far, the last first, each in reverse order. -/
  words : List Bytes := []
  /-- The next byte begins a new word. -/
  apart : Bool := true
  single : Bool := false
  double : Bool := false
  deriving Repr, Inhabited

namespace Splitting

/-- A word has begun, even if nothing comes. -/
def begin (state : Splitting) : Splitting :=
  if state.apart then { state with words := [] :: state.words, apart := false } else state

/-- The word goes on with some bytes. -/
def put (state : Splitting) (text : Bytes) : Splitting :=
  let state := state.begin
  { state with words := state.words.modifyHead (text.reverse ++ ·) }

/-- The words. -/
def finish (state : Splitting) : Except Bytes (List Bytes) :=
  if state.single || state.double then .error (bytes "no terminating quote in -S string")
  else .ok (state.words.reverse.map List.reverse)

/-- The bytes that letters behind a backslash stand for. -/
def letters : List (UInt8 × UInt8) :=
  [(102, 12), (110, 10), (114, 13), (116, 9), (118, 11)]

/-- Splits a text into words, in at most so many steps, with the values of variables in it. -/
def run (environment : Environment) : Nat → Bytes → Splitting → Except Bytes (List Bytes)
  | 0, _, state | _, [], state => state.finish
  | bound + 1, byte :: rest, state =>
    if byte = 39 && !state.double then
      run environment bound rest { state.begin with single := !state.single }
    else if byte = 34 && !state.single then
      run environment bound rest { state.begin with double := !state.double }
    else if isGap byte && !state.single && !state.double then
      run environment bound rest { state with apart := true }
    else if byte = 35 && state.apart then state.finish
    else if byte = 92 && !(state.single && rest.head? ≠ some 92 && rest.head? ≠ some 39) then
      match rest with
      | [] => .error (bytes "invalid backslash at end of string in -S")
      | next :: after =>
        if (bytes "\"#$'\\").contains next then run environment bound after (state.put [next])
        else if next = 95 then
          if state.double then run environment bound after (state.put [32])
          else run environment bound after { state with apart := true }
        else if next = 99 then
          if state.double then .error (bytes "'\\c' must not appear in double-quoted -S string")
          else state.finish
        else match letters.lookup next with
          | some meant => run environment bound after (state.put [meant])
          | none => .error (bytes "invalid sequence '\\" ++ [next] ++ bytes "' in -S")
    else if byte = 36 && !state.single then
      match nameInBraces? rest with
      | none =>
        .error (bytes "only $\x7bVARNAME\x7d expansion is supported, error at: " ++ byte :: rest)
      | some name =>
        let state := match environment.lookup name with
          | some value => state.put value
          | none => state
        run environment bound (rest.drop (name.length + 2)) state
    else run environment bound rest (state.put [byte])

end Splitting

/-- The place of the first switch whose value is to be split, as the number of arguments up to the
value, with the value. -/
def placeOfText? (arguments : List Bytes) : Option (Nat × Bytes) :=
  (List.range (arguments.length + 1)).findSome? fun count =>
    let reading := Usage.read switches false (arguments.take count)
    (valueOf? reading.given "S").map (count, ·)

/-- The arguments with the words of each text to be split in its place, and before them what the
switches on the way change; there are so many such texts at most. -/
def splitArguments (environment : Environment) : Nat → Surroundings → List Bytes →
    Except Refusal (Surroundings × List Bytes)
  | 0, state, arguments => .ok (state, arguments)
  | bound + 1, state, arguments =>
    match placeOfText? arguments with
    | none => .ok (state, arguments)
    | some (count, text) => do
      let before := Usage.read switches false (arguments.take count)
      let state ← before.given.foldlM take state
      match Splitting.run environment (text.length + 1) text {} with
      | .error message => .error { message }
      | .ok words => splitArguments environment bound state (words ++ arguments.drop count)

/-- The variables that a program is started with. -/
def environment (state : Surroundings) (given : Environment) (assignments : Environment) :
    Environment :=
  let kept := if state.fresh then []
    else given.filter fun entry => !state.dropped.contains entry.1
  assignments.foldl (fun environment (name, value) => putVariable environment name value) kept

/-- Tells what is done, if that is wanted. -/
def tell (state : Surroundings) (text : Bytes) : Task Unit := do
  if state.talks then discard (Task.writeAll 2 (text ++ [10]))

/-- Tells about the variables that are changed. -/
def tellChanges (state : Surroundings) (assignments : Environment) : Task Unit := do
  if state.fresh then state.tell (bytes "cleaning environ")
  else state.dropped.forM fun name => state.tell (bytes "unset:    " ++ name)
  assignments.forM fun (name, value) => state.tell (bytes "setenv:   " ++ name ++ 61 :: value)

/-- Treats signals as they are to be treated, and gives the first one for which that is not
possible. -/
def setSignals (state : Surroundings) : Task (Option Nat) := do
  -- What is asked for last holds.
  let last := state.signals.reverse
  let numbers := (List.range (Signal.last + 1)).filter fun number => last.any (·.1 = number)
  let fixed := numbers.filter fun number => number = 9 || number = 19
  match fixed.find? state.namedSignals.contains with
  | some number => pure (some number)
  | none =>
    numbers.forM fun number => do
      if !fixed.contains number then
        if let some disposition := last.lookup number then
          Task.request (.dispose number disposition)
    pure none

/-- Becomes a program. -/
def start (state : Surroundings) (invocation : Invocation) (environment : Environment)
    (command : Bytes) (arguments : List Bytes) : Task UInt8 := do
  state.tell (bytes "executing: " ++ command)
  (command :: arguments).zipIdx.forM fun (word, place) =>
    state.tell (bytes "   arg[" ++ digits place ++ bytes "]= " ++ quoteWord word)
  let searchPath := (environment.lookup (bytes "PATH")).getD (bytes "/bin:/usr/bin")
  let paths := if command.isEmpty then [] else if command.contains 47 then [command]
    else (splitAt 58 searchPath).map fun element =>
      if element.isEmpty then command else element ++ 47 :: command
  let cause ← execFirst (command :: arguments) environment paths .noEntry
  complain invocation (quoteWord command ++ bytes (": " ++ cause.text))
  if cause = .noEntry && command.any isGap then complain invocation (bytes hint)
  pure (if cause = .noEntry then 127 else 126)

/-- Shows the variables, or becomes a program with other ones. -/
def run (invocation : Invocation) (state : Surroundings) (operands : List Bytes) :
    Task UInt8 := do
  let dash := operands.head? = some (bytes "-")
  let state := if dash then { state with fresh := true } else state
  let words := if dash then operands.drop 1 else operands
  let assignments := (words.takeWhile fun word => (assignment? word).isSome).filterMap assignment?
  let environment := state.environment invocation.environment assignments
  let badName := state.dropped.find? fun name => name.isEmpty || name.contains 61
  match badName.filter fun _ => !state.fresh with
  | some name =>
    complain invocation (bytes "cannot unset " ++ quoteWord name ++
      bytes (": " ++ Errno.invalid.text))
    pure failure
  | none =>
    state.tellChanges assignments
    match words.drop assignments.length with
    | [] =>
      if state.directory.isSome then
        misuse invocation (bytes "must specify command with --chdir (-C)") failure
      else output invocation (listing environment (if state.zero then 0 else 10)) 0 failure
    | command :: arguments =>
      if state.zero then
        misuse invocation (bytes "cannot specify --null (-0) with command") failure
      else
        if let some number ← state.setSignals then
          complain invocation (bytes "failed to set signal action for signal " ++ digits number ++
            bytes (": " ++ Errno.invalid.text))
          return failure
        if let some directory := state.directory then
          state.tell (bytes "chdir:    " ++ quoteName directory)
          if let .error cause ← Task.request (.enter directory) then
            complain invocation (bytes "cannot change directory to " ++ quoteName directory ++
              bytes (": " ++ cause.text))
            return failure
        state.start invocation environment command arguments

end Surroundings

/-- Shows the variables, or runs a program with other ones. -/
def env : Work := fun invocation =>
  let usage : Usage Surroundings := {
    switches := Surroundings.switches, mixed := false, take := Surroundings.take
    code := Surroundings.failure }
  let length := invocation.arguments.foldl (fun sum argument => sum + argument.length + 1) 1
  match Surroundings.splitArguments invocation.environment length {} invocation.arguments with
  | .error refusal => refuse invocation refusal Surroundings.failure
  | .ok (state, arguments) =>
    Usage.work usage state Surroundings.run { invocation with arguments }

/-- Shows the values of variables. -/
def printenv : Work :=
  let switches :=
    Usage.plainSwitches [("0", "null"), ("i", "")] ++ [{ key := "u", demand := .value }]
  Usage.work { switches, mixed := false, take := Usage.remember, code := 2 } []
      fun invocation given names =>
    -- These letters are known, but nothing can be asked for with them.
    if gave given "i" || gave given "u" then adviseHelp invocation 2 else
    let ending : UInt8 := if gave given "0" then 0 else 10
    if names.isEmpty then output invocation (listing invocation.environment ending) 0 2
    else
      let found := (names.filter fun name => !name.contains 61).filterMap fun name =>
        invocation.environment.lookup name
      let code : UInt8 := if found.length < names.length then 1 else 0
      output invocation (found.flatMap (· ++ [ending])) code 2

end LineShell.Programs
