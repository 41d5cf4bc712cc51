import LineShell.Programs.Report
import LineShell.Text.Numeral

/-! Times: a program that sets when files were changed, and makes files that are missing. -/

namespace LineShell.Programs

open Reported (request failWith)

namespace Times

/-- The number of seconds from the beginning of 1970 to the moment at which time begins here. -/
def origin : Int := 1750000000

/-- The number of days from the beginning of 1970 to a day of a month. -/
def daysTo (year month day : Nat) : Int :=
  -- A year that begins in March has its additional day at its end.
  let year' : Int := if month ≤ 2 then (year : Int) - 1 else year
  let month' := if month ≤ 2 then month + 9 else month - 3
  let days : Int := (153 * month' + 2) / 5 + (day - 1)
  365 * year' + year'.fdiv 4 - year'.fdiv 100 + year'.fdiv 400 + days - 719468

/-- The number of days of a month. -/
def daysIn (year month : Nat) : Nat :=
  if month = 2 then
    (if year % 4 = 0 && (year % 100 ≠ 0 || year % 400 = 0) then 29 else 28)
  else if [4, 6, 9, 11].contains month then 30 else 31

/-- A moment in microseconds, if there is one. -/
def moment? (year month day hour minute second : Nat) : Option Int :=
  if 1 ≤ month && month ≤ 12 && 1 ≤ day && day ≤ daysIn year month && hour < 24 && minute < 60 &&
      second ≤ 60 then
    let seconds := daysTo year month day * 86400 + (hour * 3600 + minute * 60 + second : Nat)
    some ((seconds - origin) * 1000000)
  else none

/-- A number with certain digits. -/
def numberOf? (text : Bytes) (length : Nat) : Option Nat :=
  let figures := Numeral.digitsOf 10 text
  if text.length = length && figures.length = length then some (Numeral.valueOf 10 figures)
  else none

/-- The moment that a stamp stands for: the month, the day, the hour and the minute in two digits
each, perhaps with the year before them and seconds behind a point. -/
def ofStamp? (text : Bytes) : Option Int := do
  let stamp := text.takeWhile (· ≠ 46)
  let rest := text.drop stamp.length
  let second ← match rest with
    | [] => some 0
    | _ :: seconds => numberOf? seconds 2
  let (year, stamp) ← match stamp.length with
    | 8 => some (2025, stamp)
    | 10 => do
      let year ← numberOf? (stamp.take 2) 2
      some (if year < 69 then 2000 + year else 1900 + year, stamp.drop 2)
    | 12 => do some (← numberOf? (stamp.take 4) 4, stamp.drop 4)
    | _ => none
  let month ← numberOf? (stamp.take 2) 2
  let day ← numberOf? ((stamp.drop 2).take 2) 2
  let hour ← numberOf? ((stamp.drop 4).take 2) 2
  let minute ← numberOf? ((stamp.drop 6).take 2) 2
  moment? year month day hour minute second

/-- The moment that a date stands for: seconds behind a sign, or a day and perhaps a time of the
day. -/
def ofDate? (text : Bytes) : Option Int :=
  match text with
  | 64 :: rest =>
    let negative := rest.head? = some 45
    let figures := if negative then rest.drop 1 else rest
    if figures.isEmpty || (Numeral.digitsOf 10 figures).length ≠ figures.length then none
    else
      let seconds : Int := Numeral.valueOf 10 figures
      some (((if negative then -seconds else seconds) - origin) * 1000000)
  | _ => do
    let day := text.takeWhile fun byte => byte ≠ 32 && byte ≠ 84
    let time := (text.drop day.length).drop 1
    let [year, month, day] ← some (splitAt 45 day) | none
    let year ← numberOf? year 4
    let month ← numberOf? month 2
    let day ← numberOf? day 2
    let parts := if time.isEmpty then [] else splitAt 58 time
    let numbers ← parts.mapM fun part => numberOf? part 2
    match numbers with
    | [] => moment? year month day 0 0 0
    | [hour, minute] => moment? year month day hour minute 0
    | [hour, minute, second] => moment? year month day hour minute second
    | _ => none

end Times

/-- How the times of files are set. -/
structure Touching where
  /-- Files that are missing stay so. -/
  modest : Bool := false
  /-- Links are not followed. -/
  literal : Bool := false
  /-- Only the time of the last access is meant. -/
  access : Bool := false
  change : Bool := false
  /-- The time to be set that a stamp tells. -/
  time : Option Int := none
  /-- A date that tells the time to be set. -/
  date : Option Bytes := none
  /-- The file whose time is set. -/
  model : Option Bytes := none
  deriving DecidableEq, Repr, Inhabited

namespace Touching

/-- The switches of setting times. -/
def switches : List Switch :=
  Usage.plainSwitches [("a", ""), ("c", "no-create"), ("f", ""), ("h", "no-dereference"),
    ("m", "")] ++ [
    { key := "d", word := "date", demand := .value },
    { key := "r", word := "reference", demand := .value }, { key := "t", demand := .value },
    { key := "time", word := "time", demand := .value }]

/-- The words for the two times of a file; true for that of the last access. -/
def timeNames : List (String × Bool) :=
  [("atime", true), ("access", true), ("use", true), ("mtime", false), ("modify", false)]

/-- What is said about a text that is no date. -/
def wrongDate (text : Bytes) : Refusal :=
  { message := bytes "invalid date format " ++ quoteWord text }

/-- What a switch changes. -/
def take (touching : Touching) (given : Given) : Except Refusal Touching :=
  let value := given.value.getD []
  match given.key with
  | "a" => .ok { touching with access := true }
  | "c" => .ok { touching with modest := true }
  | "h" => .ok { touching with literal := true }
  | "m" => .ok { touching with change := true }
  | "r" => .ok { touching with model := some value }
  | "t" =>
    match Times.ofStamp? value with
    | some time => .ok { touching with time := some time }
    | none => .error (wrongDate value)
  | "d" => .ok { touching with date := some value }
  | "time" => do
    if ← Usage.choose "--time" timeNames value then .ok { touching with access := true }
    else .ok { touching with change := true }
  | _ => .ok touching

/-- Sets the time of a file. -/
def touch (touching : Touching) (invocation : Invocation) (time : Option Int) (path : Bytes) :
    Reported Unit := do
  if path = bytes "-" then return
  -- A named pipe would have to wait for others.
  let isPipe := match ← request (.examine path true) with
    | .ok facts => (facts.file.node matches .fifo _ : Bool)
    | .error _ => false
  let opened ← if touching.modest || touching.literal || isPipe then pure none
    else match ← request (.openFile path { writes := true, creates := true } 0o666) with
      | .ok descriptor => do
        discard (request (.close descriptor))
        pure none
      | .error cause => pure (some cause)
  let setsChange := touching.change || !touching.access
  -- One time alone can be set only by the owner.
  let facts ← request (.examine path !touching.literal)
  let isForeign := touching.change ≠ touching.access && facts.toOption.any fun facts =>
    !facts.file.own
  let result ← if isForeign then pure (.error .notPermitted)
    else if setsChange then request (.changeTime path time !touching.literal)
    else pure (facts.map fun _ => ())
  match result with
  | .ok () => pure ()
  | .error cause =>
    let isDirectory := match ← request (.examine path true) with
      | .ok facts => facts.file.node.isDirectory
      | .error _ => false
    match opened.filter fun cause => cause ≠ .isDirectory && !isDirectory with
    | some cause => failWith invocation "cannot touch" path cause
    | none =>
      unless touching.modest && cause = .noEntry do
        failWith invocation "setting times of" path cause

/-- Sets the times of files. -/
def run (invocation : Invocation) (touching : Touching) (operands : List Bytes) : Task UInt8 := do
  if touching.time.isSome && (touching.model.isSome || touching.date.isSome) then
    return ← misuse invocation (bytes "cannot specify times from more than one source") 1
  let ofModel ← match touching.model with
    | none => pure touching.time
    | some path =>
      match ← Task.request (.examine path !touching.literal) with
      | .ok facts => pure (some facts.file.modified)
      | .error cause =>
        complain invocation (bytes "failed to get attributes of " ++ quoteName path ++
          bytes (": " ++ cause.text))
        return 1
  let time ← match touching.date with
    | none => pure ofModel
    | some text =>
      match Times.ofDate? text with
      | some time => pure (some time)
      | none => return ← refuse invocation (wrongDate text) 1
  if operands.isEmpty then misuse invocation (bytes "missing file operand") 1
  else Reported.finish invocation (operands.forM (touching.touch invocation time))

end Touching

/-- Sets the times of files, and makes files that are missing. -/
def touch : Work :=
  Usage.work { switches := Touching.switches, take := Touching.take } {} Touching.run

end LineShell.Programs
