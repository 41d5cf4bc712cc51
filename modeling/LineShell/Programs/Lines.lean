import LineShell.Programs.Streams
import LineShell.Text.Numeral

/-! Lines: programs that compare each line with the one before it, or turn lines around. -/

namespace LineShell.Programs

/-- Whether and where an empty line stands between groups of equal lines. -/
inductive Gaps
  | none
  | before
  | between
  | after
  | around
  deriving DecidableEq, Repr, Inhabited

/-- How a program deals with equal lines that follow each other. -/
structure Repeats where
  counts : Bool := false
  /-- Lines that are not repeated are shown. -/
  single : Bool := true
  /-- The first of several equal lines is shown. -/
  first : Bool := true
  /-- The other ones are shown as well. -/
  others : Bool := false
  gaps : Gaps := .none
  /-- All lines are shown, in groups. -/
  groups : Bool := false
  anyCase : Bool := false
  skippedFields : Nat := 0
  skippedBytes : Nat := 0
  /-- No more bytes than this are compared. -/
  compared : Option Nat := none
  ending : UInt8 := 10
  /-- One of the switches about what is shown has been given. -/
  chosen : Bool := false
  /-- The last number of fields has been given by digits alone. -/
  byDigits : Bool := false
  deriving DecidableEq, Repr, Inhabited

namespace Repeats

/-- The switches about repeated lines. -/
def switches : List Switch :=
  Usage.plainSwitches [("c", "count"), ("d", "repeated"), ("D", ""), ("i", "ignore-case"),
    ("u", "unique"), ("z", "zero-terminated")] ++ [
    { key := "all-repeated", word := "all-repeated", demand := .optional },
    { key := "group", word := "group", demand := .optional },
    { key := "f", word := "skip-fields", demand := .value },
    { key := "s", word := "skip-chars", demand := .value },
    { key := "w", word := "check-chars", demand := .value }] ++
  "0123456789".toList.map fun digit => { key := String.ofList [digit] }

/-- The places of empty lines, by name. -/
def gapNames : List (String × Gaps) :=
  [("prepend", .before), ("append", .after), ("separate", .between), ("both", .around)]

/-- The number that is the value of a switch. -/
def numberFor (what : String) (given : Given) : Except Refusal Nat :=
  let value := given.value.getD []
  let text := match value.dropWhile isGap with
    | 43 :: rest => rest
    | rest => rest
  let figures := Numeral.digitsOf 10 text
  if figures.isEmpty || figures.length ≠ text.length then
    .error { message := value ++ bytes (": invalid number of " ++ what) }
  else .ok (Numeral.valueOf 10 figures)

/-- What a switch changes. -/
def take (repeats : Repeats) (given : Given) : Except Refusal Repeats :=
  match given.key with
  | "c" => .ok { repeats with counts := true, chosen := true }
  | "d" => .ok { repeats with single := false, chosen := true }
  | "D" => .ok { repeats with single := false, others := true, gaps := .none, chosen := true }
  | "u" => .ok { repeats with first := false, chosen := true }
  | "i" => .ok { repeats with anyCase := true }
  | "z" => .ok { repeats with ending := 0 }
  | "all-repeated" => do
    let known := [("none", Gaps.none), ("prepend", .before), ("separate", .between)]
    let gaps ← match given.value with
      | some value => Usage.choose "--all-repeated" known value
      | none => pure .none
    pure { repeats with single := false, others := true, gaps, chosen := true }
  | "group" => do
    let gaps ← match given.value with
      | some value => Usage.choose "--group" gapNames value
      | none => pure .between
    pure { repeats with groups := true, gaps }
  | "f" => do
    pure { repeats with skippedFields := ← numberFor "fields to skip" given, byDigits := false }
  | "s" => do pure { repeats with skippedBytes := ← numberFor "bytes to skip" given }
  | "w" => do pure { repeats with compared := some (← numberFor "bytes to compare" given) }
  | digit =>
    let before := if repeats.byDigits then repeats.skippedFields else 0
    .ok { repeats with
      skippedFields := before * 10 + Numeral.valueOf 10 (bytes digit), byDigits := true }

/-- What is wrong with the switches taken together. -/
def conflict? (repeats : Repeats) : Option String :=
  if repeats.groups && repeats.chosen then some "--group is mutually exclusive with -c/-d/-D/-u"
  else if repeats.counts && repeats.others then
    some "printing all duplicated lines and repeat counts is meaningless"
  else none

/-- A line without some fields, each with the blanks before it. -/
def withoutFields : Nat → Bytes → Bytes
  | 0, line => line
  | count + 1, line =>
    let isBlank := fun (byte : UInt8) => byte = 32 || byte = 9 || byte = 10
    withoutFields count ((line.dropWhile isBlank).dropWhile fun byte => !isBlank byte)

/-- The part of a line that is compared. -/
def key (repeats : Repeats) (line : Bytes) : Bytes :=
  let rest := (withoutFields (min repeats.skippedFields (line.length + 1)) line).drop
    repeats.skippedBytes
  let part := rest.take (repeats.compared.getD rest.length)
  if repeats.anyCase then part.map fun byte => if 97 ≤ byte && byte ≤ 122 then byte - 32 else byte
  else part

/-- The lines in groups of equal ones that follow each other. -/
def groupsOf (repeats : Repeats) (lines : List Bytes) : List (List Bytes) :=
  lines.foldr (fun line groups =>
    match groups with
    | (next :: group) :: rest =>
      if repeats.key line = repeats.key next then (line :: next :: group) :: rest
      else [line] :: groups
    | _ => [line] :: groups) []

/-- The groups of equal lines with empty lines at their places. -/
def spread (gaps : Gaps) (groups : List (List Bytes)) : List Bytes :=
  match gaps with
  | .none => groups.flatten
  | .before => groups.flatMap ([] :: ·)
  | .between => (groups.intersperse [[]]).flatten
  | .after => groups.flatMap (· ++ [[]])
  | .around => if groups.isEmpty then [] else [] :: groups.flatMap (· ++ [[]])

/-- The lines of a group that are shown. -/
def shown (repeats : Repeats) (group : List Bytes) : List Bytes :=
  let count := group.length
  let number : Bytes :=
    if repeats.counts then
      let figures := digits count
      List.replicate (7 - figures.length) 32 ++ figures ++ [32]
    else []
  if count = 1 then (if repeats.single then group.map (number ++ ·) else [])
  else if repeats.others then
    -- Without the first, the last one of the group is missing.
    if repeats.first then group else group.dropLast
  else if repeats.first then (group.take 1).map (number ++ ·)
  else []

/-- What is shown of some lines. -/
def apply (repeats : Repeats) (lines : List Bytes) : List Bytes :=
  let groups := repeats.groupsOf lines
  if repeats.groups then spread repeats.gaps groups
  else if repeats.others && repeats.gaps ≠ .none then
    spread repeats.gaps ((groups.map repeats.shown).filter (!·.isEmpty))
  else (groups.map repeats.shown).flatten

/-- Shows the lines of an input without repeated ones. -/
def run (invocation : Invocation) (repeats : Repeats) (operands : List Bytes) : Task UInt8 := do
  -- An operand behind a plus sign may be a number of bytes.
  let number? := fun (operand : Bytes) =>
    let figures := Numeral.digitsOf 10 (operand.drop 1)
    if operand.head? = some 43 && !figures.isEmpty && figures.length + 1 = operand.length then
      some (Numeral.valueOf 10 figures)
    else none
  let repeats := match operands.filterMap number? |>.getLast? with
    | some count => { repeats with skippedBytes := count }
    | none => repeats
  let operands := operands.filter fun operand => (number? operand).isNone
  if let extra :: _ := operands.drop 2 then
    return ← misuse invocation (bytes "extra operand " ++ quoteWord extra) 1
  if let some message := repeats.conflict? then
    return ← misuse invocation (bytes message) 1
  let source := operands.headD (bytes "-")
  let failed := fun (path : Bytes) (cause : Errno) => do
    complain invocation (mention path ++ bytes (": " ++ cause.text))
    pure (1 : UInt8)
  withInput source (failed source) fun descriptor => do
    let write ← match operands[1]? with
      | none => pure (Except.ok 1)
      | some target =>
        if target = bytes "-" then pure (.ok 1)
        else match ← Task.request (.openFile target .replacing 0o666) with
          | .ok written => pure (.ok written)
          | .error cause => pure (.error (← failed target cause))
    match write with
    | .error code => pure code
    | .ok written =>
      match ← Task.readAll descriptor with
      | .error _ =>
        complain invocation (bytes "error reading " ++ quoteName source)
        pure 1
      | .ok data =>
        if written ≠ 1 then discard (Task.request (.duplicate written 1))
        output invocation
          (joinLines (repeats.apply (linesOf repeats.ending data)) repeats.ending) 0

end Repeats

/-- The input without repeated lines. -/
def uniq : Work := Usage.work { switches := Repeats.switches, take := Repeats.take } {} Repeats.run

/-- How contents are cut into records that change their order. -/
structure Records where
  separator : Bytes := [10]
  /-- A separator belongs to the record behind it. -/
  leads : Bool := false
  deriving DecidableEq, Repr, Inhabited

namespace Records

/-- The switches about records. -/
def switches : List Switch := [
  { key := "b", word := "before" }, { key := "r", word := "regex" },
  { key := "s", word := "separator", demand := .value }]

/-- What a switch changes. -/
def take (records : Records) (given : Given) : Except Refusal Records :=
  .ok (match given.key with
  | "b" => { records with leads := true }
  | "s" =>
    let separator := given.value.getD []
    { records with separator := if separator.isEmpty then [0] else separator }
  | _ => records)

/-- Cuts bytes in reverse order behind each occurrence of a reversed separator, in so many steps at
most; the bytes of the current record come first. -/
def cut (separator : Bytes) : Nat → Bytes → Bytes → List Bytes
  | 0, record, _ | _, record, [] => [record]
  | bound + 1, record, byte :: rest =>
    if separator.isPrefixOf (byte :: rest) then
      record :: cut separator bound separator.reverse ((byte :: rest).drop separator.length)
    else cut separator bound (byte :: record) rest

/-- The records of some contents, the last first. -/
def reversed (records : Records) (data : Bytes) : Bytes :=
  let pieces := cut records.separator.reverse (data.length + 1) [] data.reverse
  if records.leads then
    -- Each piece but for the last ends in the separator that leads the one before it.
    let bodies := pieces.zipIdx.map fun (piece, place) =>
      if place = 0 then piece else piece.take (piece.length - records.separator.length)
    let count := bodies.length
    (bodies.zipIdx.map fun (body, place) =>
      if place + 1 = count then body else records.separator ++ body).flatten
  else pieces.flatten

/-- Writes the records of each file, the last first. -/
def run (invocation : Invocation) (records : Records) (operands : List Bytes) : Task UInt8 := do
  let (code, parts) ← (inputs operands).foldlM (fun (code, parts) path => do
    let name := titleOf path
    let failed := fun (cause : Errno) => do
      complain invocation (bytes "failed to open " ++ quoteName name ++
        bytes (" for reading: " ++ cause.text))
      pure ((1 : UInt8), (parts : List Bytes))
    withInput path failed fun descriptor => do
      let isDirectory := match ← factsBehind descriptor with
        | some facts => facts.file.node.isDirectory
        | none => false
      discard (Task.request (.seek descriptor .start 0))
      let result ← if isDirectory then pure (.error .invalid) else Task.readAll descriptor
      match result with
      | .ok data => pure (code, records.reversed data :: parts)
      | .error cause =>
        complain invocation (mention name ++ bytes (": read error: " ++ cause.text))
        pure (1, parts)) ((0 : UInt8), ([] : List Bytes))
  let code ← endInput invocation operands "-" code 1
  let text := parts.reverse.flatten
  if text.length < bufferLength then output invocation text code
  else match ← Task.writeAll 1 text with
    | .ok () => pure code
    | .error _ => lostOutput invocation

end Records

/-- The lines of each file, the last first. -/
def tac : Work := Usage.work { switches := Records.switches, take := Records.take } {} Records.run

/-- The lines of each file, each from its end to its start. -/
def rev : Work := Usage.work { take := Usage.remember } [] fun invocation _ operands =>
  -- A dash is a file like any other one.
  let paths := if operands.isEmpty then [bytes "-"] else operands.map fun path =>
    if path = bytes "-" then bytes "./-" else path
  forAll paths fun path => do
    let failed := fun (reason : String) (cause : Errno) => do
      let name := if path = bytes "./-" && operands.contains (bytes "-") then bytes "-"
        else titleOf path
      complain invocation (bytes reason ++ name ++ bytes (": " ++ cause.text))
      pure (1 : UInt8)
    withInput path (failed "cannot open ") fun descriptor => do
      match ← Task.readAll descriptor with
      | .error cause => failed "" cause
      | .ok data =>
        let lines := (linesOf 10 data).map List.reverse
        let text := joinLines lines
        output invocation (if data.getLast? = some 10 then text else text.dropLast) 0

end LineShell.Programs
