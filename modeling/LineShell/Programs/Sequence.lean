import LineShell.Programs.Format
import LineShell.Programs.Usage

/-! Sequences: a program that counts from one number to another. -/

namespace LineShell.Programs

/-- A number in an argument, with how it is written. -/
structure Figure where
  value : Floating
  /-- How many places it takes. -/
  width : Int
  /-- How many decimal places it has; nothing if they cannot be told. -/
  places : Option Nat
  deriving DecidableEq, Repr, Inhabited

/-- How numbers of a sequence are written: a directive, with some text around it. -/
structure Numbering where
  before : Bytes := []
  directive : Format.Directive
  after : Bytes := []
  deriving DecidableEq, Repr, Inhabited

/-- What is asked for by the switches of a sequence. -/
structure Sequence where
  format : Option Bytes := none
  separator : Bytes := [10]
  /-- Zeros make all numbers equally wide. -/
  equal : Bool := false
  deriving DecidableEq, Repr, Inhabited

namespace Figure

/-- The number one. -/
def one : Figure :=
  { value := .finite false 1 0, width := 1, places := some 0 }

/-- Whether a number is finite. -/
def isFinite (figure : Figure) : Bool :=
  figure.value matches .finite ..

/-- The width and the decimal places of a text with a power of ten behind a mark, from those
without it. -/
def scaled (width : Int) (places behind : Nat) (number power : Bytes) : Int × Nat :=
  let figures := Numeral.digitsOf 10 (power.drop (if power.head? = some 45 ||
    power.head? = some 43 then 1 else 0))
  let amount := min (Numeral.valueOf 10 figures) 100000
  let hasPoint := number.contains 46
  let width := width - (power.length + 1 : Nat)
  if power.head? = some 45 && amount ≠ 0 then
    let width := if hasPoint && number.getLast? ≠ some 46 then width else width + 1
    (width + amount, places + amount)
  else
    let places := places - min places amount
    let width := if hasPoint && places = 0 && behind ≠ 0 then width - 1 else width
    (width + (amount - min behind amount : Nat), places)

/-- The number that an argument stands for. -/
def ofText (text : Bytes) : Except Refusal Figure :=
  let shown := text.dropWhile fun byte => isGap byte || byte = 43
  let isSpelled := match shown with
    | 45 :: rest => Floating.startsWith "inf" rest
    | rest => Floating.startsWith "inf" rest
  let wrong : Refusal := {
    message := bytes "invalid floating point argument: " ++ quoteWord text, helps := true }
  match Floating.read? Floating.extended text with
  | none => .error wrong
  | some (value, length) =>
    if length ≠ text.length then .error wrong
    else match value with
      | .undefined _ => .error {
          message := bytes "invalid 'not-a-number' argument: " ++ quoteWord text, helps := true }
      | .infinite _ =>
        if isSpelled then .ok { value, width := 0, places := some 0 } else .error wrong
      | .finite .. =>
        let isHexadecimal := shown.any fun byte => byte = 120 || byte = 88
        let isWhole := !shown.contains 46 && !shown.contains 112
        if isHexadecimal then
          .ok { value, width := 0, places := if isWhole then some 0 else none }
        else
          let isMark := fun (byte : UInt8) => byte = 101 || byte = 69
          let number := shown.takeWhile fun byte => !isMark byte
          let before := number.takeWhile (· != 46)
          let behind := number.length - before.length - 1
          let width : Int := if before.length = number.length then shown.length
            else if behind = 0 then shown.length - 1
            else if (before.getLast?.bind Numeral.digit?).isSome then shown.length
            else shown.length + 1
          if number.length = shown.length then .ok { value, width, places := some behind }
          else
            let (width, places) :=
              scaled width behind behind number (shown.drop (number.length + 1))
            .ok { value, width, places := some places }

end Figure

namespace Numbering

/-- A directive for numbers with so many places. -/
def fixed (width places : Nat) : Numbering :=
  { directive := { flags := [48], width, precision := some places, kind := 102, text := [] } }

/-- The way to write numbers that does not depend on how others are written. -/
def general : Numbering :=
  { directive := { flags := [], width := 0, precision := none, kind := 103, text := [] } }

/-- Some text around a directive, and what comes after it: up to a percent sign that is not
doubled. -/
def literal : Bytes → Bytes × Bytes
  | 37 :: 37 :: rest =>
    let (text, rest) := literal rest
    (37 :: text, rest)
  | 37 :: rest => ([], 37 :: rest)
  | byte :: rest =>
    let (text, rest) := literal rest
    (byte :: text, rest)
  | [] => ([], [])

/-- The way to write numbers that a format describes. -/
def ofFormat (format : Bytes) : Except Refusal Numbering :=
  let refusal := fun (text : Bytes) => (.error {
    message := bytes "format " ++ quoteWord format ++ text } : Except Refusal Numbering)
  let (before, rest) := literal format
  match rest with
  | [] => refusal (bytes " has no % directive")
  | _ :: rest =>
    let flags := rest.takeWhile (bytes "-+#0 '").contains
    let rest := rest.drop flags.length
    let width := Numeral.digitsOf 10 rest
    let rest := rest.drop width.length
    let (precision, rest) := match rest with
      | 46 :: rest =>
        let places := Numeral.digitsOf 10 rest
        (some (Numeral.valueOf 10 places), rest.drop places.length)
      | _ => (none, rest)
    let rest := if rest.head? = some 76 then rest.drop 1 else rest
    match rest with
    | [] => refusal (bytes " ends in %")
    | kind :: rest =>
      if !(bytes "efgaEFGA").contains kind then
        refusal (bytes " has unknown %" ++ [kind] ++ bytes " directive")
      else
        let (after, rest) := literal rest
        if !rest.isEmpty then refusal (bytes " has too many % directives")
        else
          let directive := { flags, width := Numeral.valueOf 10 width, precision, kind, text := [] }
          .ok { before, directive, after }

/-- The way to write the numbers of a sequence if nothing is said about it. -/
def ofFigures (equal : Bool) (first step last : Figure) : Numbering :=
  match first.places, step.places, last.places with
  | some own, some more, some target =>
    let places := max own more
    if !equal then fixed 0 places
    else
      let start := first.width + (places - own : Nat) +
        (if own = 0 && places ≠ 0 then 1 else 0)
      let ending := last.width + ((places : Int) - target) -
        (if target ≠ 0 && places = 0 then 1 else 0) + (if target = 0 && places ≠ 0 then 1 else 0)
      fixed (max start ending).toNat places
  | _, _, _ => general

/-- A number without the text around it. -/
def core (numbering : Numbering) (value : Floating) : Bytes :=
  numbering.directive.showFloating .program value

/-- A number as it is written. -/
def show_ (numbering : Numbering) (value : Floating) : Bytes :=
  numbering.before ++ numbering.core value ++ numbering.after

end Numbering

namespace Sequence

/-- The largest step with which whole numbers are counted exactly. -/
def longestStep : Nat := 200

/-- How far a count has come. -/
inductive Stage
  /-- Whole numbers up to a last one, or without end. -/
  | whole (number step : Nat) (last : Option Nat)
  /-- A number, how many steps have been made, and whether it is beyond the last one. -/
  | floating (number : Floating) (steps : Nat) (beyond : Bool)
  deriving Repr, Inhabited

/-- What a count is about. -/
structure Course where
  numbering : Numbering
  separator : Bytes
  first : Floating
  step : Floating
  last : Floating
  deriving Repr, Inhabited

namespace Course

/-- Whether a number is not reached any more. -/
def isBeyond (course : Course) (number : Floating) : Bool :=
  if course.step.less (.finite false 0 0) then number.less course.last
  else course.last.less number

/-- Whether a number just beyond the last one is written as the last one, and not as the number
before it. -/
def isRoundedBack (course : Course) (before number : Floating) : Bool :=
  let text := course.numbering.core number
  match Floating.read? Floating.extended text with
  | none => false
  | some (value, length) =>
    length = text.length && value.compare? course.last = some .eq &&
      course.numbering.core before ≠ text

/-- What is written in one step of a count, and how it goes on. -/
def advance (course : Course) : Stage → Bytes × Option Stage
  | .whole number step last =>
    let next := number + step
    if last.any (· < next) then (digits number ++ [10], none)
    else (digits number ++ course.separator, some (.whole next step last))
  | .floating number steps beyond =>
    let text := course.numbering.show_ number
    let size := Floating.extended
    let next := course.first.add size
      ((Floating.ofScaled size (steps + 1 : Nat) 0).multiply size course.step)
    if beyond then (text ++ [10], none)
    else
      let passes := course.isBeyond next
      if passes && !course.isRoundedBack number next then (text ++ [10], none)
      else (text ++ course.separator, some (.floating next (steps + 1) passes))

/-- What is written in some steps of a count, the last first, and how it goes on. -/
def advanceBy (course : Course) : Nat → List Bytes → Stage → List Bytes × Option Stage
  | 0, parts, stage => (parts, some stage)
  | count + 1, parts, stage =>
    match course.advance stage with
    | (part, none) => (part :: parts, none)
    | (part, some stage) => course.advanceBy count (part :: parts) stage

/-- Writes the numbers of a count, block by block. -/
def write (course : Course) (invocation : Invocation) (stage : Stage) : Task UInt8 :=
  Task.iterate stage fun stage => do
    let (parts, next) := course.advanceBy 500 [] stage
    match ← Task.writeAll 1 parts.reverse.flatten with
    | .error cause =>
      complain invocation (bytes ("write error: " ++ cause.text))
      pure (.inr 1)
    | .ok () =>
      match next with
      | some stage => pure (.inl stage)
      | none => pure (.inr 0)

end Course

/-- The switches of a sequence. -/
def switches : List Switch := [
  { key := "f", word := "format", demand := .value },
  { key := "s", word := "separator", demand := .value }, { key := "w", word := "equal-width" }]

/-- What a switch changes. -/
def take (sequence : Sequence) (given : Given) : Except Refusal Sequence :=
  .ok (match given.key with
  | "f" => { sequence with format := given.value }
  | "s" => { sequence with separator := given.value.getD [] }
  | _ => { sequence with equal := true })

/-- Whether an argument begins like a negative number. -/
def isNegative : Bytes → Bool
  | 45 :: second :: _ => second = 46 || (48 ≤ second && second ≤ 57)
  | _ => false

/-- The arguments with a double dash before a negative number in the place of a switch. -/
def protect : List Bytes → List Bytes
  | [] => []
  | argument :: rest =>
    if isNegative argument then bytes "--" :: argument :: rest
    else if argument = bytes "--" || argument.length < 2 || argument.head? ≠ some 45 then
      argument :: rest
    else
      let wantsValue := match (Usage.read switches false [argument]).fault with
        | some (.noValue _) | some (.noValueOfWord _) => true
        | _ => false
      match rest with
      | [] => [argument]
      | value :: others =>
        if wantsValue then argument :: value :: protect others
        else argument :: protect (value :: others)

/-- The whole number that an argument of digits stands for. -/
def whole? (text : Bytes) : Option Nat :=
  let figures := Numeral.digitsOf 10 text
  if text.isEmpty || figures.length ≠ text.length then none else some (Numeral.valueOf 10 figures)

/-- The count of whole numbers, if the operands ask for one that can be made exactly. -/
def exactly? (sequence : Sequence) (operands : List Bytes) : Option Stage :=
  if sequence.equal || sequence.format.isSome || sequence.separator.length ≠ 1 then none
  else do
    let numbers ← operands.mapM whole?
    let (first, step, last) ← match numbers with
      | [last] => some (1, 1, last)
      | [first, last] => some (first, 1, last)
      | [first, step, last] => some (first, step, last)
      | _ => none
    if 0 < step && step ≤ longestStep && first ≤ last then some (.whole first step (some last))
    else none

/-- The whole number that a figure stands for, if it has no decimal places and no minus sign. -/
def Figure.whole? (figure : Figure) : Option Nat :=
  match figure.value, figure.places with
  | .finite negative mantissa exponent, some 0 =>
    let (numerator, denominator) := Floating.quotient mantissa exponent
    if negative then none else some (numerator / denominator)
  | _, _ => none

/-- The count between figures. -/
def stageOf (sequence : Sequence) (first step last : Figure) : Stage :=
  let isPlain := !sequence.equal && sequence.format.isNone && sequence.separator.length = 1
  let general : Stage := .floating first.value 0 false
  match Figure.whole? first, Figure.whole? step with
  | some number, some pace =>
    if !isPlain || pace = 0 || pace > longestStep then general
    else match last.value, Figure.whole? last with
      | .infinite false, _ => .whole number pace none
      | _, some ending => if number ≤ ending then .whole number pace (some ending) else general
      | _, none => general
  | _, _ => general

/-- The figures of the operands: the first, the step and the last. -/
def figures : List Bytes → Except Refusal (Figure × Figure × Figure)
  | [last] => do pure (.one, .one, ← Figure.ofText last)
  | [first, last] => do pure (← Figure.ofText first, .one, ← Figure.ofText last)
  | first :: step :: last :: _ => do
    let first ← Figure.ofText first
    let pace ← Figure.ofText step
    if pace.value matches .finite _ 0 _ then
      .error { message := bytes "invalid Zero increment value: " ++ quoteWord step, helps := true }
    else pure (first, pace, ← Figure.ofText last)
  | [] => .error { message := bytes "missing operand", helps := true }

/-- Counts from one number to another. -/
def run (invocation : Invocation) (sequence : Sequence) (operands : List Bytes) : Task UInt8 := do
  if let extra :: _ := operands.drop 3 then
    return ← misuse invocation (bytes "extra operand " ++ quoteWord extra) 1
  if operands.isEmpty then return ← misuse invocation (bytes "missing operand") 1
  match sequence.format.mapM Numbering.ofFormat with
  | .error refusal => refuse invocation refusal 1
  | .ok format =>
    if format.isSome && sequence.equal then
      misuse invocation
        (bytes "format string may not be specified when printing equal width strings") 1
    else
      let course : Course := {
        numbering := format.getD .general, separator := sequence.separator
        first := .undefined false, step := .undefined false, last := .undefined false }
      match sequence.exactly? operands with
      | some stage => course.write invocation stage
      | none =>
        match figures operands with
        | .error refusal => refuse invocation refusal 1
        | .ok (first, step, last) =>
          let numbering := format.getD (.ofFigures sequence.equal first step last)
          let course := { course with
            numbering, first := first.value, step := step.value, last := last.value }
          if course.isBeyond first.value then pure 0
          else course.write invocation (sequence.stageOf first step last)

end Sequence

/-- The numbers from one to another. -/
def seq : Work := fun invocation =>
  let usage : Usage Sequence := {
    switches := Sequence.switches, mixed := false, take := Sequence.take }
  Usage.work usage {} Sequence.run
    { invocation with arguments := Sequence.protect invocation.arguments }

end LineShell.Programs
