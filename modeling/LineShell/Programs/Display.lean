import LineShell.Programs.Format
import LineShell.Programs.Usage

/-! Programs that show their arguments. -/

namespace LineShell.Programs

/-- The output of its arguments. -/
def echo : Work := fun invocation =>
  let (flags, words) := options invocation.arguments
  let text := joinWords words
  let shown : Unescaped := if flags.contains 101
    then unescape { hexadecimal := true, zero := true, stops := true } text
    else { text }
  output invocation (if flags.contains 110 || shown.ended = some .stop then shown.text
    else shown.text ++ [10]) 0
where
  /-- The letters of the options at the start, and the words behind them. A later choice about
  escapes takes the place of an earlier one. -/
  options : List Bytes → Bytes × List Bytes
    | [] => ([], [])
    | argument :: rest =>
      match argument with
      | 45 :: letter :: letters =>
        if (letter :: letters).all (bytes "neE").contains then
          let (flags, words) := options rest
          let chosen := (letter :: letters).foldl (fun flags letter =>
            if letter = 69 then flags.filter (· ≠ 101) else letter :: flags) []
          (chosen ++ flags, words)
        else ([], argument :: rest)
      | _ => ([], argument :: rest)

/-- How a fault of a format is shown by a program. -/
def Format.Fault.describe : Format.Fault → Bytes
  | .noNumber argument => quoteWord argument ++ bytes ": expected a numeric value"
  | .partlyNumber argument => quoteWord argument ++ bytes ": value not completely converted"
  | .outOfRange argument => quoteWord argument ++ bytes ": Numerical result out of range"
  | .ignored rest =>
    bytes "warning: " ++ rest ++
      bytes ": character(s) following character constant have been ignored"
  | .unknownDirective directive => directive ++ bytes ": invalid conversion specification"
  | .noDirective => []
  | .noDigits => bytes "missing hexadecimal number in escape"
  | .noCharacter text => bytes "invalid universal character name " ++ text
  | .badWidth argument => bytes "invalid field width: " ++ quoteWord argument
  | .badPrecision argument => bytes "invalid precision: " ++ quoteWord argument
  | .excess argument =>
    bytes "warning: ignoring excess arguments, starting with " ++ quoteWord argument

/-- Shows its arguments in a format. -/
def printf : Work := fun invocation => do
  let arguments := if invocation.arguments.head? = some (bytes "--")
    then invocation.arguments.drop 1 else invocation.arguments
  match arguments with
  | [] => misuse invocation (bytes "missing operand") 1
  | format :: arguments =>
    let rendered := Format.render .program format arguments
    rendered.faults.forM fun fault => complain invocation fault.describe
    output invocation rendered.output (if rendered.faults.all (·.isHarmless) then 0 else 1)

/-- One line again and again. -/
def yes : Work := Usage.work { take := Usage.remember } [] fun invocation _ operands => do
  let words := if operands.isEmpty then [bytes "y"] else operands
  let line := joinWords words ++ [10]
  -- Whole lines fill a block as far as they fit.
  let block := (List.replicate (max 1 (8192 / line.length)) line).flatten
  Task.iterate () fun () => do
    match ← Task.writeAll 1 block with
    | .ok () => pure (.inl ())
    | .error cause =>
      complain invocation (bytes ("standard output: " ++ cause.text))
      pure (.inr 1)

end LineShell.Programs
