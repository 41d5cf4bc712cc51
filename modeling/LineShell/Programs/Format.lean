import LineShell.Programs.Naming
import LineShell.Text.Floating

/-! Formats: texts with directives for the arguments that go into them, and escapes. -/

namespace LineShell.Programs

/-- Whether a byte is an octal digit. -/
def isOctal (byte : UInt8) : Bool :=
  48 ≤ byte && byte ≤ 55

/-- The byte that octal digits stand for. -/
def octalByte (digits : Bytes) : UInt8 :=
  UInt8.ofNat (Numeral.valueOf 8 digits)

/-- The letters behind a backslash and the bytes they stand for. -/
def escapes : List (UInt8 × UInt8) :=
  [(97, 7), (98, 8), (101, 27), (102, 12), (110, 10), (114, 13), (116, 9), (118, 11), (92, 92)]

/-- What an escape stands for. -/
inductive Escape
  /-- Some bytes, and the number of bytes of the escape. -/
  | text (value : Bytes) (length : Nat)
  /-- Ends the output. -/
  | stop
  /-- Digits are missing. -/
  | noDigits
  /-- There is no such character. -/
  | noCharacter (text : Bytes)
  | none
  deriving DecidableEq, Repr, Inhabited

/-- Which escapes are known. -/
structure Escape.Rules where
  /-- A byte can be given by hexadecimal digits. -/
  hexadecimal : Bool := false
  /-- Characters by number, and double quotes; digits may not be missing. -/
  rich : Bool := false
  /-- An octal number may have a zero in front of its digits. -/
  zero : Bool := false
  /-- The output can be ended. -/
  stops : Bool := false
  deriving DecidableEq, Repr, Inhabited

/-- A number with so many hexadecimal digits at least. -/
def hexadecimal (length n : Nat) (upper : Bool) : Bytes :=
  let digits := Nat.toDigits 16 n
  let text := List.replicate (length - digits.length) '0' ++ digits
  bytes (String.ofList (if upper then text.map Char.toUpper else text))

/-- What a character by number stands for, given the letter of its escape and the digits. -/
def Escape.character (letter : UInt8) (digits : Bytes) : Escape :=
  let code := Numeral.valueOf 16 digits
  let isPlain := code = 0x24 || code = 0x40 || code = 0x60
  if (code ≤ 0x9F && !isPlain) || (0xD800 ≤ code && code ≤ 0xDFFF) then
    .noCharacter (92 :: letter :: digits.map fun byte =>
      if 65 ≤ byte && byte ≤ 70 then byte + 32 else byte)
  else
    let value := if code < 128 then [UInt8.ofNat code]
      else if code < 0x10000 then bytes "\\u" ++ hexadecimal 4 code true
      else bytes "\\U" ++ hexadecimal 8 code true
    .text value (digits.length + 2)

/-- The escape at the start of a text. -/
def Escape.ofText (rules : Escape.Rules) : Bytes → Escape
  | 92 :: letter :: rest =>
    if letter = 99 && rules.stops then .stop
    else if letter = 34 && rules.rich then .text [34] 2
    else if letter = 120 && rules.hexadecimal then
      let digits := Numeral.digitsOf 16 (rest.take 2)
      if digits.isEmpty then (if rules.rich then .noDigits else .none)
      else .text [UInt8.ofNat (Numeral.valueOf 16 digits)] (digits.length + 2)
    else if (letter = 117 || letter = 85) && rules.rich then
      let length := if letter = 117 then 4 else 8
      let digits := Numeral.digitsOf 16 (rest.take length)
      if digits.length < length then .noDigits else Escape.character letter digits
    else if isOctal letter then
      let digits :=
        if letter = 48 && rules.zero then 48 :: (rest.take 3).takeWhile isOctal
        else letter :: (rest.take 2).takeWhile isOctal
      .text [octalByte digits] (digits.length + 1)
    else match escapes.lookup letter with
      | some value => .text [value] 2
      | Option.none => if rules.rich then .text [92, letter] 2 else .none
  | _ => .none

/-- A text with its escapes replaced. -/
structure Unescaped where
  text : Bytes := []
  /-- The escape that has ended the text, if one has. -/
  ended : Option Escape := none
  deriving DecidableEq, Repr, Inhabited

/-- A text with its escapes replaced. The bound is the length of the text. -/
def unescapeWithin (rules : Escape.Rules) : Nat → Bytes → Unescaped
  | 0, _ => {}
  | _ + 1, [] => {}
  | bound + 1, first :: rest =>
    match Escape.ofText rules (first :: rest) with
    | .text value length => prepend value (unescapeWithin rules bound (rest.drop (length - 1)))
    | .none => prepend [first] (unescapeWithin rules bound rest)
    | ending => { ended := some ending }
where
  /-- The same with some bytes before it. -/
  prepend (text : Bytes) (unescaped : Unescaped) : Unescaped :=
    { unescaped with text := text ++ unescaped.text }

/-- A text with its escapes replaced. -/
def unescape (rules : Escape.Rules) (text : Bytes) : Unescaped :=
  unescapeWithin rules text.length text

namespace Format

/-- What is wrong with an argument or a directive. -/
inductive Fault
  | noNumber (argument : Bytes)
  | partlyNumber (argument : Bytes)
  | outOfRange (argument : Bytes)
  /-- Something stands behind a quote and the byte that counts. -/
  | ignored (rest : Bytes)
  | unknownDirective (directive : Bytes)
  /-- The format ends in a directive. -/
  | noDirective
  | noDigits
  | noCharacter (text : Bytes)
  | badWidth (argument : Bytes)
  | badPrecision (argument : Bytes)
  /-- There are arguments, but no directives for them. -/
  | excess (argument : Bytes)
  deriving DecidableEq, Repr, Inhabited

/-- Whether a fault ends the output. -/
def Fault.isFatal : Fault → Bool
  | .unknownDirective _ | .noDirective | .noDigits | .noCharacter _ | .badWidth _
  | .badPrecision _ => true
  | _ => false

/-- Whether there is only a warning about a fault. -/
def Fault.isHarmless : Fault → Bool
  | .ignored _ | .excess _ => true
  | _ => false

/-- A directive of a format. -/
structure Directive where
  flags : Bytes
  width : Nat
  precision : Option Nat
  kind : UInt8
  /-- How the directive is written. -/
  text : Bytes
  deriving DecidableEq, Repr, Inhabited

/-- Whether a directive has a flag. -/
def Directive.has (directive : Directive) (flag : Char) : Bool :=
  directive.flags.contains (UInt8.ofNat flag.toNat)

/-- A text in the width of a directive. -/
def Directive.pad (directive : Directive) (text : Bytes) : Bytes :=
  let gap := List.replicate (directive.width - text.length) 32
  if directive.has '-' then text ++ gap else gap ++ text

/-- A number in the width of a directive, given its sign and its digits; zeros may fill the
width. -/
def Directive.padNumber (directive : Directive) (zeros : Bool) (sign number : Bytes) : Bytes :=
  let wide := zeros && directive.has '0' && !directive.has '-'
  let count := if wide then directive.width - sign.length - number.length else 0
  directive.pad (sign ++ List.replicate count 48 ++ number)

/-- The number an argument stands for between two limits, and what is wrong with the argument. -/
def numberOf (style : Style) (least most : Int) (argument : Bytes) : Int × List Fault :=
  let quotedByte := match argument with
    | 34 :: rest | 39 :: rest => if rest.isEmpty && style = Style.program then none else some rest
    | _ => none
  match quotedByte with
  | some rest =>
    let ignored := rest.drop 1
    ((rest.headD 0).toNat,
      if style = Style.program && !ignored.isEmpty then [.ignored ignored] else [])
  | none =>
    let text := argument.dropWhile isGap
    let (negative, digits) := match text with
      | 45 :: rest => (true, rest)
      | 43 :: rest => (false, rest)
      | _ => (false, text)
    match Numeral.leading? digits with
    | none => (0, if argument.isEmpty then [] else [.noNumber argument])
    | some (value, length) =>
      let whole : Int := if negative then -(value : Int) else value
      -- Without a sign of its own, the largest number is also the limit for negative ones.
      let fits := if least = 0 then value ≤ most.toNat else least ≤ whole && whole ≤ most
      let limited := if least = 0 then (if fits then whole else most) else max least (min most whole)
      (limited,
        if style = Style.program && !fits then [.outOfRange argument]
        else if length < digits.length then [.partlyNumber argument]
        else if !fits then [.outOfRange argument]
        else [])

/-- The largest number of a machine word. -/
def largest : Int := 0x7FFFFFFFFFFFFFFF

/-- The number with a sign that an argument stands for. -/
def signedOf (style : Style) (argument : Bytes) : Int × List Fault :=
  numberOf style (-largest - 1) largest argument

/-- The number without a sign that an argument stands for. -/
def unsignedOf (style : Style) (argument : Bytes) : Int × List Fault :=
  numberOf style 0 (2 * largest + 1) argument

/-- The floating number an argument stands for, and what is wrong with the argument. -/
def floatingOf (style : Style) (argument : Bytes) : Floating × List Fault :=
  let size := if style = Style.program then Floating.extended else Floating.double
  let quotedByte := match argument with
    | 34 :: rest | 39 :: rest => if rest.isEmpty && style = Style.program then none else some rest
    | _ => none
  match quotedByte with
  | some rest =>
    let ignored := rest.drop 1
    (.finite false (rest.headD 0).toNat 0,
      if style = Style.program && !ignored.isEmpty then [.ignored ignored] else [])
  | none =>
    match Floating.read? size argument with
    | none => (.finite false 0 0, if argument.isEmpty then [] else [.noNumber argument])
    | some (value, length) =>
      (value, if length < argument.length then [.partlyNumber argument] else [])

/-- The digits of a number in a base. -/
def digitsIn (base n : Nat) (upper : Bool) : Bytes :=
  let digits := bytes (String.ofList (Nat.toDigits base n))
  if upper then digits.map fun byte => if 97 ≤ byte then byte - 32 else byte else digits

/-- The sign that stands before a number. -/
def Directive.sign (directive : Directive) (negative : Bool) : Bytes :=
  if negative then [45] else if directive.has '+' then [43]
  else if directive.has ' ' then [32] else []

/-- The text that a directive makes of a whole number. -/
def Directive.showNumber (directive : Directive) (value : Int) : Bytes :=
  let isSigned := directive.kind = 100 || directive.kind = 105
  let base := if directive.kind = 111 then 8
    else if directive.kind = 120 || directive.kind = 88 then 16 else 10
  let magnitude := if isSigned then value.natAbs else (value.emod (2 * largest + 2)).toNat
  let digits := digitsIn base magnitude (directive.kind = 88)
  let digits := if magnitude = 0 && directive.precision = some 0 then [] else digits
  let digits := List.replicate (directive.precision.getD 0 - digits.length) 48 ++ digits
  let digits := if base = 8 && directive.has '#' && digits.head? ≠ some 48 then 48 :: digits
    else digits
  let sign := if isSigned then directive.sign (value < 0)
    else if base = 16 && directive.has '#' && magnitude ≠ 0 then [48, directive.kind]
    else []
  directive.padNumber directive.precision.isNone sign digits

/-- The text that a directive makes of a floating number. -/
def Directive.showFloating (directive : Directive) (style : Style) (value : Floating) : Bytes :=
  let size := if style = Style.program then Floating.extended else Floating.double
  let upper : Bool := directive.kind < 97
  let form : Floating.Form := match Char.ofNat (directive.kind ||| 32).toNat with
    | 'e' => .scientific
    | 'f' => .fixed
    | 'g' => .general
    | _ => .hexadecimal
  let text := value.write size form directive.precision (directive.has '#')
  let text := bytes (String.ofList (if upper then text.map Char.toUpper else text))
  let isFinite := match value with
    | .finite .. => true
    | _ => false
  let sign := directive.sign value.isNegative
  if isFinite && form matches Floating.Form.hexadecimal then
    directive.padNumber true (sign ++ text.take 2) (text.drop 2)
  else directive.padNumber isFinite sign text

/-- What a format makes of its arguments. -/
structure Rendered where
  output : Bytes := []
  faults : List Fault := []
  arguments : List Bytes
  /-- Nothing comes after this. -/
  stopped : Bool := false
  deriving Inhabited

namespace Rendered

/-- The same with some output and faults before it. -/
def after (rendered : Rendered) (output : Bytes) (faults : List Fault) : Rendered :=
  { rendered with output := output ++ rendered.output, faults := faults ++ rendered.faults }

/-- The end of the output because of a fault. -/
def fail (fault : Fault) (arguments : List Bytes) : Rendered :=
  { faults := [fault], arguments, stopped := true }

/-- What comes of one part of a format, if the output goes on. -/
def andThen (first : Rendered) (next : List Bytes → Rendered) : Rendered :=
  if first.stopped then first else (next first.arguments).after first.output first.faults

end Rendered

/-- A size in a directive: how it is written, its value if there is one, the faults of its argument,
and the arguments that are left. -/
structure Measure where
  text : Bytes := []
  value : Option Int := none
  faults : List Fault := []
  arguments : List Bytes
  /-- The argument that the size is taken from. -/
  source : Option Bytes := none
  deriving Inhabited

/-- The size at the start of a text, which can be taken from the arguments. -/
def Measure.ofText (style : Style) (text : Bytes) (arguments : List Bytes) : Measure :=
  match text with
  | 42 :: _ =>
    let (value, faults) := signedOf style (arguments.headD [])
    { text := [42], value := some value, faults, arguments := arguments.drop 1,
      source := arguments.head? }
  | _ =>
    let digits := text.takeWhile fun byte => 48 ≤ byte && byte ≤ 57
    { text := digits, value := (number? digits).map Int.ofNat, arguments }

/-- The largest size that a program takes from an argument. -/
def largestMeasure : Int := 0x7FFFFFFF

/-- The directives that a program refuses together with a flag. -/
def refused (flags : Bytes) (precise : Bool) : Bytes :=
  (if flags.contains 39 || flags.contains 73 then bytes "aAceEosxX" else []) ++
    (if flags.contains 35 then bytes "cdisu" else []) ++
    (if flags.contains 48 then bytes "cs" else []) ++ (if precise then bytes "c" else [])

/-- Makes a directive of the arguments. -/
def apply (style : Style) (directive : Directive) (arguments : List Bytes) : Rendered :=
  let argument := arguments.headD []
  let rest := arguments.drop 1
  let cut := fun (text : Bytes) => match directive.precision with
    | some precision => text.take precision
    | none => text
  match Char.ofNat directive.kind.toNat with
  | 's' => { output := directive.pad (cut argument), arguments := rest }
  | 'c' => { output := directive.pad [argument.headD 0], arguments := rest }
  | 'b' =>
    let rich : Bool := style = Style.program
    let rules : Escape.Rules := { hexadecimal := rich, rich, zero := true, stops := true }
    let unescaped := unescape rules argument
    let text := directive.pad (cut unescaped.text)
    match unescaped.ended with
    | none => { output := text, arguments := rest }
    | some .noDigits => (Rendered.fail .noDigits rest).after text []
    | some (.noCharacter shown) => (Rendered.fail (.noCharacter shown) rest).after text []
    | some _ => { output := text, arguments := rest, stopped := true }
  | 'q' => { output := mention argument, arguments := rest }
  | 'd' | 'i' =>
    let (value, faults) := signedOf style argument
    { output := directive.showNumber value, faults, arguments := rest }
  | 'o' | 'u' | 'x' | 'X' =>
    let (value, faults) := unsignedOf style argument
    { output := directive.showNumber value, faults, arguments := rest }
  | _ =>
    let (value, faults) := floatingOf style argument
    { output := directive.showFloating style value, faults, arguments := rest }

/-- Carries out the directive behind a percent sign, and gives what comes after it. -/
def directive (style : Style) (text : Bytes) (arguments : List Bytes) : Rendered × Bytes :=
  let isProgram : Bool := style = Style.program
  let simple : Directive := { flags := [], width := 0, precision := none, kind := 0, text := [] }
  if isProgram && (text.head? = some 98 || text.head? = some 113) then
    if arguments.isEmpty then ({ arguments }, text.drop 1)
    else (apply style { simple with kind := text.headD 0 } arguments, text.drop 1)
  else
    let known := bytes (if isProgram then "-+ #0'I" else "-+ #0")
    let flags := text.takeWhile known.contains
    let rest := text.drop flags.length
    let width := Measure.ofText style rest arguments
    let rest := rest.drop width.text.length
    let hasPoint := rest.head? = some 46
    let precision := if hasPoint then Measure.ofText style (rest.drop 1) width.arguments
      else { arguments := width.arguments }
    let rest := if hasPoint then rest.drop (1 + precision.text.length) else rest
    let letters := if isProgram then rest.takeWhile (bytes "lLhjtz").contains else []
    let rest := rest.drop letters.length
    let kind := rest.headD 0
    let shown := 37 :: text.take (text.length - (rest.drop 1).length)
    let kinds := bytes (if isProgram then "aAcdeEfFgGiosuxX" else "bcsdiouxXaAeEfFgG")
    let faults := width.faults ++ precision.faults
    let isWide := fun (measure : Measure) => measure.source.any fun _ =>
      measure.value.any fun value => value > largestMeasure
    if isProgram && isWide width then
      ((Rendered.fail (.badWidth (width.source.getD [])) width.arguments).after [] faults, rest)
    else if isProgram && isWide precision then
      ((Rendered.fail (.badPrecision (precision.source.getD [])) width.arguments).after [] faults,
        rest)
    else if rest.isEmpty && !isProgram then
      ((Rendered.fail .noDirective precision.arguments).after [] faults, [])
    else if !kinds.contains kind || (isProgram && (refused flags hasPoint).contains kind) then
      ((Rendered.fail (.unknownDirective shown) precision.arguments).after [] faults, [])
    else
      let wide := width.value.getD 0
      let flags := if wide < 0 then 45 :: flags else flags
      let places := if hasPoint then
        let value := precision.value.getD 0
        if value < 0 then none else some value.toNat else none
      let found := { flags, width := wide.natAbs, precision := places, kind, text := shown }
      ((apply style found precision.arguments).after [] faults, rest.drop 1)

/-- Goes through a format once, in at most so many steps. -/
def passWithin (style : Style) : Nat → Bytes → List Bytes → Rendered
  | 0, _, arguments => { arguments }
  | _ + 1, [], arguments => { arguments }
  | bound + 1, 37 :: 37 :: rest, arguments =>
    (passWithin style bound rest arguments).after [37] []
  | bound + 1, 37 :: rest, arguments =>
    let (first, rest) := directive style rest arguments
    first.andThen (passWithin style bound rest)
  | bound + 1, byte :: rest, arguments =>
    let isProgram : Bool := style = Style.program
    match Escape.ofText { hexadecimal := isProgram, rich := isProgram, stops := isProgram }
        (byte :: rest) with
    | .text value length =>
      (passWithin style bound (rest.drop (length - 1)) arguments).after value []
    | .none => (passWithin style bound rest arguments).after [byte] []
    | .stop => { arguments, stopped := true }
    | .noDigits => .fail .noDigits arguments
    | .noCharacter text => .fail (.noCharacter text) arguments

/-- Goes through a format as often as there are arguments for it. -/
def renderWithin (style : Style) : Nat → Bytes → List Bytes → Rendered
  | 0, _, arguments => { arguments }
  | bound + 1, format, arguments =>
    let first := passWithin style (format.length + 1) format arguments
    if first.stopped || first.arguments.isEmpty then first
    else if first.arguments.length = arguments.length then
      if style = Style.command then first
      else { first with faults := first.faults ++ [.excess (first.arguments.headD [])] }
    else first.andThen (renderWithin style bound format)

/-- The text that a format makes of its arguments. -/
def render (style : Style) (format : Bytes) (arguments : List Bytes) : Rendered :=
  renderWithin style (arguments.length + 1) format arguments

end Format

end LineShell.Programs
