import LineShell.Text.Numeral

/-! Floating numbers: numbers with a limited count of binary digits, as they are read from texts and
written in decimal. -/

namespace LineShell

/-- A floating number. -/
inductive Floating
  /-- A whole number times a power of two. -/
  | finite (negative : Bool) (mantissa : Nat) (exponent : Int)
  | infinite (negative : Bool)
  | undefined (negative : Bool)
  deriving DecidableEq, Repr, Inhabited

namespace Floating

/-- How many binary digits a format of floating numbers has, and its smallest and largest
exponents. -/
structure Size where
  digits : Nat
  least : Int
  most : Int
  deriving DecidableEq, Repr, Inhabited

/-- The format with 64 bits. -/
def double : Size := { digits := 53, least := -1074, most := 971 }

/-- The format with 80 bits. -/
def extended : Size := { digits := 64, least := -16445, most := 16320 }

/-- How many binary digits a number has. -/
def bitLength (n : Nat) : Nat :=
  if n = 0 then 0 else Nat.log2 n + 1

/-- Two to some power. -/
def twoTo (exponent : Nat) : Nat :=
  1 <<< exponent

/-- A quotient rounded to the nearest whole number, to the even one of two that are as near. -/
def divideRounded (numerator denominator : Nat) : Nat :=
  let quotient := numerator / denominator
  let double := 2 * (numerator % denominator)
  if double > denominator || (double = denominator && quotient % 2 = 1) then quotient + 1
  else quotient

/-- A quotient of whole numbers rounded to a format. -/
def ofQuotient (size : Size) (negative : Bool) (numerator denominator : Nat) : Floating :=
  if numerator = 0 then .finite negative 0 0
  else
    let estimate : Int := (bitLength numerator : Int) - bitLength denominator - size.digits
    let scaled := fun (exponent : Int) =>
      if exponent ≥ 0 then divideRounded numerator (denominator * twoTo exponent.toNat)
      else divideRounded (numerator * twoTo (-exponent).toNat) denominator
    let fit := fun (exponent : Int) => max exponent size.least
    let first := fit estimate
    let mantissa := scaled first
    -- The estimate is one too low at most.
    let (mantissa, exponent) :=
      if bitLength mantissa > size.digits then (scaled (first + 1), first + 1) else (mantissa, first)
    let (mantissa, exponent) :=
      if bitLength mantissa > size.digits then (mantissa / 2, exponent + 1) else (mantissa, exponent)
    if exponent > size.most then .infinite negative else .finite negative mantissa exponent

/-- Whether a text begins with a word, whatever the case of its letters. -/
def startsWith (word : String) (text : Bytes) : Bool :=
  let lower := (text.take word.length).map fun byte =>
    if 65 ≤ byte && byte ≤ 90 then byte + 32 else byte
  lower = Utf8.ofString word

/-- The exponent behind a number, and the number of bytes it takes. -/
def exponentOf (marks : Bytes) (text : Bytes) : Int × Nat :=
  match text with
  | [] => (0, 0)
  | mark :: rest =>
    if !marks.contains mark then (0, 0)
    else
      let (negative, signs, rest) := match rest with
        | 45 :: rest => (true, 1, rest)
        | 43 :: rest => (false, 1, rest)
        | _ => (false, 0, rest)
      let digits := Numeral.digitsOf 10 rest
      if digits.isEmpty then (0, 0)
      else
        -- No number is so long that a larger exponent makes a difference.
        let value := min (Numeral.valueOf 10 digits) 100000
        (if negative then -(value : Int) else value, 1 + signs + digits.length)

/-- The digits of a base with a point in them: their value without the point, how many stand behind
it, how many bytes there are, and whether there is a digit at all. -/
def digitsWithPoint (base : Nat) (text : Bytes) : Nat × Nat × Nat × Bool :=
  let whole := Numeral.digitsOf base text
  match text.drop whole.length with
  | 46 :: rest =>
    let places := Numeral.digitsOf base rest
    (Numeral.valueOf base (whole ++ places), places.length, whole.length + 1 + places.length,
      !(whole.isEmpty && places.isEmpty))
  | _ => (Numeral.valueOf base whole, 0, whole.length, !whole.isEmpty)

/-- The number at the start of a text without a sign, and the number of bytes it takes. -/
def readUnsigned? (size : Size) (negative : Bool) (text : Bytes) : Option (Floating × Nat) :=
  let hexadecimal? := match text with
    | 48 :: mark :: rest =>
      if mark = 120 || mark = 88 then
        let (value, places, length, found) := digitsWithPoint 16 rest
        if !found then none
        else
          let (exponent, more) := exponentOf (Utf8.ofString "pP") (rest.drop length)
          let shift := exponent - 4 * (places : Int)
          let number := if shift ≥ 0 then ofQuotient size negative (value * twoTo shift.toNat) 1
            else ofQuotient size negative value (twoTo (-shift).toNat)
          some (number, length + more + 2)
      else none
    | _ => none
  match hexadecimal? with
  | some found => some found
  | none =>
    if startsWith "infinity" text then some (.infinite negative, 8)
    else if startsWith "inf" text then some (.infinite negative, 3)
    else if startsWith "nan" text then some (.undefined negative, 3)
    else
      let (value, places, length, found) := digitsWithPoint 10 text
      if !found then none
      else
        let (exponent, more) := exponentOf (Utf8.ofString "eE") (text.drop length)
        let shift := exponent - (places : Int)
        let number :=
          if shift ≥ 0 then ofQuotient size negative (value * Nat.pow 10 shift.toNat) 1
          else ofQuotient size negative value (Nat.pow 10 (-shift).toNat)
        some (number, length + more)

/-- The number at the start of a text behind blanks, and the number of bytes up to its end. -/
def read? (size : Size) (text : Bytes) : Option (Floating × Nat) :=
  let blanks := text.takeWhile fun byte => byte == 32 || (9 ≤ byte && byte ≤ 13)
  let (negative, signs, rest) := match text.drop blanks.length with
    | 45 :: rest => (true, 1, rest)
    | 43 :: rest => (false, 1, rest)
    | rest => (false, 0, rest)
  (readUnsigned? size negative rest).map fun (number, length) =>
    (number, blanks.length + signs + length)

/-- A whole number times a power of two, rounded to a format. -/
def ofScaled (size : Size) (value : Int) (exponent : Int) : Floating :=
  let negative := value < 0
  if exponent ≥ 0 then ofQuotient size negative (value.natAbs * twoTo exponent.toNat) 1
  else ofQuotient size negative value.natAbs (twoTo (-exponent).toNat)

/-- A mantissa with its sign. -/
def signed (negative : Bool) (mantissa : Nat) : Int :=
  if negative then -(mantissa : Int) else mantissa

/-- The sum of two numbers, rounded to a format. -/
def add (size : Size) : Floating → Floating → Floating
  | .finite negative mantissa exponent, .finite other second power =>
    let least := min exponent power
    ofScaled size (signed negative mantissa * twoTo (exponent - least).toNat +
      signed other second * twoTo (power - least).toNat) least
  | .undefined negative, _ | _, .undefined negative => .undefined negative
  | .infinite negative, .infinite other =>
    if negative = other then .infinite negative else .undefined true
  | .infinite negative, _ | _, .infinite negative => .infinite negative

/-- The product of two numbers, rounded to a format. -/
def multiply (size : Size) : Floating → Floating → Floating
  | .finite negative mantissa exponent, .finite other second power =>
    ofScaled size (signed negative mantissa * signed other second) (exponent + power)
  | .undefined negative, _ | _, .undefined negative => .undefined negative
  | .infinite negative, .infinite other => .infinite (negative != other)
  | .infinite negative, .finite other second _ | .finite other second _, .infinite negative =>
    if second = 0 then .undefined true else .infinite (negative != other)

/-- The order of two numbers; there is none if one of them is undefined. -/
def compare? : Floating → Floating → Option Ordering
  | .finite negative mantissa exponent, .finite other second power =>
    let least := min exponent power
    some (compare (signed negative mantissa * twoTo (exponent - least).toNat)
      (signed other second * twoTo (power - least).toNat))
  | .undefined _, _ | _, .undefined _ => none
  | .infinite negative, .infinite other =>
    some (if negative = other then .eq else if negative then .lt else .gt)
  | .infinite negative, .finite .. => some (if negative then .lt else .gt)
  | .finite .., .infinite negative => some (if negative then .gt else .lt)

/-- Whether a number is less than another. -/
def less (first second : Floating) : Bool :=
  first.compare? second = some .lt

/-- Whether a number is less than zero, or is a zero with a minus sign. -/
def isNegative : Floating → Bool
  | .finite negative .. | .infinite negative | .undefined negative => negative

/-- A finite number as a quotient, without its sign. -/
def quotient (mantissa : Nat) (exponent : Int) : Nat × Nat :=
  if exponent ≥ 0 then (mantissa * twoTo exponent.toNat, 1)
  else (mantissa, twoTo (-exponent).toNat)

/-- The decimal digits of a number, with zeros in front up to a length. -/
def paddedDigits (length n : Nat) : List Char :=
  let digits := Nat.toDigits 10 n
  List.replicate (length - digits.length) '0' ++ digits

/-- A quotient with so many decimal places. -/
def fixed (places : Nat) (point : Bool) (numerator denominator : Nat) : List Char :=
  let scaled := divideRounded (numerator * Nat.pow 10 places) denominator
  let digits := paddedDigits (places + 1) scaled
  let whole := digits.take (digits.length - places)
  whole ++ (if places > 0 || point then ['.'] else []) ++ digits.drop (digits.length - places)

/-- The power of ten below a quotient: how far its first digit stands before the point. -/
def decimalExponent (numerator denominator : Nat) : Int :=
  let estimate : Int := (Nat.toDigits 10 numerator).length - (Nat.toDigits 10 denominator).length
  let reaches := if estimate ≥ 0 then numerator ≥ denominator * Nat.pow 10 estimate.toNat
    else numerator * Nat.pow 10 (-estimate).toNat ≥ denominator
  if reaches then estimate else estimate - 1

/-- A quotient rounded to one digit before the point and some places behind it: the digits, and how
far the first of them stands before the point. -/
def significant (places : Nat) (numerator denominator : Nat) : List Char × Int :=
  if numerator = 0 then (List.replicate (places + 1) '0', 0)
  else
    let exponent := decimalExponent numerator denominator
    let shift := (places : Int) - exponent
    let scaled := if shift ≥ 0 then divideRounded (numerator * Nat.pow 10 shift.toNat) denominator
      else divideRounded numerator (denominator * Nat.pow 10 (-shift).toNat)
    let digits := Nat.toDigits 10 scaled
    if digits.length > places + 1 then (digits.take (places + 1), exponent + 1)
    else (digits, exponent)

/-- An exponent with its sign and at least so many digits. -/
def exponentText (mark : Char) (least : Nat) (exponent : Int) : List Char :=
  [mark, if exponent < 0 then '-' else '+'] ++ paddedDigits least exponent.natAbs

/-- Digits with a point behind the first. -/
def pointed (point : Bool) (digits : List Char) : List Char :=
  digits.take 1 ++ (if digits.length > 1 || point then ['.'] else []) ++ digits.drop 1

/-- A text without the zeros at the end of its decimal places. -/
def withoutZeros (text : List Char) : List Char :=
  if text.contains '.' then
    let shorter := (text.reverse.dropWhile (· == '0')).reverse
    if shorter.getLast? = some '.' then shorter.dropLast else shorter
  else text

/-- How a floating number is written. -/
inductive Form
  | fixed
  | scientific
  /-- The shorter one of the two. -/
  | general
  | hexadecimal
  deriving DecidableEq, Repr, Inhabited

/-- A finite number in hexadecimal digits, without its sign. -/
def hexadecimal (precision : Option Nat) (point : Bool) (size : Size) (mantissa : Nat)
    (exponent : Int) : List Char :=
  -- All digits of a whole format stand behind the point but for the first ones.
  let leading := if size.digits = 64 then 4 else 1
  let width := bitLength mantissa
  let bits := size.digits
  let aligned := mantissa * twoTo (bits - width)
  let power := if mantissa = 0 then 0
    else exponent - ((bits - width : Nat) : Int) + ((bits - leading : Nat) : Int)
  let places := (bits - leading) / 4
  let kept := min (precision.getD places) places
  let rounded := divideRounded aligned (twoTo (4 * (places - kept)))
  let digits := Nat.toDigits 16 rounded
  let digits := List.replicate (kept + 1 - digits.length) '0' ++ digits
  let more := List.replicate (precision.getD 0 - kept) '0'
  let shown := digits.take (digits.length - kept) ++ '.' ::
    (digits.drop (digits.length - kept) ++ more)
  let trimmed := if precision.isNone then withoutZeros shown
    else if precision = some 0 then shown.dropLast else shown
  let trimmed := if point && !trimmed.contains '.' then trimmed ++ ['.'] else trimmed
  '0' :: 'x' :: trimmed ++ exponentText 'p' 1 power

/-- A number without its sign, in a form with so many digits behind the point; `point` says that
there is a point and that no zeros are left out. -/
def write (size : Size) (form : Form) (precision : Option Nat) (point : Bool) :
    Floating → List Char
  | .infinite _ => "inf".toList
  | .undefined _ => "nan".toList
  | .finite _ mantissa exponent =>
    let (numerator, denominator) := quotient mantissa exponent
    let places := precision.getD 6
    match form with
    | .fixed => fixed places point numerator denominator
    | .scientific =>
      let (digits, power) := significant places numerator denominator
      pointed point digits ++ exponentText 'e' 2 power
    | .general =>
      let count := max places 1
      let (digits, power) := significant (count - 1) numerator denominator
      let trim := if point then id else withoutZeros
      if power < -4 || power ≥ count then
        trim (pointed point digits) ++ exponentText 'e' 2 power
      else trim (fixed ((count : Int) - 1 - power).toNat point numerator denominator)
    | .hexadecimal => hexadecimal precision point size mantissa exponent

end Floating

end LineShell
