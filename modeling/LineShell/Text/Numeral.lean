import LineShell.Text.Utf8

/-! Numerals in bytes: the base is sixteen behind "0x", eight behind another zero, and ten
otherwise. -/

namespace LineShell.Numeral

/-- The value of a digit in bases up to sixteen. -/
def digit? (byte : UInt8) : Option Nat :=
  if 48 ≤ byte && byte ≤ 57 then some (byte.toNat - 48)
  else if 97 ≤ byte && byte ≤ 102 then some (byte.toNat - 87)
  else if 65 ≤ byte && byte ≤ 70 then some (byte.toNat - 55)
  else none

/-- The digits of a base that a text begins with. -/
def digitsOf (base : Nat) (text : Bytes) : Bytes :=
  text.takeWhile fun byte => (digit? byte).any (· < base)

/-- The number that digits of a base stand for. -/
def valueOf (base : Nat) (digits : Bytes) : Nat :=
  digits.foldl (fun value byte => value * base + (digit? byte).getD 0) 0

/-- The number at the start of a text, and the number of bytes it takes. -/
def leading? (text : Bytes) : Option (Nat × Nat) :=
  match text with
  | 48 :: 120 :: rest | 48 :: 88 :: rest =>
    let digits := digitsOf 16 rest
    if digits.isEmpty then some (0, 1) else some (valueOf 16 digits, digits.length + 2)
  | 48 :: rest =>
    let digits := digitsOf 8 rest
    some (valueOf 8 digits, digits.length + 1)
  | _ =>
    let digits := digitsOf 10 text
    if digits.isEmpty then none else some (valueOf 10 digits, digits.length)

end LineShell.Numeral
