/-! Whole numbers in decimal. -/

namespace LineShell.Text

/-- The decimal digits of a number, after a minus sign if it is negative. -/
def decimalDigits : Int → List Char
  | .ofNat n => Nat.toDigits 10 n
  | .negSucc n => '-' :: Nat.toDigits 10 (n + 1)

/-- A number as it is written. -/
def decimal (n : Int) : String :=
  String.ofList (decimalDigits n)

/-- The number that decimal digits stand for, if there are digits and nothing else. -/
def natural? (digits : List Char) : Option Nat :=
  if digits.isEmpty || !digits.all Char.isDigit then none
  else some (digits.foldl (fun value c => value * 10 + (c.toNat - '0'.toNat)) 0)

/-- The number that decimal digits stand for, perhaps after a minus sign. -/
def integer? : List Char → Option Int
  | '-' :: digits => (natural? digits).map fun n => -(n : Int)
  | digits => (natural? digits).map fun n => (n : Int)

end LineShell.Text
