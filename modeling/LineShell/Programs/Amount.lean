import LineShell.Programs.Naming
import LineShell.Text.Numeral

/-! Amounts: numbers in arguments, with letters behind them that multiply them. -/

namespace LineShell.Programs

/-- Why a text is no amount. -/
inductive Amount.Fault
  | malformed
  /-- The number is larger than any that can be asked for. -/
  | tooLarge
  deriving DecidableEq, Repr, Inhabited

namespace Amount

/-- The largest amount. -/
def largest : Nat := 0xFFFFFFFFFFFFFFFF

/-- The letters for powers of a thousand or 1024. -/
def scales : List (Char × Nat) :=
  [('k', 1), ('K', 1), ('m', 2), ('M', 2), ('g', 3), ('G', 3), ('t', 4), ('T', 4), ('P', 5),
    ('E', 6), ('Z', 7), ('Y', 8)]

/-- What the letters behind a number multiply it by, if only some letters are known. -/
def multiplier? (known : String) (letters : Bytes) : Option Nat :=
  match letters with
  | [] => some 1
  | first :: rest =>
    let letter := Char.ofNat first.toNat
    if !known.toList.contains letter then none
    else if letter = 'b' then (if rest.isEmpty then some 512 else none)
    else if letter = 'c' then (if rest.isEmpty then some 1 else none)
    else match scales.lookup letter with
      | none => none
      | some power =>
        -- A zero among the letters says that a second letter may change the base.
        let mayChange := known.toList.contains '0'
        if rest.isEmpty || (mayChange && rest = bytes "iB") then some (Nat.pow 1024 power)
        else if mayChange && (rest = bytes "B" || rest = bytes "D") then some (Nat.pow 1000 power)
        else none

/-- The amount that a text stands for; letters alone stand behind a one. -/
def read (known : String) (text : Bytes) : Except Fault Nat :=
  let unsigned := match text.dropWhile isGap with
    | 43 :: rest => rest
    | rest => rest
  let figures := Numeral.digitsOf 10 unsigned
  let letters := if figures.isEmpty then text else unsigned.drop figures.length
  let value := if figures.isEmpty then 1 else Numeral.valueOf 10 figures
  if figures.isEmpty && letters.isEmpty then .error .malformed
  else match multiplier? known letters with
    | none => .error .malformed
    | some factor => if value * factor > largest then .error .tooLarge else .ok (value * factor)

/-- What is said about a text that is no amount. -/
def Fault.message (what : String) (text : Bytes) (fault : Fault) : Bytes :=
  let reason := match fault with
    | .malformed => ""
    | .tooLarge => ": Value too large for defined data type"
  bytes (what ++ ": ") ++ quoteWord text ++ bytes reason

end Amount

end LineShell.Programs
