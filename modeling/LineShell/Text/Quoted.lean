import LineShell.Text.Combining
import LineShell.Text.Printable

/-! Quoted text: any text between quotes, readable back and safe to show on a terminal. -/

namespace LineShell.Text

/-- A number in base sixteen, lower case, without leading zeros. -/
def hexadecimal (n : Nat) : List Char :=
  Nat.toDigits 16 n

/-- Whether a character outside the short escapes is shown as its number. -/
def showsAsNumber (c : Char) : Bool :=
  -- The printable ASCII characters need no search.
  if 0x20 ≤ c.toNat && c.toNat < 0x7F then false
  else isCombining c || !isPrintable c

/-- One character as it stands between quotes. -/
def quoteChar (c : Char) : List Char :=
  if c = '\x00' then ['\\', '0']
  else if c = '\t' then ['\\', 't']
  else if c = '\n' then ['\\', 'n']
  else if c = '\r' then ['\\', 'r']
  else if c = '"' then ['\\', '"']
  else if c = '\\' then ['\\', '\\']
  else if showsAsNumber c then
    ['\\', 'u', '\x7b'] ++ hexadecimal c.toNat ++ ['\x7d']
  else [c]

/-- A text between quotes. -/
def quote (text : List Char) : List Char :=
  '"' :: text.flatMap quoteChar ++ ['"']

/-- A string between quotes. -/
def quoteString (text : String) : String :=
  String.ofList (quote text.toList)

/-- The value of a digit in base sixteen. -/
def hexDigit? (c : Char) : Option Nat :=
  if '0' ≤ c && c ≤ '9' then some (c.toNat - '0'.toNat)
  else if 'a' ≤ c && c ≤ 'f' then some (c.toNat - 'a'.toNat + 10)
  else none

/-- The character whose number is written between braces, and the text behind the braces. -/
def unquoteNumber? (value : Nat) : List Char → Option (Char × List Char)
  | [] => none
  | c :: rest =>
    if c = '\x7d' then some (Char.ofNat value, rest)
    else match hexDigit? c with
      | some digit => unquoteNumber? (value * 16 + digit) rest
      | none => none

/-- What is left behind the braces is shorter. -/
theorem length_of_unquoteNumber? {value : Nat} {text rest : List Char} {c : Char}
    (read : unquoteNumber? value text = some (c, rest)) : rest.length < text.length := by
  induction text generalizing value with
  | nil => simp [unquoteNumber?] at read
  | cons first others ih =>
    unfold unquoteNumber? at read
    split at read
    · cases read
      simp
    · split at read
      · exact Nat.lt_succ_of_lt (ih read)
      · cases read

/-- The letters behind a backslash and the characters they stand for. -/
def shortEscapes : List (Char × Char) :=
  [('0', '\x00'), ('t', '\t'), ('n', '\n'), ('r', '\r'), ('"', '"'), ('\\', '\\')]

/-- The text that stands before a closing quote, with its escapes undone, and what comes behind the
quote. -/
def unquoteBody? : List Char → Option (List Char × List Char)
  | [] => none
  | '"' :: rest => some ([], rest)
  | '\\' :: 'u' :: '\x7b' :: rest =>
    match _read : unquoteNumber? 0 rest with
    | none => none
    | some (c, after) => (unquoteBody? after).map fun (text, rest) => (c :: text, rest)
  | '\\' :: letter :: rest =>
    match shortEscapes.lookup letter with
    | none => none
    | some c => (unquoteBody? rest).map fun (text, rest) => (c :: text, rest)
  | c :: rest =>
    if c = '\\' then none
    else (unquoteBody? rest).map fun (text, rest) => (c :: text, rest)
termination_by text => text.length
decreasing_by
  · have := length_of_unquoteNumber? _read
    simp only [List.length_cons]
    omega
  all_goals simp +arith

/-- The text that a quoted text stands for, and what comes behind it. -/
def unquote? : List Char → Option (List Char × List Char)
  | '"' :: rest => unquoteBody? rest
  | _ => none

end LineShell.Text
