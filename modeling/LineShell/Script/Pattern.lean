import LineShell.Programs.Basic

/-! Patterns: which texts a text with stars, question marks and brackets matches. A byte behind a
backslash stands for itself. -/

namespace LineShell.Script

/-- A pattern, as it is written. -/
abbrev Pattern := Bytes

namespace Pattern

/-- The value of a byte as it is compared with others: bytes outside of ASCII come first. -/
def rank (byte : UInt8) : Int :=
  if byte < 128 then byte.toNat else (byte.toNat : Int) - 256

/-- The classes of bytes that a bracket can name. -/
def classes : List (String × (UInt8 → Bool)) :=
  let isUpper := fun (byte : UInt8) => 65 ≤ byte && byte ≤ 90
  let isLower := fun (byte : UInt8) => 97 ≤ byte && byte ≤ 122
  let isDigit := fun (byte : UInt8) => 48 ≤ byte && byte ≤ 57
  let isGraphic := fun (byte : UInt8) => 33 ≤ byte && byte ≤ 126
  let isAlphanumeric := fun byte => isUpper byte || isLower byte || isDigit byte
  [(":alnum:]", isAlphanumeric), (":cntrl:]", fun byte => byte < 32 || byte = 127),
    (":lower:]", isLower), (":space:]", fun byte => byte = 32 || (9 ≤ byte && byte ≤ 13)),
    (":alpha:]", fun byte => isUpper byte || isLower byte), (":digit:]", isDigit),
    (":print:]", fun byte => 32 ≤ byte && byte ≤ 126), (":upper:]", isUpper),
    (":blank:]", fun byte => byte = 32 || byte = 9), (":graph:]", isGraphic),
    (":punct:]", fun byte => isGraphic byte && !isAlphanumeric byte),
    (":xdigit:]", fun byte =>
      isDigit byte || (97 ≤ byte && byte ≤ 102) || (65 ≤ byte && byte ≤ 70))]

/-- The class whose name stands at the start of a text, and the text behind it. -/
def class? (text : Pattern) : Option ((UInt8 → Bool) × Pattern) :=
  (classes.find? fun entry => (bytes entry.1).isPrefixOf text).map fun entry =>
    (entry.2, text.drop entry.1.length)

/-- A member of a bracket, and the text behind it. -/
def member? : Pattern → Option ((UInt8 → Bool) × Pattern)
  | [] => none
  | first :: rest =>
    match if first = 91 then class? rest else none with
    | some found => some found
    | none =>
      let (low, rest) := match first, rest with
        | 92, escaped :: rest => (escaped, rest)
        | _, _ => (first, rest)
      match rest with
      | 45 :: 92 :: high :: after => some (between low high, after)
      | 45 :: high :: after =>
        if high = 93 then some (fun byte => byte = low, rest)
        else some (between low high, after)
      | _ => some (fun byte => byte = low, rest)
where
  /-- The bytes from one byte to another. -/
  between (low high byte : UInt8) : Bool :=
    rank low ≤ rank byte && rank byte ≤ rank high

/-- Whether a bracket that is open has a byte as one of its members, and the text behind it. There
is nothing if it is not closed. -/
def inBracket? (byte : UInt8) : Nat → Bool → Pattern → Option (Bool × Pattern)
  | 0, _, _ => none
  | bound + 1, found, text => do
    let (isMember, rest) ← member? text
    let found := found || isMember byte
    match rest with
    | 93 :: rest => some (found, rest)
    | _ => inBracket? byte bound found rest

/-- Whether the bracket behind its opening holds a byte, and the text behind it. -/
def bracket? (byte : UInt8) (text : Pattern) : Option (Bool × Pattern) :=
  match text with
  | 33 :: rest => (inBracket? byte rest.length false rest).map fun (found, rest) => (!found, rest)
  | _ => inBracket? byte text.length false text

/-- Whether a pattern matches a whole text, with at most so many steps. -/
def matchesWithin : Nat → Pattern → Bytes → Bool
  | 0, _, _ => false
  | _ + 1, [], text => text.isEmpty
  | steps + 1, first :: rest, text =>
    if first = 42 then
      matchesWithin steps rest text ||
        match text with
        | [] => false
        | _ :: after => matchesWithin steps (first :: rest) after
    else match text with
      | [] => false
      | byte :: after =>
        if first = 63 then matchesWithin steps rest after
        else match if first = 91 then bracket? byte rest else none with
          | some (holds, rest) => holds && matchesWithin steps rest after
          | none =>
            match if first = 92 then rest else [] with
            | escaped :: rest => escaped = byte && matchesWithin steps rest after
            | [] => first = byte && matchesWithin steps rest after

/-- Whether a pattern matches a whole text. -/
def accepts (pattern : Pattern) (text : Bytes) : Bool :=
  matchesWithin (pattern.length + text.length + 1) pattern text

/-- A text as a pattern that matches nothing else. -/
def ofText (text : Bytes) : Pattern :=
  text.flatMap fun byte => [92, byte]

/-- A pattern of escaped bytes takes as many steps as there are bytes. -/
theorem matchesWithin_ofText (text other : Bytes) (steps : Nat) (enough : text.length < steps) :
    matchesWithin steps (ofText text) other = decide (text = other) := by
  induction text generalizing other steps with
  | nil =>
    obtain ⟨steps, rfl⟩ : ∃ n, steps = n + 1 := ⟨steps - 1, by omega⟩
    cases other <;> simp [ofText, matchesWithin]
  | cons byte rest ih =>
    obtain ⟨steps, rfl⟩ : ∃ n, steps = n + 1 := ⟨steps - 1, by simp at enough; omega⟩
    have enough : rest.length < steps := by simpa using enough
    show matchesWithin (steps + 1) (92 :: byte :: ofText rest) other = _
    cases other with
    | nil => simp [matchesWithin]
    | cons first after =>
      have tail := ih after steps enough
      simp [matchesWithin, tail]

/-- The pattern of a text matches that text and no other. -/
theorem accepts_ofText (text other : Bytes) :
    accepts (ofText text) other = decide (text = other) := by
  have size : text.length ≤ (ofText text).length := by
    simp only [ofText, List.length_flatMap, List.map_const', List.length_cons, List.length_nil]
    simp
    omega
  exact matchesWithin_ofText text other _ (by omega)

/-- The lengths of the parts that a value can be cut at; a zero byte stands between values of
which only the first is cut when the parts grow from the start. -/
def cuts (growing : Bool) (value : Bytes) : List Nat :=
  if growing then List.range ((value.takeWhile (· != 0)).length + 1)
  else (List.range (value.length + 1)).reverse

/-- How many bytes the shortest or longest match at the start of a value has. -/
def cutStart (pattern : Pattern) (longest : Bool) (value : Bytes) : Option Nat :=
  (cuts (!longest) value).find? fun length =>
    accepts pattern ((value.take length).takeWhile (· != 0))

/-- How many bytes are left of a value without the shortest or longest match at its end. -/
def cutEnd (pattern : Pattern) (longest : Bool) (value : Bytes) : Option Nat :=
  (cuts longest value).find? fun length =>
    accepts pattern ((value.drop length).takeWhile (· != 0))

end Pattern

end LineShell.Script
