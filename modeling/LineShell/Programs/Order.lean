import LineShell.Programs.Basic
import LineShell.Text.Floating

/-! Orders: the ways to compare lines, as a whole or by parts of them. -/

namespace LineShell.Programs

/-- The order of two texts by their bytes. -/
def compareBytes : Bytes → Bytes → Ordering
  | [], [] => .eq
  | [], _ :: _ => .lt
  | _ :: _, [] => .gt
  | first :: rest, other :: others =>
    if first < other then .lt else if other < first then .gt else compareBytes rest others

/-- A text compares as equal with itself. -/
@[simp] theorem compareBytes_self (text : Bytes) : compareBytes text text = .eq := by
  induction text with
  | nil => rfl
  | cons first rest same => simp [compareBytes, same]

/-- Whether a byte separates the fields of a line if nothing else does. -/
def isBlank (byte : UInt8) : Bool :=
  byte = 32 || byte = 9 || byte = 10

/-- Whether a byte is a letter. -/
def isLetter (byte : UInt8) : Bool :=
  (65 ≤ byte && byte ≤ 90) || (97 ≤ byte && byte ≤ 122)

/-- Whether a byte is a digit. -/
def isFigure (byte : UInt8) : Bool :=
  48 ≤ byte && byte ≤ 57

/-- A byte as a capital letter, if it is a letter. -/
def capital (byte : UInt8) : UInt8 :=
  if 97 ≤ byte && byte ≤ 122 then byte - 32 else byte

/-- The number that a text begins with, as a whole number and the count of its decimal places. -/
def leadingDecimal (text : Bytes) : Int × Nat :=
  let (negative, text) := match text with
    | 45 :: rest => (true, rest)
    | _ => (false, text)
  let whole := Numeral.digitsOf 10 text
  let places := match text.drop whole.length with
    | 46 :: rest => Numeral.digitsOf 10 rest
    | _ => []
  let value : Int := Numeral.valueOf 10 (whole ++ places)
  (if negative then -value else value, places.length)

/-- The order of two texts by the numbers they begin with. -/
def compareDecimals (first second : Bytes) : Ordering :=
  let (value, places) := leadingDecimal (first.dropWhile isBlank)
  let (other, others) := leadingDecimal (second.dropWhile isBlank)
  compare (value * Nat.pow 10 others) (other * Nat.pow 10 places)

/-- The order of two texts by the floating numbers they begin with. Texts without a number come
first, and then numbers that are undefined. -/
def compareFloating (first second : Bytes) : Ordering :=
  let number? := fun (text : Bytes) =>
    ((Floating.read? Floating.extended text).map (·.1) : Option Floating)
  match number? first, number? second with
  | none, none => .eq
  | none, some _ => .lt
  | some _, none => .gt
  | some (.undefined _), some (.undefined _) => .eq
  | some (.undefined _), some _ => .lt
  | some _, some (.undefined _) => .gt
  | some value, some other => (value.compare? other).getD .eq

/-- The letters behind numbers for powers of a thousand. -/
def unitLetters : List (UInt8 × Int) :=
  [(107, 1), (75, 1), (77, 2), (71, 3), (84, 4), (80, 5), (69, 6), (90, 7), (89, 8)]

/-- The power of a thousand that stands behind the number at the start of a text; it is negative for
a negative number, and a zero has none. -/
def unitOf (text : Bytes) : Int :=
  let negative := text.head? = some 45
  let text := if negative then text.drop 1 else text
  let whole := Numeral.digitsOf 10 text
  let rest := text.drop whole.length
  let places := match rest with
    | 46 :: rest => Numeral.digitsOf 10 rest
    | _ => []
  let rest := if rest.head? = some 46 then rest.drop (places.length + 1) else rest
  if (whole ++ places).all (· = 48) then 0
  else
    let power := (rest.head?.bind fun letter => unitLetters.lookup letter).getD 0
    if negative then -power else power

/-- The order of two texts by the numbers they begin with, which may have letters for powers of a
thousand. -/
def compareAmounts (first second : Bytes) : Ordering :=
  let first := first.dropWhile isBlank
  let second := second.dropWhile isBlank
  (compare (unitOf first) (unitOf second)).then (compareDecimals first second)

/-- The names of the months. -/
def monthNames : List String :=
  ["JAN", "FEB", "MAR", "APR", "MAY", "JUN", "JUL", "AUG", "SEP", "OCT", "NOV", "DEC"]

/-- The place in the year of the month that a text begins with; zero if there is none. -/
def monthOf (text : Bytes) : Nat :=
  let name := ((text.dropWhile isBlank).take 3).map capital
  match monthNames.findIdx? fun month => bytes month = name with
  | some place => place + 1
  | none => 0

namespace Release

/-- The rank of a byte in a name with release numbers. The end of a name comes before everything but
a tilde, and letters come before other bytes. -/
def rank : Bytes → Int
  | [] => -1
  | byte :: _ =>
    if isFigure byte then 0
    else if isLetter byte then byte.toNat
    else if byte = 126 then -2
    else byte.toNat + 256

/-- The length of the endings of a name, each a dot, a letter and perhaps more letters and digits. -/
def endingLength : Nat → Bytes → Nat
  | 0, _ => 0
  | bound + 1, reversed =>
    let isInner := fun (byte : UInt8) => isLetter byte || isFigure byte || byte = 126
    let inner := reversed.takeWhile isInner
    let startsWell := inner.getLast?.any fun byte => isLetter byte || byte = 126
    if startsWell && (reversed.drop inner.length).head? = some 46 then
      inner.length + 1 + endingLength bound (reversed.drop (inner.length + 1))
    else 0

/-- Compares the parts of two names without digits, in so many steps at most, and gives what comes
after them. -/
def compareTexts : Nat → Bytes → Bytes → Ordering × Bytes × Bytes
  | 0, first, second => (.eq, first, second)
  | bound + 1, first, second =>
    let goesOn := fun (text : Bytes) => text.head?.any fun byte => !isFigure byte
    if goesOn first || goesOn second then
      match compare (rank first) (rank second) with
      | .eq => compareTexts bound (first.drop 1) (second.drop 1)
      | found => (found, [], [])
    else (.eq, first, second)

/-- Compares two names part by part, in so many steps at most: texts by rank, and numbers by
value. -/
def comparePartsWithin : Nat → Bytes → Bytes → Ordering
  | 0, _, _ | _, [], [] => .eq
  | bound + 1, first, second =>
    match compareTexts (first.length + second.length + 1) first second with
    | (.eq, first, second) =>
      let number := Numeral.digitsOf 10 first
      let other := Numeral.digitsOf 10 second
      (compare (Numeral.valueOf 10 number) (Numeral.valueOf 10 other)).then
        (comparePartsWithin bound (first.drop number.length) (second.drop other.length))
    | (found, _, _) => found

/-- Compares two names part by part. -/
def compareParts (first second : Bytes) : Ordering :=
  comparePartsWithin (first.length + second.length + 1) first second

/-- The order of two names with release numbers: those that begin with a dot come first, and endings
count only where nothing else differs. -/
def order (first second : Bytes) : Ordering :=
  let withoutEnding := fun (name : Bytes) =>
    name.take (name.length - endingLength name.length name.reverse)
  -- The empty name, a dot and two dots come before all the others.
  let place := fun (name : Bytes) =>
    if name.isEmpty then 0 else if name = [46] then 1 else if name = [46, 46] then 2
    else if name.head? = some 46 then 3 else (4 : Nat)
  (compare (place first) (place second)).then
    ((compareParts (withoutEnding first) (withoutEnding second)).then
      (compareParts first second))

end Release

/-- How two parts of lines are compared. -/
structure Comparison where
  decimal : Bool := false
  floating : Bool := false
  amounts : Bool := false
  months : Bool := false
  releases : Bool := false
  scattered : Bool := false
  /-- Only blanks, letters and digits count. -/
  dictionary : Bool := false
  /-- Only bytes that are shown count. -/
  shown : Bool := false
  /-- Small letters count as capital ones. -/
  folded : Bool := false
  /-- Blanks at the start of a part, and before its end, do not count. -/
  startBlanks : Bool := false
  endBlanks : Bool := false
  reversed : Bool := false
  deriving DecidableEq, Repr, Inhabited

namespace Comparison

/-- Whether nothing is asked for but perhaps the reverse order. -/
def isUsual (comparison : Comparison) : Bool :=
  { comparison with reversed := false } = ({} : Comparison)

/-- The comparison with what a letter changes, if it is known; `start` and `ending` tell which blanks
are meant. -/
def take? (comparison : Comparison) (start ending : Bool) (letter : UInt8) : Option Comparison :=
  match Char.ofNat letter.toNat with
  | 'b' => some { comparison with
      startBlanks := comparison.startBlanks || start, endBlanks := comparison.endBlanks || ending }
  | 'd' => some { comparison with dictionary := true, shown := false }
  | 'f' => some { comparison with folded := true }
  | 'g' => some { comparison with floating := true }
  | 'h' => some { comparison with amounts := true }
  | 'i' => some { comparison with shown := !comparison.dictionary }
  | 'M' => some { comparison with months := true }
  | 'n' => some { comparison with decimal := true }
  | 'R' => some { comparison with scattered := true }
  | 'r' => some { comparison with reversed := true }
  | 'V' => some { comparison with releases := true }
  | _ => none

/-- Reads letters as far as they are known. -/
def readLetters (comparison : Comparison) (start ending : Bool) : Bytes → Comparison × Bytes
  | [] => (comparison, [])
  | letter :: rest =>
    match comparison.take? start ending letter with
    | some comparison => readLetters comparison start ending rest
    | none => (comparison, letter :: rest)

/-- The letters of a comparison that excludes itself. -/
def conflict? (comparison : Comparison) : Option String :=
  let sorts := [comparison.decimal, comparison.floating, comparison.amounts, comparison.months,
    comparison.releases || comparison.scattered || comparison.dictionary || comparison.shown]
  if (sorts.filter id).length ≤ 1 then none
  else
    let letters := [('d', comparison.dictionary), ('f', comparison.folded),
      ('g', comparison.floating), ('h', comparison.amounts), ('i', comparison.shown),
      ('M', comparison.months), ('n', comparison.decimal), ('R', comparison.scattered),
      ('V', comparison.releases)]
    some (String.ofList ((letters.filter (·.2)).map (·.1)))

/-- The bytes of a part that count. -/
def counting (comparison : Comparison) (part : Bytes) : Bytes :=
  let kept := if comparison.dictionary
    then part.filter fun byte => isBlank byte || isLetter byte || isFigure byte
    else if comparison.shown then part.filter fun byte => 32 ≤ byte && byte ≤ 126
    else part
  if comparison.folded then kept.map capital else kept

/-- The order of two parts of lines. -/
def order (comparison : Comparison) (first second : Bytes) : Ordering :=
  let first := comparison.counting first
  let second := comparison.counting second
  let found := if comparison.decimal then compareDecimals first second
    else if comparison.floating then compareFloating first second
    else if comparison.amounts then compareAmounts first second
    else if comparison.months then compare (monthOf first) (monthOf second)
    else if comparison.releases then Release.order first second
    else compareBytes first second
  if comparison.reversed then found.swap else found

end Comparison

/-- A part of a line by which lines are ordered. Fields and bytes are counted from zero. -/
structure SortKey where
  startField : Nat := 0
  startByte : Nat := 0
  /-- The last field of the part, and how many of its bytes belong to it; zero stands for all. -/
  ending : Option (Nat × Nat) := none
  comparison : Comparison := {}
  deriving DecidableEq, Repr, Inhabited

namespace SortKey

/-- A line from some field on. What separates fields belongs to the field behind it unless it is one
certain byte. -/
def fromField (separator : Option UInt8) : Nat → Bytes → Bytes
  | 0, line => line
  | _ + 1, [] => []
  | count + 1, line =>
    match separator with
    | some separator => fromField (some separator) count ((line.dropWhile (· ≠ separator)).drop 1)
    | none => fromField none count ((line.dropWhile isBlank).dropWhile fun byte => !isBlank byte)

/-- What is left of a line behind a part. -/
def behind (separator : Option UInt8) (comparison : Comparison) (field count : Nat)
    (line : Bytes) : Bytes :=
  if count = 0 then
    let start := fromField separator field line
    match separator with
    | some separator => start.dropWhile (· ≠ separator)
    | none => (start.dropWhile isBlank).dropWhile fun byte => !isBlank byte
  else
    let start := fromField separator field line
    let start := if comparison.endBlanks then start.dropWhile isBlank else start
    start.drop count

/-- The part of a line that a key stands for. -/
def part (separator : Option UInt8) (key : SortKey) (line : Bytes) : Bytes :=
  let start := fromField separator key.startField line
  let start := if key.comparison.startBlanks then start.dropWhile isBlank else start
  let start := start.drop key.startByte
  match key.ending with
  | none => start
  | some (field, count) =>
    let rest := behind separator key.comparison field count line
    start.take (start.length - rest.length)

end SortKey

/-- How lines are ordered. -/
structure LineOrder where
  keys : List SortKey := []
  separator : Option UInt8 := none
  /-- Lines with equal keys stay as they are. -/
  stable : Bool := false
  /-- Of lines with equal keys, only one is kept. -/
  unique : Bool := false
  reversed : Bool := false
  deriving DecidableEq, Repr, Inhabited

namespace LineOrder

/-- A line with the parts of it by which it is ordered. -/
structure Entry where
  line : Bytes
  parts : List Bytes
  deriving Inhabited

/-- A line with the parts of it by which it is ordered. -/
def entry (order : LineOrder) (line : Bytes) : Entry :=
  { line, parts := order.keys.map fun key => key.part order.separator line }

/-- The order of two lines by their keys. -/
def compareKeys : List SortKey → List Bytes → List Bytes → Ordering
  | key :: keys, first :: rest, second :: others =>
    match key.comparison.order first second with
    | .eq => compareKeys keys rest others
    | found => found
  | _, _, _ => .eq

/-- The order of two lines; lines with equal keys are ordered by their bytes. -/
def compare (order : LineOrder) (first second : Entry) : Ordering :=
  let found := compareKeys order.keys first.parts second.parts
  if found ≠ .eq then found
  else if !order.keys.isEmpty && (order.stable || order.unique) then .eq
  else
    let found := compareBytes first.line second.line
    if order.reversed then found.swap else found

/-- Without all but the first of equal lines that follow each other. -/
def reduce (order : LineOrder) (entries : List Entry) : List Entry :=
  if !order.unique then entries
  else (entries.foldl (fun kept entry =>
    match kept with
    | last :: _ => if order.compare last entry = .eq then kept else entry :: kept
    | [] => [entry]) []).reverse

/-- The lines in order. -/
def sort (order : LineOrder) (lines : List Bytes) : List Bytes :=
  let sorted := (lines.map order.entry).mergeSort fun first second =>
    order.compare first second != .gt
  (order.reduce sorted).map (·.line)

/-- Two lists of lines as one, always with the lesser of the next two lines. -/
def mergeTwo (order : LineOrder) : List Entry → List Entry → List Entry
  | [], others => others
  | lines, [] => lines
  | first :: rest, second :: others =>
    if order.compare first second = .gt then
      second :: mergeTwo order (first :: rest) others
    else first :: mergeTwo order rest (second :: others)
termination_by lines others => lines.length + others.length

/-- Lists of lines as one, which is in order if each of them is. -/
def merge (order : LineOrder) (lists : List (List Bytes)) : List Bytes :=
  let merged := lists.foldr (fun lines others => order.mergeTwo (lines.map order.entry) others) []
  (order.reduce merged).map (·.line)

/-- The place and the text of the first line that is out of order. -/
def disorder? (order : LineOrder) (lines : List Bytes) : Option (Nat × Bytes) :=
  let entries := lines.map order.entry
  ((entries.zip (entries.drop 1)).zipIdx.find? fun ((before, entry), _) =>
    match order.compare before entry with
    | .gt => true
    | .eq => order.unique
    | .lt => false).map fun ((_, entry), place) => (place + 2, entry.line)

end LineOrder

end LineShell.Programs
