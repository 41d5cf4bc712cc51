import LineShell.Programs.Format
import LineShell.Programs.Streams

/-! Exchanges: a program that exchanges, drops and squeezes bytes. -/

namespace LineShell.Programs

/-- A part of a set of bytes as it is written. -/
inductive ByteSet.Element
  | one (byte : UInt8)
  | range (low high : UInt8)
  /-- All bytes of a class. -/
  | members (name : String)
  /-- All bytes that stand for the same letter, which is each for itself alone. -/
  | alike (byte : UInt8)
  /-- One byte several times, or else as often as is needed. -/
  | repeated (byte : UInt8) (count : Option Nat)
  deriving DecidableEq, Repr, Inhabited

/-- A set of bytes, which is also a list in which each byte has a place. -/
abbrev ByteSet := List ByteSet.Element

namespace ByteSet

/-- Whether a byte belongs to a class. -/
def isMember (name : String) (byte : UInt8) : Bool :=
  let upper : Bool := 65 ≤ byte && byte ≤ 90
  let lower : Bool := 97 ≤ byte && byte ≤ 122
  let digit : Bool := 48 ≤ byte && byte ≤ 57
  match name with
  | "upper" => upper
  | "lower" => lower
  | "digit" => digit
  | "alpha" => upper || lower
  | "alnum" => upper || lower || digit
  | "blank" => byte = 9 || byte = 32
  | "space" => isGap byte
  | "cntrl" => byte < 32 || byte = 127
  | "punct" => 32 < byte && byte < 127 && !upper && !lower && !digit
  | "print" => Naming.isPrintable byte
  | "graph" => 32 < byte && byte < 127
  | "xdigit" => digit || (65 ≤ byte && byte ≤ 70) || (97 ≤ byte && byte ≤ 102)
  | _ => false

/-- The names of the classes. -/
def classNames : List String :=
  ["alnum", "alpha", "blank", "cntrl", "digit", "graph", "lower", "print", "punct", "space",
    "upper", "xdigit"]

/-- All bytes in order. -/
def allBytes : Bytes :=
  (List.range 256).map UInt8.ofNat

/-- The bytes from one to another. -/
def between (low high : UInt8) : Bytes :=
  allBytes.filter fun byte => low ≤ byte && byte ≤ high

namespace Element

/-- The bytes of an element. -/
def bytes : Element → Bytes
  | .one byte | .alike byte => [byte]
  | .range low high => between low high
  | .members name => allBytes.filter (isMember name)
  | .repeated byte count => List.replicate (count.getD 0) byte

/-- Whether an element changes the case of letters where another one of its kind stands in the other
set. -/
def isCase (element : Element) : Bool :=
  element = .members "upper" || element = .members "lower"

/-- Whether an element is a class. -/
def isClass : Element → Bool
  | .members _ => true
  | _ => false

end Element

/-- The bytes at the places of a set. -/
def bytes (set : ByteSet) : Bytes :=
  set.flatMap Element.bytes

/-- Whether an element is repeated as often as is needed. -/
def isOpen : Element → Bool
  | .repeated _ none => true
  | _ => false

/-- A byte of a set as it is written, which may have stood behind a backslash. -/
structure Mark where
  byte : UInt8
  escaped : Bool := false
  deriving DecidableEq, Repr, Inhabited

/-- The letters behind a backslash that stand for other bytes. -/
def letters : List (UInt8 × UInt8) :=
  [(97, 7), (98, 8), (102, 12), (110, 10), (114, 13), (116, 9), (118, 11)]

/-- What is said about a text with a backslash at its end. -/
def lonelyBackslash : Bytes :=
  LineShell.bytes "warning: an unescaped backslash at end of string is not portable"

/-- What is said about three octal digits for no byte. -/
def ambiguous (digits : Bytes) : Bytes :=
  LineShell.bytes "warning: the ambiguous octal escape \\" ++ digits ++
    LineShell.bytes " is being\n\tinterpreted as the 2-byte sequence \\0" ++ digits.take 2 ++
    LineShell.bytes ", " ++ digits.drop 2

/-- The marks of a text, in so many steps at most, with warnings about it. -/
def marksWithin : Nat → Bytes → List Mark × List Bytes
  | 0, _ | _, [] => ([], [])
  | bound + 1, 92 :: rest =>
    let put := fun (mark : Mark) (warning : Option Bytes) (rest : Bytes) =>
      let (marks, warnings) := marksWithin bound rest
      (mark :: marks, warning.toList ++ warnings)
    match rest with
    | [] => put { byte := 92 } (some lonelyBackslash) []
    | next :: after =>
      let digits := (Numeral.digitsOf 8 rest).take 3
      let value := Numeral.valueOf 8 digits
      if digits.isEmpty then
        put { byte := (letters.lookup next).getD next, escaped := true } none after
      else if value < 256 then
        put { byte := UInt8.ofNat value, escaped := true } none (rest.drop digits.length)
      else
        put { byte := UInt8.ofNat (value / 8), escaped := true } (some (ambiguous digits))
          (rest.drop 2)
  | bound + 1, byte :: rest =>
    let (marks, warnings) := marksWithin bound rest
    ({ byte } :: marks, warnings)

/-- The bytes of marks. -/
def text (marks : List Mark) : Bytes :=
  marks.map (·.byte)

/-- Whether some marks begin with a byte that is not escaped. -/
def startsWith (byte : UInt8) (marks : List Mark) : Bool :=
  marks.head? = some { byte }

/-- A byte in a message. -/
def shownByte (byte : UInt8) : Bytes :=
  if Naming.isPrintable byte then [byte]
  else [92, 48 + byte / 64, 48 + byte / 8 % 8, 48 + byte % 8]

/-- A text in a message. -/
def shownText (data : Bytes) : Bytes :=
  data.flatMap fun byte =>
    match letters.find? fun entry => entry.2 = byte with
    | some (letter, _) => [92, letter]
    | none => shownByte byte

/-- The marks before the next two that close something, and those behind them. -/
def upTo (closing : UInt8) : List Mark → Option (List Mark × List Mark)
  | [] | [_] => none
  | first :: second :: rest =>
    if first = { byte := closing } && second = { byte := 93 } then some ([], rest)
    else (upTo closing (second :: rest)).map fun (inner, rest) => (first :: inner, rest)

/-- Whether some marks are a star, digits and a bracket. -/
def isCount (marks : List Mark) : Bool :=
  startsWith 42 marks &&
    startsWith 93 ((marks.drop 1).dropWhile fun mark => 48 ≤ mark.byte && mark.byte ≤ 57)

/-- The largest number of times that a byte can be repeated. -/
def mostRepeats : Nat := 0x7FFFFFFFFFFFFFFF

/-- The repeated byte behind a bracket, and what comes after it; or what is wrong with the number of
times. -/
def repeated? : List Mark → Option (Except Bytes (Element × List Mark))
  | mark :: star :: rest =>
    if star ≠ { byte := 42 } then none
    else
      let inner := rest.takeWhile fun mark => !mark.escaped && mark.byte ≠ 93
      if !startsWith 93 (rest.drop inner.length) then none
      else
        let after := rest.drop (inner.length + 1)
        let digits := text inner
        let base := if digits.head? = some 48 then 8 else 10
        let count := Numeral.valueOf base digits
        if digits.isEmpty then some (.ok (.repeated mark.byte none, after))
        else if (Numeral.digitsOf base digits).length ≠ digits.length || count > mostRepeats then
          some (.error (LineShell.bytes "invalid repeat count " ++ quoteWord (shownText digits) ++
            LineShell.bytes " in [c*n] construct"))
        else some (.ok (.repeated mark.byte (if count = 0 then none else some count), after))
  | _ => none

/-- The element behind a bracket, and what comes after it; or what is wrong with it. -/
def bracketed? (marks : List Mark) : Option (Except Bytes (Element × List Mark)) :=
  let named := fun (closing : UInt8) => (upTo closing (marks.drop 1)).filter fun _ =>
    startsWith closing marks
  match named 58, named 61 with
  | some (inner, rest), _ =>
    let name := text inner
    match classNames.find? fun known => LineShell.bytes known = name with
    | some known => some (.ok (.members known, rest))
    | none =>
      if name.isEmpty then
        some (.error (LineShell.bytes "missing character class name '[::]'"))
      else if isCount (marks.drop 1) then repeated? marks
      else some (.error
        (LineShell.bytes "invalid character class " ++ quoteWord (shownText name)))
  | _, some (inner, rest) =>
    match text inner with
    | [byte] => some (.ok (.alike byte, rest))
    | [] => some (.error (LineShell.bytes "missing equivalence class character '[==]'"))
    | name =>
      if isCount (marks.drop 1) then repeated? marks
      else some (.error (shownText name ++
        LineShell.bytes ": equivalence class operand must be a single character"))
  | none, none => repeated? marks

/-- The set that marks stand for, in so many steps at most. -/
def ofMarks : Nat → List Mark → Except Bytes ByteSet
  | 0, _ => .ok []
  | bound + 1, first :: second :: third :: rest =>
    let later := second :: third :: rest
    let found := if first = { byte := 91 } then bracketed? later else none
    match found with
    | some (.error message) => .error message
    | some (.ok (element, rest)) => do .ok (element :: (← ofMarks bound rest))
    | none =>
      if second ≠ { byte := 45 } then do .ok (.one first.byte :: (← ofMarks bound later))
      else if third.byte < first.byte then
        .error (LineShell.bytes "range-endpoints of '" ++ shownByte first.byte ++ 45 ::
          shownByte third.byte ++ LineShell.bytes "' are in reverse collating sequence order")
      else do .ok (.range first.byte third.byte :: (← ofMarks bound rest))
  | _ + 1, few => .ok (few.map fun mark => .one mark.byte)

/-- The set that a text stands for, with warnings about the text. -/
def ofText (written : Bytes) : Except Bytes ByteSet × List Bytes :=
  let (marks, warnings) := marksWithin (written.length + 1) written
  (ofMarks (marks.length + 1) marks, warnings)

/-- The set with its open element repeated so that the set reaches a length. -/
def fill (set : ByteSet) (length : Nat) : ByteSet :=
  let missing := length - set.bytes.length
  set.map fun
    | .repeated byte none => .repeated byte (some missing)
    | element => element

/-- How far a walk through a set has come: the elements that are left, and how many bytes of the
first of them are behind. -/
structure Walk where
  elements : ByteSet
  offset : Nat := 0
  deriving Repr, Inhabited

/-- The walk without elements that have no bytes. -/
def Walk.settled (walk : Walk) : Walk :=
  if walk.offset > 0 then walk
  else { walk with elements := walk.elements.dropWhile fun element => element.bytes.isEmpty }

/-- The next byte of a walk, its element, and the walk behind the byte. -/
def Walk.next? (walk : Walk) : Option (UInt8 × Element × Walk) :=
  let walk := walk.settled
  match walk.elements with
  | [] => none
  | element :: rest =>
    let bytes := element.bytes
    let after : Walk := if walk.offset + 1 < bytes.length
      then { walk with offset := walk.offset + 1 } else { elements := rest }
    some (bytes.getD walk.offset 0, element, after)

/-- The walk behind the element that a byte has just come from. -/
def Walk.skip (before after : Walk) : Walk :=
  if after.offset > 0 then { elements := before.settled.elements.drop 1 }
  else { elements := after.elements.drop 1 }

end ByteSet

/-- What is to be done with bytes. -/
structure Exchange where
  /-- The bytes that are not in the first set are meant. -/
  complement : Bool := false
  deletes : Bool := false
  squeezes : Bool := false
  /-- The first set is as short as the second one. -/
  truncates : Bool := false
  deriving DecidableEq, Repr, Inhabited

namespace Exchange

open ByteSet (Walk)

/-- The switches of exchanges. -/
def switches : List Switch :=
  Usage.plainSwitches [("c", "complement"), ("C", ""), ("d", "delete"), ("s", "squeeze-repeats"),
    ("t", "truncate-set1")]

/-- What a switch changes. -/
def take (exchange : Exchange) (given : Given) : Except Refusal Exchange :=
  .ok (match given.key with
  | "d" => { exchange with deletes := true }
  | "s" => { exchange with squeezes := true }
  | "t" => { exchange with truncates := true }
  | _ => { exchange with complement := true })

/-- The bytes that a first set means. -/
def meant (exchange : Exchange) (set : ByteSet) : Bytes :=
  let members := set.bytes
  if exchange.complement then ByteSet.allBytes.filter fun byte => !members.contains byte
  else members

/-- The lengths of two sets in which a case of letters counts as one place where it stands opposite
to a case; or what is wrong with the places of the cases. -/
def lengths : Nat → Walk → Walk → Bool → Bool → Int → Int → Except Bytes (Int × Int)
  | 0, _, _, _, _, length, other => .ok (length, other)
  | bound + 1, first, second, fresh, freshToo, length, other =>
    let next := first.next?
    let next' := second.next?
    let isCase := next'.any fun (_, element, _) => element.isCase
    let isCaseToo := next.any fun (_, element, _) => element.isCase
    if freshToo && isCase && !(fresh && isCaseToo) then
      .error (bytes "misaligned [:upper:] and/or [:lower:] construct")
    else match next, next' with
      | some (_, _, after), some (_, _, after') =>
        if isCase then
          lengths bound (first.skip after) (second.skip after') true true (length - 25)
            (other - 25)
        else
          lengths bound after after' (after.offset = 0) (after'.offset = 0) length other
      | _, _ => .ok (length, other)

/-- The second set as it is exchanged for the first one; or what is wrong with them. -/
def prepare (exchange : Exchange) (first second : ByteSet) : Except Bytes ByteSet := do
  let length := (exchange.meant first).length
  if (second.filter ByteSet.isOpen).length > 1 then
    .error (bytes "only one [c*] repeat construct may appear in string2")
  let second := second.fill length
  if second.any fun element => element matches .alike _ then
    .error (bytes "[=c=] expressions may not appear in string2 when translating")
  if second.any fun element => element.isClass && !element.isCase then
    .error (bytes ("when translating, the only character classes that may appear in\n" ++
      "string2 are 'upper' and 'lower'"))
  let size := second.bytes.length
  let (length, size') ←
    if exchange.complement || !second.any (·.isClass) then pure ((length : Int), (size : Int))
    else
      lengths (length + size + 2) { elements := first } { elements := second } true true length size
  let second ←
    if length ≤ size' || exchange.truncates then pure second
    else match second.getLast? with
      | none => .error (bytes "when not truncating set1, string2 must be non-empty")
      | some last =>
        if second.bytes.isEmpty then
          .error (bytes "when not truncating set1, string2 must be non-empty")
        else if last.isClass then
          .error (bytes ("when translating with string1 longer than string2,\nthe latter string " ++
            "must not end with a character class"))
        else
          let byte := match last with
            | .repeated byte _ => byte
            | _ => last.bytes.getLastD 0
          pure (second ++ [.repeated byte (some (length - size').toNat)])
  if exchange.complement && first.any (·.isClass) then
    let target := second.bytes
    if target.length ≠ length.toNat || target.any (· ≠ target.headD 0) then
      .error (bytes ("when translating with complemented character classes,\n" ++
        "string2 must map all characters in the domain to one"))
  pure second

/-- What each byte becomes, the later entries first. -/
def pairs : Nat → Walk → Walk → List (UInt8 × UInt8) → List (UInt8 × UInt8)
  | 0, _, _, table => table
  | bound + 1, first, second, table =>
    match first.next?, second.next? with
    | some (source, element, after), some (target, element', after') =>
      if element.isCase && element'.isCase then
        -- Letters of one and the same case stay as they are.
        let letters := if element = element' then [(source, target)]
          else element.bytes.zip element'.bytes
        pairs bound (first.skip after) (second.skip after') (letters.reverse ++ table)
      else pairs bound after after' ((source, target) :: table)
    | _, _ => table

/-- What each byte is exchanged for. -/
def table (exchange : Exchange) (first second : ByteSet) : Array UInt8 :=
  let source := exchange.meant first
  let entries := if exchange.complement then (source.zip second.bytes).reverse
    else pairs (source.length + second.bytes.length + 2) { elements := first }
      { elements := second } []
  (ByteSet.allBytes.map fun byte => (entries.lookup byte).getD byte).toArray

/-- Which bytes are in a set. -/
def membership (members : Bytes) : Array Bool :=
  (ByteSet.allBytes.map members.contains).toArray

/-- What becomes of bytes: what they are turned into, which are dropped, and of which only one is
kept where there are several in a row. -/
structure Rule where
  turned : Array UInt8 := #[]
  dropped : Array Bool := #[]
  squeezed : Array Bool := #[]
  deriving Inhabited

/-- What some bytes become, given the last one before them, and the last one of all. -/
def Rule.apply (rule : Rule) (data : Bytes) (last : Option UInt8) : Bytes × Option UInt8 :=
  let (kept, last) := data.foldl (fun (kept, last) byte =>
    if rule.dropped.getD byte.toNat false then (kept, last)
    else
      let byte := rule.turned.getD byte.toNat byte
      if last = some byte && rule.squeezed.getD byte.toNat false then (kept, last)
      else (byte :: kept, some byte)) (([] : Bytes), last)
  (kept.reverse, last)

/-- What becomes of bytes; or what is wrong with the sets. -/
def rule (exchange : Exchange) (first : ByteSet) (second : Option ByteSet) : Except Bytes Rule := do
  if first.any ByteSet.isOpen then
    .error (bytes "the [c*] repeat construct may not appear in string1")
  let source := exchange.meant first
  match second with
  | none =>
    if exchange.deletes then pure { dropped := membership source }
    else pure { squeezed := membership source }
  | some second =>
    if exchange.deletes then
      if (second.filter ByteSet.isOpen).length > 1 then
        .error (bytes "only one [c*] repeat construct may appear in string2")
      else if second.any ByteSet.isOpen then
        .error (bytes "the [c*] construct may appear in string2 only when translating")
      else pure { dropped := membership source, squeezed := membership second.bytes }
    else do
      let second ← exchange.prepare first second
      let turned := exchange.table first second
      pure { turned, squeezed := if exchange.squeezes then membership second.bytes else #[] }

/-- Copies the input to the output by a rule. -/
def copy (invocation : Invocation) (rule : Rule) : Task UInt8 := do
  let result ← Task.iterate (none : Option UInt8) fun last => do
    match ← Task.request (.read 0 8192) with
    | .error cause =>
      complain invocation (bytes ("read error: " ++ cause.text))
      pure (.inr (1 : UInt8))
    | .ok [] => pure (.inr 0)
    | .ok data =>
      let (data, last) := rule.apply data last
      outputBlock invocation data
      pure (.inl last)
  if result ≠ 0 then pure result
  else match ← Task.request (.close 0) with
    | .ok () => pure 0
    | .error cause =>
      complain invocation (bytes ("standard input: " ++ cause.text))
      pure 1

/-- The sets that texts stand for, up to the first that is wrong. Warnings are shown. -/
def readSets (invocation : Invocation) : List Bytes → Task (Except Bytes (List ByteSet))
  | [] => pure (.ok [])
  | text :: rest => do
    let (result, warnings) := ByteSet.ofText text
    warnings.forM (complain invocation)
    match result with
    | .error message => pure (.error message)
    | .ok set => do pure ((← readSets invocation rest).map (set :: ·))

/-- What is wrong with the number of operands. -/
def countFault? (exchange : Exchange) (operands : List Bytes) : Option (Bytes × Option Bytes) :=
  let least := if exchange.deletes = exchange.squeezes then 2 else 1
  let most := if exchange.deletes && !exchange.squeezes then 1 else 2
  let reason := if exchange.squeezes
    then "Two strings must be given when both deleting and squeezing repeats."
    else "Two strings must be given when translating."
  if operands.length < least then
    match operands.getLast? with
    | none => some (bytes "missing operand", none)
    | some last => some (bytes "missing operand after " ++ quoteWord last, some (bytes reason))
  else match operands.drop most with
    | [] => none
    | extra :: _ =>
      let reason := "Only one string may be given when deleting without squeezing repeats."
      some (bytes "extra operand " ++ quoteWord extra,
        if operands.length = 2 then some (bytes reason) else none)

/-- Shows the input with its bytes exchanged, dropped or squeezed. -/
def run (invocation : Invocation) (exchange : Exchange) (operands : List Bytes) : Task UInt8 := do
  match exchange.countFault? operands with
  | some (message, reason) =>
    complain invocation message
    if let some reason := reason then discard (Task.writeAll 2 (reason ++ [10]))
    adviseHelp invocation 1
  | none =>
    let rule ← do
      match ← readSets invocation operands with
      | .error message => pure (.error message)
      | .ok sets => pure (exchange.rule (sets.headD []) sets[1]?)
    match rule with
    | .error message =>
      complain invocation message
      pure 1
    | .ok rule => copy invocation rule

end Exchange

/-- The input with its bytes exchanged, dropped or squeezed. -/
def tr : Work :=
  Usage.work { switches := Exchange.switches, mixed := false, take := Exchange.take } {}
    Exchange.run

end LineShell.Programs
