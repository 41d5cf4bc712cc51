import LineShell.Script.Mark

/-! Reading words: where they end, and what the bytes in them mean between which quotes. -/

namespace LineShell.Script.Reader

/-- What bytes mean in a part of a word. -/
inductive Mode
  | bare
  | double
  | single
  | arithmetic
  deriving DecidableEq, Repr, Inhabited

/-- A part of a word that has rules of its own. -/
structure Level where
  mode : Mode := .bare
  /-- Quotes are open that were opened behind the name of a parameter. -/
  innerQuoted : Bool := false
  /-- The part began with a parameter and ends with it. -/
  ofParameter : Bool := false
  /-- The part lies between double quotes. -/
  quoted : Bool := false
  /-- How many parameters have been begun. -/
  braces : Nat := 0
  /-- How many of these were begun between double quotes. -/
  quotedBraces : Nat := 0
  /-- How many parentheses are open in an expression. -/
  parentheses : Nat := 0
  deriving DecidableEq, Repr, Inhabited

/-- A word on the way, its marks in reverse order. -/
structure Draft where
  level : Level := {}
  /-- The parts around that part. -/
  outer : List Level := []
  marks : List Mark := []
  quoted : Bool := false
  deriving Inhabited

namespace Draft

/-- The draft with one more mark. -/
def add (draft : Draft) (mark : Mark) : Draft :=
  { draft with marks := mark :: draft.marks }

/-- The draft in a new part. -/
def enter (draft : Draft) (level : Level) : Draft :=
  { draft with level, outer := draft.level :: draft.outer }

/-- The draft behind the part. -/
def leave (draft : Draft) : Draft :=
  match draft.outer with
  | level :: outer => { draft with level, outer }
  | [] => draft

end Draft

/-- The bytes that stand for themselves between double quotes, where the whole word could give
them a meaning. -/
def isGuarded (byte : UInt8) : Bool :=
  (bytes "!*?[=~:/-]").contains byte

/-- The bytes that mean something to the reader itself, and are guarded everywhere. -/
def isReserved (byte : UInt8) : Bool :=
  0x81 ≤ byte && byte ≤ 0x88

/-- The bytes that end a word where nothing is quoted. -/
def endsWord (byte : UInt8) : Bool :=
  (bytes "<>();&| \t").contains byte

/-- The next byte for a part of a word. Between single quotes no lines are joined. -/
def byteFor (draft : Draft) : Reader (Option UInt8) :=
  if draft.level.mode = .single then byte else joined

/-- Takes bytes as long as they are in a class. Gives them, and the first that is not. -/
def takeWhile (inClass : UInt8 → Bool) : Nat → Bytes → Option UInt8 → Reader (Bytes × Option UInt8)
  | 0, taken, next => return (taken.reverse, next)
  | bound + 1, taken, next => do
    match next with
    | some byte =>
      if inClass byte then takeWhile inClass bound (byte :: taken) (← joined)
      else return (taken.reverse, next)
    | none => return (taken.reverse, none)

/-- What is done with a parameter, as far as a single byte behind its name tells. -/
def changeOf? (byte : Option UInt8) : Option Change :=
  match byte with
  | some 125 => some .keep
  | some 45 => some .otherwise
  | some 43 => some .instead
  | some 63 => some .demand
  | some 61 => some .assign
  | _ => none

/-- What stands behind the name of a parameter: the change, and whether it is about empty values
too. -/
def readChange (next : Option UInt8) : Reader (Change × Bool) := do
  match next with
  | some 58 => return ((changeOf? (← joined)).getD .malformed, true)
  | some 37 | some 35 =>
    let after ← joined
    if after = next then return (.cut (next = some 37) true, false)
    else
      unread after
      return (.cut (next = some 37) false, false)
  | _ => return ((changeOf? next).getD .malformed, false)

/-- The name of a parameter between braces, and the byte behind it; nothing if there is none. -/
def readName (first : Option UInt8) : Reader (Option (Bytes × Option UInt8)) := do
  match first with
  | some byte =>
    if startsName byte then return some (← takeWhile inName mostBytes [] first)
    else if isDigit byte then return some (← takeWhile isDigit mostBytes [] first)
    else return none
  | none => return none

/-- Begins a parameter whose name has been read, with something behind it. -/
def beginParameter (draft : Draft) (name : Bytes) (change : Change) (orEmpty : Bool) : Draft :=
  let isCut := match change with
    | .cut .. => true
    | _ => false
  let mode := if isCut then .bare
    else if draft.level.mode = .arithmetic then .double else draft.level.mode
  let draft :=
    if mode ≠ draft.level.mode || draft.level.innerQuoted then
      draft.enter { mode, ofParameter := true, quoted := mode ≠ .bare }
    else draft
  let level := draft.level
  let quotedBraces := if level.quoted then level.quotedBraces + 1 else level.quotedBraces
  { draft with level := { level with braces := level.braces + 1, quotedBraces } }.add
    (.start name change orEmpty)

/-- Reads what stands behind the name of a parameter between braces. -/
def readBehind (draft : Draft) (name : Bytes) (next : Option UInt8) : Reader Draft := do
  match ← readChange next with
  | (.keep, false) => return draft.add (.parameter name)
  | (change, orEmpty) => return beginParameter draft name change orEmpty

/-- Reads a parameter behind its opening brace and the sign for a length. -/
def readLength (draft : Draft) : Reader Draft := do
  let first ← joined
  match ← readName first with
  | some (name, next) =>
    unread next
    return beginParameter draft name (if next = some 125 then .length else .malformed) false
  | none =>
    let next ← joined
    match first, next with
    | some special, some 125 =>
      if special = 125 then
        unread next
        readBehind draft [35] first
      else
        unread next
        if isSpecialParameter special then return beginParameter draft [special] .length false
        else return beginParameter draft [] .malformed false
    | _, _ =>
      unread next
      readBehind draft [35] first

/-- Reads a parameter behind its opening brace. -/
def readBraces (draft : Draft) : Reader Draft := do
  let first ← joined
  match ← readName first with
  | some (name, next) => readBehind draft name next
  | none =>
    match first with
    | some 125 | none =>
      unread first
      return beginParameter draft [] .malformed false
    | some 35 => readLength draft
    | some special =>
      let next ← joined
      if isSpecialParameter special then readBehind draft [special] next
      else
        unread next
        return beginParameter draft [] .malformed false

/-- Reads a parameter, an expression or a command behind a dollar sign. -/
def readDollar (inner : Reader Command) (draft : Draft) : Reader Draft := do
  let next ← joined
  let asIs := do
    unread next
    return draft.add (.plain 36)
  if (← get).watch.mark then asIs
  else match next with
    | some 40 =>
      let after ← joined
      if after = some 40 then
        return (draft.enter { mode := .arithmetic, quoted := true }).add .expression
      else
        unread after
        return draft.add (.output (← inner))
    | some 123 => readBraces draft
    | some byte =>
      if startsName byte then
        let (name, after) ← takeWhile inName mostBytes [] next
        unread after
        return draft.add (.parameter name)
      else if isSpecialParameter byte then return draft.add (.parameter [byte])
      else asIs
    | none => asIs

/-- The text between two backquotes, with the backslashes taken out that only protect it. -/
def backquoted (quoted : Bool) : Nat → Bytes → Reader Bytes
  | 0, text => return text.reverse
  | bound + 1, text => do
    match ← joined with
    | none => fail "EOF in backquote substitution"
    | some 96 => return text.reverse
    | some 92 =>
      match ← byte with
      | none => fail "EOF in backquote substitution"
      | some next =>
        let protected_ := next == 92 || next == 96 || next == 36 || (quoted && next == 34)
        backquoted quoted bound (if protected_ then next :: text else next :: 92 :: text)
    | some next =>
      if next = 10 then countLine
      backquoted quoted bound (next :: text)

/-- Whether the text that ends with a mark ends here: the line is the mark. If it is not, what was
read is given back but for the first byte, which is the result. -/
def atMark (announcement : Announcement) (first : Option UInt8) :
    Reader (Option UInt8) := do
  let first ← if announcement.stripped then skipTabs mostBytes first else pure first
  let (found, rest) ← compare announcement.mark [] first
  if found then
    countLine
    return none
  else
    if !rest.isEmpty then
      modify fun state => { state with source := state.source.insert rest none }
    return first
where
  /-- Leaves out tabs. -/
  skipTabs : Nat → Option UInt8 → Reader (Option UInt8)
    | 0, next => return next
    | bound + 1, next => do
      if next = some 9 then skipTabs bound (← byte) else return next
  /-- Compares what comes with the rest of the mark. Gives what has been read after the first
  byte. -/
  compare : Bytes → Bytes → Option UInt8 → Reader (Bool × Bytes)
    | [], read, next => return (next = some 10 || next = none, (read.reverse ++ next.toList).drop 1)
    | expected :: mark, read, next => do
      if next = some expected then compare mark (expected :: read) (← byte)
      else return (false, (read.reverse ++ next.toList).drop 1)

/-- What reading one byte of a word leads to. -/
inductive Step
  | more (draft : Draft)
  /-- The line has ended, and the word goes on. -/
  | line (draft : Draft)
  | done (draft : Draft)

/-- Reads a quoted byte behind a backslash. -/
def readEscape (draft : Draft) (inDocument : Bool) : Reader Draft := do
  match ← byte with
  | none =>
    unread none
    return draft.add (.literal 92)
  | some next =>
    let level := draft.level
    let kept := level.quoted && next != 92 && next != 96 && next != 36 &&
      (next != 34 || (inDocument && level.braces = 0)) && (next != 125 || level.braces = 0)
    let draft := if kept then draft.add (.literal 92) else draft
    return { draft.add (.literal next) with quoted := true }

/-- Opens or closes quotes: behind the name of a parameter they may count twice. -/
def toggleQuotes (draft : Draft) (double inDocument : Bool) : Draft :=
  let level := draft.level
  let level := if double && level.braces ≠ 0 then
      { level with innerQuoted := !level.innerQuoted } else level
  let draft := { draft with level }
  if inDocument then draft else draft.add .quote

/-- Ends a quoted part with the quote that it was opened with. -/
def closeQuotes (draft : Draft) (double inDocument : Bool) : Draft :=
  let level := draft.level
  let level := if level.quotedBraces = 0 then { level with mode := .bare, quoted := false }
    else level
  toggleQuotes { draft with level, quoted := true } double inDocument

/-- Ends the word behind the name of a parameter. -/
def closeBrace (draft : Draft) : Draft :=
  let level := { draft.level with braces := draft.level.braces - 1 }
  let draft := { draft with level }
  let draft := if level.braces = 0 && level.ofParameter then draft.leave
    else { draft with level := { level with quotedBraces := level.quotedBraces - 1 } }
  draft.add .stop

/-- Reads one byte of a word, where it has a meaning. -/
def step (inner : Reader Command) (backquote : Bool → Reader Command) (inDocument : Bool)
    (draft : Draft) (next : UInt8) : Reader Step := do
  let level := draft.level
  let mode := level.mode
  let guard : Mark := if !inDocument || level.quoted then .literal next else .plain next
  if isReserved next then return .more (draft.add guard)
  else match Char.ofNat next.toNat with
    | '\n' =>
      if mode = .bare && level.braces = 0 then return .done draft
      else
        countLine
        return .line (draft.add (.plain 10))
    | '\'' =>
      if mode = .bare then
        return .more (toggleQuotes { draft with level := { level with mode := .single } } false
          inDocument)
      else if mode ≠ .single then return .more (draft.add (.plain next))
      else if inDocument && level.braces = 0 then return .more (draft.add (.plain next))
      else return .more (closeQuotes draft false inDocument)
    | '"' =>
      if mode = .bare then
        let level := { level with mode := .double, quoted := true }
        return .more (toggleQuotes { draft with level } true inDocument)
      else if mode ≠ .double then return .more (draft.add (.plain next))
      else if inDocument && level.braces = 0 then return .more (draft.add (.plain next))
      else return .more (closeQuotes draft true inDocument)
    | other =>
      if mode = .single then
        let isSpecial := isGuarded next || next = 92
        return .more (draft.add (if isSpecial then guard else .plain next))
      else match other with
        | '\\' => return .more (← readEscape draft inDocument)
        | '$' => return .more (← readDollar inner draft)
        | '`' =>
          if (← get).watch.mark then return .more (draft.add (.plain next))
          else return .more (draft.add (.output (← backquote level.quoted)))
        | '}' =>
          if !level.innerQuoted && level.braces > 0 then return .more (closeBrace draft)
          else return .more (draft.add (.plain next))
        | _ =>
          match mode with
          | .bare =>
            if endsWord next && level.braces = 0 then return .done draft
            else return .more (draft.add (.plain next))
          | .arithmetic =>
            if next = 40 then
              let level := { level with parentheses := level.parentheses + 1 }
              return .more ({ draft with level }.add (.plain next))
            else if next ≠ 41 then return .more (draft.add (.plain next))
            else if level.parentheses > 0 then
              let level := { level with parentheses := level.parentheses - 1 }
              return .more ({ draft with level }.add (.plain next))
            else
              let after ← joined
              if after = some 41 then return .more (draft.leave.add .endExpression)
              else
                unread after
                return .more (draft.add (.plain next))
          | _ => return .more (draft.add (if isGuarded next then guard else .plain next))

/-- Reads a word up to a byte that does not belong to it, and gives that byte. -/
def readDraft (inner : Reader Command) (backquote : Bool → Reader Command)
    (announcement : Option Announcement) :
    Nat → Bool → Draft → Option UInt8 → Reader (Draft × Option UInt8)
  | 0, _, draft, next => return (draft, next)
  | bound + 1, atStart, draft, next => do
    let next ← match announcement with
      | some announcement => if atStart then atMark announcement next else pure next
      | none => pure next
    match next with
    | none => return (draft, none)
    | some byte =>
      match ← step inner backquote announcement.isSome draft byte with
      | .done draft => return (draft, next)
      | .more draft =>
        readDraft inner backquote announcement bound false draft (← byteFor draft)
      | .line draft =>
        readDraft inner backquote announcement bound true draft (← byteFor draft)

/-- Fails if a word has ended in the middle of something. -/
def checkEnd (draft : Draft) (inDocument : Bool) : Reader Unit := do
  if draft.level.mode = .arithmetic then fail "Missing '))'"
  else if draft.level.mode ≠ .bare && !inDocument then fail "Unterminated quoted string"
  else if draft.level.braces ≠ 0 then fail "Missing '\x7d'"

/-- The redirection that begins with an angle bracket. -/
def readRedirection (input : Bool) : Reader Redirection := do
  let next ← joined
  if input then
    match next with
    | some 60 =>
      let after ← joined
      if after = some 45 then return .inline true
      else
        unread after
        return .inline false
    | some 38 => return .copy
    | some 62 => return .file .updating false
    | _ =>
      unread next
      return .file .reading false
  else match next with
    | some 62 => return .file .extending false
    | some 124 => return .file .replacing false
    | some 38 => return .copy
    | _ =>
      unread next
      return .file .replacing true

/-- The descriptor in front of an angle bracket, if there is nothing else in front of it. -/
def descriptorOf? (draft : Draft) (input : Bool) : Option Nat :=
  match draft.marks with
  | [] => some (if input then 0 else 1)
  | [.plain byte] => if isDigit byte then some (byte.toNat - 48) else none
  | _ => none

/-- Reads a word or a redirection that begins with a byte. -/
def readWord (inner : Reader Command) (backquote : Bool → Reader Command)
    (first : Option UInt8) : Reader Symbol := do
  let (draft, next) ← readDraft inner backquote none mostBytes true {} first
  checkEnd draft false
  let input := next = some 60
  match if (input || next = some 62) && !draft.quoted then descriptorOf? draft input else none with
  | some descriptor =>
    let redirection ← readRedirection input
    modify fun state => { state with redirection := (descriptor, redirection) }
    return .redirect
  | none =>
    unread next
    modify fun state => { state with
      word := Mark.toWord draft.marks.reverse
      quoted := draft.quoted }
    return .word

/-- Reads a text that has been announced. -/
def readDocument (inner : Reader Command) (backquote : Bool → Reader Command)
    (announcement : Announcement) : Reader Unit := do
  let mode : Mode := if announcement.expanded then .double else .single
  let draft : Draft := { level := { mode, quoted := announcement.expanded } }
  let first ← byteFor draft
  let (draft, _) ← readDraft inner backquote (some announcement) mostBytes true draft first
  checkEnd draft true
  let content := Mark.toWord draft.marks.reverse
  modify fun state => { state with
    word := content
    quoted := draft.quoted
    documents :=
      (announcement.number, { content, expanded := announcement.expanded }) :: state.documents }

end LineShell.Script.Reader
