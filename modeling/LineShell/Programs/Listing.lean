import LineShell.Programs.Columns
import LineShell.Programs.Mode
import LineShell.Programs.Order
import LineShell.Programs.Places
import LineShell.Programs.Report
import LineShell.Script.Pattern

/-! Listing: a program that shows the names of files, and what is known about them. -/

namespace LineShell.Programs

open Reported (request)

/-- How the names of files are arranged. -/
inductive Listing.Arrangement
  | lines
  | columns
  | rows
  | commas
  /-- A line with all that is known about each file. -/
  | details
  deriving DecidableEq, Repr, Inhabited

/-- By what files are ordered. -/
inductive Listing.Ranking
  | none
  | name
  | size
  | time
  | release
  | ending
  | width
  deriving DecidableEq, Repr, Inhabited

/-- How bytes that are not shown, and other special ones, appear in names. -/
inductive Listing.Spelling
  | literal
  /-- Between quotes for a shell, if that is needed. -/
  | shell
  | shellAlways
  /-- The same, with other bytes as numbers. -/
  | shellEscaped
  | shellEscapedAlways
  /-- Between double quotes, with backslashes. -/
  | quoted
  | quotedIfNeeded
  | escaped
  /-- Between single quotes, with backslashes. -/
  | spoken
  | quotedAlike
  deriving DecidableEq, Repr, Inhabited

/-- Which signs stand behind names. -/
inductive Listing.Signs
  | none
  | directories
  | kinds
  | all
  deriving DecidableEq, Repr, Inhabited

/-- Which links are followed. -/
inductive Listing.Following
  | none
  | toDirectories
  | operands
  | all
  deriving DecidableEq, Repr, Inhabited

/-- Which of the names in directories are shown that begin with a dot. -/
inductive Listing.Discretion
  | all
  /-- Only those that stand for directories themselves are hidden. -/
  | dots
  | nothing
  deriving DecidableEq, Repr, Inhabited

/-- What is done only if there is a terminal. -/
inductive Listing.Occasion
  | always
  | never
  | terminal
  deriving DecidableEq, Repr, Inhabited

/-- In which units numbers of bytes are shown. -/
inductive Listing.Scale
  | plain
  /-- With a letter for a power of 1024. -/
  | binary
  /-- With a letter for a power of 1000. -/
  | decimal
  deriving DecidableEq, Repr, Inhabited

/-- How files are listed. -/
structure Listing where
  arrangement : Listing.Arrangement := .lines
  ranking : Option Listing.Ranking := .none
  /-- Another time is meant than that of the last change. -/
  timed : Bool := false
  reversed : Bool := false
  discretion : Listing.Discretion := .all
  /-- Patterns for names that are left out, and for those that are left out with hidden ones. -/
  ignored : List Bytes := []
  hidden : List Bytes := []
  /-- Directories are shown like files. -/
  flat : Bool := false
  recursive : Bool := false
  spelling : Listing.Spelling := .literal
  /-- Question marks stand for bytes that are not shown. -/
  masked : Bool := false
  signs : Listing.Signs := .none
  following : Option Listing.Following := .none
  owner : Bool := true
  group : Bool := true
  author : Bool := false
  context : Bool := false
  numeric : Bool := false
  numbers : Bool := false
  /-- The space that files take up is shown. -/
  blocks : Bool := false
  scale : Listing.Scale := .plain
  /-- Directories come before other files. -/
  directoriesFirst : Bool := false
  width : Nat := 80
  stop : Nat := 8
  ending : UInt8 := 10
  deriving DecidableEq, Repr, Inhabited

namespace Listing

/-- The exit code for operands that cannot be listed. -/
def failure : UInt8 := 2

/-- The switches of listing. -/
def switches : List Switch :=
  Usage.plainSwitches [("a", "all"), ("b", "escape"), ("d", "directory"), ("D", "dired"),
    ("full", "full-time"), ("first", "group-directories-first"), ("h", "human-readable"),
    ("i", "inode"), ("k", "kibibytes"), ("n", "numeric-uid-gid"), ("G", "no-group"),
    ("q", "hide-control-chars"), ("r", "reverse"), ("s", "size")] ++
  [{ key := "w", word := "width", demand := .value }] ++
  Usage.plainSwitches [("A", "almost-all"), ("B", "ignore-backups")] ++
  [{ key := "classify", word := "classify", demand := .optional }] ++
  Usage.plainSwitches [("files", "file-type"), ("si", "si"), ("H", "dereference-command-line"),
    ("links", "dereference-command-line-symlink-to-dir")] ++ [
    { key := "hide", word := "hide", demand := .value },
    { key := "I", word := "ignore", demand := .value },
    { key := "signs", word := "indicator-style", demand := .value }] ++
  Usage.plainSwitches [("L", "dereference"), ("N", "literal"), ("Q", "quote-name")] ++
  [{ key := "style", word := "quoting-style", demand := .value },
    { key := "R", word := "recursive" },
    { key := "format", word := "format", demand := .value },
    { key := "show", word := "show-control-chars" },
    { key := "sort", word := "sort", demand := .value },
    { key := "T", word := "tabsize", demand := .value },
    { key := "time", word := "time", demand := .value },
    { key := "other", word := "time-style", demand := .value }, { key := "zero", word := "zero" },
    { key := "color", word := "color", demand := .optional },
    { key := "hyperlink", word := "hyperlink", demand := .optional },
    { key := "other", word := "block-size", demand := .value }, { key := "Z", word := "context" },
    { key := "author", word := "author" }] ++
  Usage.plainSwitches [("c", ""), ("C", ""), ("f", ""), ("F", ""), ("g", ""), ("l", ""), ("m", ""),
    ("o", ""), ("p", ""), ("S", ""), ("t", ""), ("u", ""), ("U", ""), ("v", ""), ("x", ""),
    ("X", ""),
    ("1", "")]

/-- The words for when something is done that depends on a terminal. -/
def occasionNames : List (String × Occasion) :=
  [("always", .always), ("yes", .always), ("force", .always), ("never", .never), ("no", .never),
    ("none", .never), ("auto", .terminal), ("tty", .terminal), ("if-tty", .terminal)]

/-- The words for arrangements. -/
def arrangementNames : List (String × Arrangement) :=
  [("verbose", .details), ("long", .details), ("commas", .commas), ("horizontal", .rows),
    ("across", .rows), ("vertical", .columns), ("single-column", .lines)]

/-- The words for orders. -/
def rankingNames : List (String × Ranking) :=
  [("none", .none), ("time", .time), ("size", .size), ("extension", .ending),
    ("version", .release), ("width", .width)]

/-- The words for times, with numbers for them. -/
def timeNames : List (String × Nat) :=
  [("atime", 0), ("access", 0), ("use", 0), ("ctime", 1), ("status", 1), ("mtime", 2),
    ("modification", 2), ("birth", 3), ("creation", 3)]

/-- The words for signs. -/
def signNames : List (String × Signs) :=
  [("none", .none), ("slash", .directories), ("file-type", .kinds), ("classify", .all)]

/-- The words for spellings. -/
def spellingNames : List (String × Spelling) :=
  [("literal", .literal), ("shell", .shell), ("shell-always", .shellAlways),
    ("shell-escape", .shellEscaped), ("shell-escape-always", .shellEscapedAlways),
    ("c", .quoted), ("c-maybe", .quotedIfNeeded), ("escape", .escaped), ("locale", .spoken),
    ("clocale", .quotedAlike)]

/-- The number that the value of a switch stands for, with a prefix for its base. -/
def numberIn (what : String) (value : Bytes) : Except Refusal Nat :=
  let text := match value.dropWhile isGap with
    | 43 :: rest => rest
    | rest => rest
  match Numeral.leading? text with
  | some (number, length) =>
    if length = text.length then .ok number
    else .error { message := bytes (what ++ ": ") ++ quoteWord value }
  | none => .error { message := bytes (what ++ ": ") ++ quoteWord value }

/-- What a switch changes. -/
def take (listing : Listing) (given : Given) : Except Refusal Listing := do
  let value := given.value.getD []
  match given.key with
  | "a" => pure { listing with discretion := .nothing }
  | "A" => pure { listing with discretion := .dots }
  | "b" => pure { listing with spelling := .escaped }
  | "B" => pure { listing with ignored := listing.ignored ++ [bytes "*~", bytes ".*~"] }
  | "C" => pure { listing with arrangement := .columns }
  | "d" => pure { listing with flat := true }
  | "f" => pure { listing with
      discretion := .nothing, ranking := some .none, blocks := false
      arrangement := if listing.arrangement = .details then .lines else listing.arrangement }
  | "F" => pure { listing with signs := .all }
  | "g" => pure { listing with arrangement := .details, owner := false }
  | "G" => pure { listing with group := false }
  | "h" => pure { listing with scale := .binary }
  | "si" => pure { listing with scale := .decimal }
  | "H" => pure { listing with following := some .operands }
  | "links" => pure { listing with following := some .toDirectories }
  | "i" => pure { listing with numbers := true }
  | "l" | "full" => pure { listing with arrangement := .details }
  | "L" => pure { listing with following := some .all }
  | "m" => pure { listing with arrangement := .commas }
  | "n" => pure { listing with arrangement := .details, numeric := true }
  | "N" => pure { listing with spelling := .literal }
  | "o" => pure { listing with arrangement := .details, group := false }
  | "p" => pure { listing with signs := .directories }
  | "files" => pure { listing with signs := .kinds }
  | "q" => pure { listing with masked := true }
  | "show" => pure { listing with masked := false }
  | "Q" => pure { listing with spelling := .quoted }
  | "r" => pure { listing with reversed := true }
  | "R" => pure { listing with recursive := true }
  | "s" => pure { listing with blocks := true }
  | "S" => pure { listing with ranking := some .size }
  | "t" => pure { listing with ranking := some .time }
  | "U" => pure { listing with ranking := some .none }
  | "v" => pure { listing with ranking := some .release }
  | "X" => pure { listing with ranking := some .ending }
  | "x" => pure { listing with arrangement := .rows }
  | "1" => pure { listing with
      arrangement := if listing.arrangement = .details then .details else .lines }
  | "zero" => pure { listing with
      arrangement := if listing.arrangement = .details then .details else .lines
      spelling := .literal, masked := false, ending := 0 }
  | "first" => pure { listing with directoriesFirst := true }
  | "c" | "u" => pure { listing with timed := true }
  | "Z" => pure { listing with context := true }
  | "author" => pure { listing with author := true }
  | "I" => pure { listing with ignored := listing.ignored ++ [value] }
  | "hide" => pure { listing with hidden := listing.hidden ++ [value] }
  | "w" => do pure { listing with width := ← numberIn "invalid line width" value }
  | "T" => do pure { listing with stop := ← numberIn "invalid tab size" value }
  | "color" | "hyperlink" => do
    if let some name := given.value then
      discard (Usage.choose ("--" ++ given.key) occasionNames name)
    pure listing
  | "classify" => do
    let occasion ← match given.value with
      | some name => Usage.choose "--classify" occasionNames name
      | none => pure .always
    pure (if occasion = .always then { listing with signs := .all } else listing)
  | "format" => do
    pure { listing with arrangement := ← Usage.choose "--format" arrangementNames value }
  | "sort" => do pure { listing with ranking := some (← Usage.choose "--sort" rankingNames value) }
  | "time" => do
    discard (Usage.choose "--time" timeNames value)
    pure { listing with timed := true }
  | "style" => do
    pure { listing with spelling := ← Usage.choose "--quoting-style" spellingNames value }
  | "signs" => do
    pure { listing with signs := ← Usage.choose "--indicator-style" signNames value }
  | _ => pure listing

/-- Which links are followed. -/
def followed (listing : Listing) : Following :=
  listing.following.getD
    (if listing.flat || listing.signs = .all || listing.arrangement = .details then .none
      else .toDirectories)

/-- By what files are ordered. -/
def ranked (listing : Listing) : Ranking :=
  listing.ranking.getD (if listing.timed && listing.arrangement ≠ .details then .time else .name)

/-- A name with what is known about its file. -/
structure Entry where
  name : Bytes
  facts : Option Facts := none
  /-- The file has been looked at; without that only its kind is known. -/
  isSeen : Bool := false
  /-- What stands behind a link. -/
  behind : Option Facts := none
  deriving Repr, Inhabited

namespace Entry

/-- What stands under the name, as far as that is known. -/
def node? (entry : Entry) : Option Node :=
  entry.facts.map (·.file.node)

/-- Whether an entry is a directory. -/
def isDirectory (entry : Entry) : Bool :=
  entry.node?.any Node.isDirectory

/-- What is known by having looked at the file. -/
def seen? (entry : Entry) : Option Facts :=
  if entry.isSeen then entry.facts else none

/-- The number of bytes of an entry. -/
def size (entry : Entry) : Nat :=
  match entry.seen?.map fun (facts : Facts) => facts.file.node with
  | some (.regular _ content) => content.length
  | some (.link target) => target.utf8ByteSize
  | some (.directory _) => 4096
  | _ => 0

/-- The number of bytes that an entry takes up. -/
def space (entry : Entry) : Nat :=
  match entry.seen?.map fun (facts : Facts) => facts.file.node with
  | some (.regular _ content) => (content.length + 4095) / 4096 * 4096
  | some (.directory _) => 4096
  | _ => 0

/-- The sign behind a name for the kind of its file. -/
def sign (signs : Signs) (node : Node) : Bytes :=
  match node, signs with
  | _, .none => []
  | .directory _, _ => [47]
  | _, .directories => []
  | .link _, _ => [64]
  | .fifo _, _ => [124]
  | .regular mode _, .all => if mode &&& 0o111 ≠ 0 then [42] else []
  | _, _ => []

/-- The sign behind the name of an entry; whether a file can be executed is known by looking at
it. -/
def signOf (signs : Signs) (entry : Entry) : Bytes :=
  let signs := if signs = .all && !entry.isSeen then .kinds else signs
  (entry.node?.map (sign signs)).getD []

end Entry

/-- The ending of a name: what comes from its last dot on. -/
def endingOf (name : Bytes) : Bytes :=
  if name.contains 46 then 46 :: (splitAt 46 name).getLastD [] else []

/-- A name between quotes that a shell takes off, with all bytes in it as they are. -/
def quoteRaw (name : Bytes) : Bytes :=
  if name.contains 39 then
    if Naming.fitsDoubleQuotes name then 34 :: name ++ [34]
    else 39 :: name.flatMap (fun byte => if byte = 39 then bytes "'\\''" else [byte]) ++ [39]
  else 39 :: name ++ [39]

/-- A name as it is shown; in a title a colon is special as well. -/
def spell (listing : Listing) (isTitle : Bool) (name : Bytes) : Bytes :=
  let marks := if isTitle then [58]
    else if listing.signs = .all then bytes "=>@|"
    else if listing.signs = .kinds then bytes "*=>@|"
    else []
  let escape := fun (extra : Bytes) => name.flatMap fun byte =>
    if byte = 92 || extra.contains byte || marks.contains byte then [92, byte]
    else if Naming.isPrintable byte then [byte] else Naming.escaped byte
  let mask := fun (text : Bytes) =>
    if listing.masked then text.map fun byte => if Naming.isPrintable byte then byte else 63
    else text
  let needsQuotes := fun (rest : Bytes) =>
    let rest := if isTitle then rest else rest.filter (· ≠ 58)
    name.isEmpty || (!rest.isEmpty && Naming.needsQuotes rest)
  let isSpace := fun (byte : UInt8) => byte = 9 || byte = 10 || byte = 13
  let visible := name.filter fun byte => Naming.isPrintable byte || isSpace byte
  match listing.spelling with
  | .literal => mask name
  | .shell => mask (if needsQuotes visible then quoteRaw name else name)
  | .shellAlways => mask (quoteRaw name)
  | .shellEscaped => if needsQuotes name then quoteName name else name
  | .shellEscapedAlways => quoteName name
  | .quoted | .quotedAlike => 34 :: escape [34] ++ [34]
  | .quotedIfNeeded =>
    -- A backslash alone does not matter.
    if (escape [34]).filter (· ≠ 92) = name.filter (· ≠ 92) && !name.contains 34 then name
    else 34 :: escape [34] ++ [34]
  | .escaped => escape (if isTitle then [] else [32])
  | .spoken => 39 :: escape [39] ++ [39]

/-- The order of two entries. -/
def order (listing : Listing) (first second : Entry) : Ordering :=
  let byName := compareBytes first.name second.name
  let time := fun (entry : Entry) => (entry.seen?.map (·.file.modified)).getD 0
  let width := fun (entry : Entry) => Naming.width (listing.spell false entry.name)
  let found := match listing.ranked with
    | .name | .none => byName
    | .size => (compare second.size first.size).then byName
    | .time => (compare (time second) (time first)).then byName
    | .release => (Release.order first.name second.name).then byName
    | .ending => (compareBytes (endingOf first.name) (endingOf second.name)).then byName
    | .width => (compare (width first) (width second)).then byName
  let found := if listing.reversed then found.swap else found
  if listing.directoriesFirst then
    let isDirectory := fun (entry : Entry) => entry.isDirectory ||
      entry.behind.any fun facts => facts.file.node.isDirectory
    (compare (isDirectory second).toNat (isDirectory first).toNat).then found
  else found

/-- The entries in order. -/
def sorted (listing : Listing) (entries : List Entry) : List Entry :=
  if listing.ranked = .none then entries
  else entries.mergeSort fun first second => listing.order first second != .gt

/-- A number of bytes with a letter for a power of a unit. -/
def scaledSize (unit : Nat) (size : Nat) : Bytes :=
  let rec go : List Char → Nat → Bytes
    | letter :: letters, power =>
      -- Every number is rounded up.
      let tenths := (size * 10 + power - 1) / power
      let whole := (size + power - 1) / power
      if tenths < 100 then
        digits (tenths / 10) ++ 46 :: digits (tenths % 10) ++ [UInt8.ofNat letter.toNat]
      else if whole < unit then digits whole ++ [UInt8.ofNat letter.toNat]
      else go letters (power * unit)
    | [], _ => digits size
  let letters := if unit = 1000 then "kMGTPEZY" else "KMGTPEZY"
  if size < unit then digits size else go letters.toList unit

/-- A number of bytes as it is shown; a plain one may be counted in other units. -/
def sizeText (listing : Listing) (unit size : Nat) : Bytes :=
  match listing.scale with
  | .plain => digits ((size + unit - 1) / unit)
  | .binary => scaledSize 1024 size
  | .decimal => scaledSize 1000 size

/-- The space that an entry takes up, as it is shown. -/
def spaceText (listing : Listing) (entry : Entry) : Bytes :=
  if entry.isSeen then listing.sizeText 1024 entry.space else [63]

/-- Text at the right end of a field. -/
def alignRight (width : Nat) (text : Bytes) : Bytes :=
  List.replicate (width - text.length) 32 ++ text

/-- Text at the left end of a field. -/
def alignLeft (width : Nat) (text : Bytes) : Bytes :=
  text ++ List.replicate (width - text.length) 32

/-- The length of the longest of some texts. -/
def widest (texts : List Bytes) : Nat :=
  texts.foldl (fun width text => max width text.length) 0

/-- The number of the file of an entry, as it is shown. -/
def numberText (entry : Entry) : Bytes :=
  (entry.facts.map fun facts => digits facts.number).getD [63]

/-- What stands before the names of entries, and the names. A name without quotes stands below those
with quotes if that makes lines straight. -/
def titles (listing : Listing) (entries : List Entry) : List Bytes :=
  let isLoose := listing.arrangement = .commas
  let numberWidth := if isLoose then 0 else widest (entries.map numberText)
  let spaceWidth := if isLoose then 0 else widest (entries.map listing.spaceText)
  let isStraight := match listing.arrangement with
    | .columns | .rows => listing.width ≠ 0
    | .details => true
    | _ => false
  let mayBeQuoted : Bool := listing.spelling matches .shell | .shellEscaped | .quotedIfNeeded
  let isQuoted := fun (entry : Entry) => listing.spell false entry.name ≠ entry.name
  let indents := isStraight && mayBeQuoted && entries.any isQuoted
  entries.map fun entry =>
    (if listing.numbers then alignRight numberWidth (numberText entry) ++ [32] else []) ++
      (if listing.blocks then alignRight spaceWidth (listing.spaceText entry) ++ [32] else []) ++
      (if listing.context then bytes "? " else []) ++
      (if indents && !isQuoted entry then [32] else []) ++ listing.spell false entry.name

/-- The letter for a kind of file. -/
def kindLetter : Node → UInt8
  | .directory _ => 100
  | .regular .. => 45
  | .link _ => 108
  | .fifo _ => 112
  | .device _ => 99

/-- The day and the time that are shown for every file. -/
def stamp : Bytes := bytes "Jan  1 00:00"

/-- Lines with all that is known about some files. -/
def details (listing : Listing) (entries : List Entry) : List Bytes :=
  let column := fun (show_ : Entry → Facts → Bytes) (entry : Entry) =>
    (entry.seen?.map (show_ entry)).getD [63]
  let size := column fun entry _ => listing.sizeText 1 entry.size
  let names := column fun _ facts => digits facts.names
  let owner := column fun _ facts =>
    if listing.numeric then bytes (if facts.file.own then "1000" else "0")
    else bytes (if facts.file.own then "user" else "root")
  let width := fun (texts : Entry → Bytes) => widest (entries.map texts)
  let padded := fun (entry : Entry) =>
    (if listing.numeric then alignRight else alignLeft) (width owner) (owner entry) ++ [32]
  let titled := { listing with numbers := false, blocks := false, context := false }.titles entries
  let numberWidth := widest (entries.map numberText)
  let spaceWidth := widest (entries.map listing.spaceText)
  (entries.zip titled).map fun (entry, title) =>
    let letters := match entry.node?, entry.isSeen with
      | some node, true => Mode.letters (kindLetter node) node.mode
      | node?, _ => (node?.map kindLetter).getD 63 :: List.replicate 9 63
    let target := match entry.node? with
      | some (.link target) => bytes " -> " ++ listing.spell false (bytes target) ++
        (match entry.behind, listing.signs with
          | some facts, .all | some facts, .kinds => Entry.sign listing.signs facts.file.node
          | _, _ => [])
      | _ => []
    let sign : Bytes := match entry.node? with
      | some (.link _) => []
      | _ => entry.signOf listing.signs
    (if listing.numbers then alignRight numberWidth (numberText entry) ++ [32] else []) ++
      (if listing.blocks then alignRight spaceWidth (listing.spaceText entry) ++ [32] else []) ++
      letters ++ [32] ++ alignRight (width names) (names entry) ++ [32] ++
      (if listing.owner then padded entry else []) ++
      (if listing.group then padded entry else []) ++
      (if listing.author then padded entry else []) ++
      (if listing.context then bytes "? " else []) ++
      alignRight (width size) (size entry) ++ [32] ++
      alignRight stamp.length (if entry.isSeen then stamp else [63]) ++ [32] ++ title ++ sign ++
      target

/-- Some files as they are shown. -/
def arrange (listing : Listing) (entries : List Entry) : Bytes :=
  let names := (listing.titles entries).zipWith (fun title entry =>
    title ++ Entry.signOf listing.signs entry) entries
  let byRows := listing.arrangement == .rows
  let layout : Columns := { width := listing.width, stop := listing.stop, byRows }
  let lines := match listing.arrangement with
    | .lines => names
    | .columns | .rows =>
      if listing.width = 0 then Columns.inText 0 32 names
      else layout.lines names
    | .commas => Columns.inText listing.width 44 names
    | .details => listing.details entries
  joinLines lines listing.ending

/-- Says why something could not be listed; an operand makes that serious. -/
def complainAbout (invocation : Invocation) (deed : String) (path : Bytes) (cause : Errno)
    (isSerious : Bool) : Reported Unit := do
  Reported.warn invocation
    (bytes (deed ++ " ") ++ quoteName path ++ bytes (": " ++ cause.text))
  modify fun report => { report with
    code := if isSerious then failure else if report.code = 0 then 1 else report.code }

/-- Whether a file in a directory has to be looked at, of which only its kind is known. -/
def looksAt (listing : Listing) (node : Option Node) : Bool :=
  let always := listing.ranked = .time || listing.ranked = .size || listing.blocks ||
    listing.context || listing.arrangement = .details
  let byKind := listing.recursive || listing.signs ≠ .none || listing.directoriesFirst
  let isLink : Bool := node matches some (.link _)
  let isRegular : Bool := node matches some (.regular ..)
  always || ((listing.numbers || byKind) && isLink && listing.followed = .all) ||
    (byKind && isRegular && listing.signs = .all)

/-- What is known about an operand. -/
def operandEntry (listing : Listing) (path : Bytes) : Task (Except Errno Entry) := do
  let literal := Task.request (.examine path false)
  let full := Task.request (.examine path true)
  let facts ← match listing.followed with
    | .all | .operands => full
    | .toDirectories =>
      match ← full with
      | .ok facts => if facts.file.node.isDirectory then pure (.ok facts) else literal
      | .error cause =>
        if cause = .noEntry || cause = .tooManyLinks then literal else pure (.error cause)
    | .none => literal
  match facts with
  | .error cause => pure (.error cause)
  | .ok facts =>
    let behind ← if facts.file.node matches .link _ then pure (← full).toOption else pure none
    pure (.ok { name := path, facts := some facts, isSeen := true, behind })

/-- What is known about a name in a directory. -/
def entryIn (listing : Listing) (invocation : Invocation) (directory name : Bytes) :
    Reported Entry := do
  let path := inside directory name
  let literal ← request (.examine path false)
  let known := literal.toOption
  let node := known.map (·.file.node)
  let behind ← if node matches some (.link _) then do
      pure (← request (.examine path true)).toOption else pure none
  if !listing.looksAt node then return { name, facts := known, behind }
  let facts ← if listing.followed = .all then request (.examine path true) else pure literal
  match facts with
  | .ok facts => pure { name, facts := some facts, isSeen := true, behind }
  | .error cause =>
    complainAbout invocation "cannot access" (if directory = [46] then name else path) cause false
    pure { name, facts := known }

/-- Whether a name matches one of some patterns; a dot at its start is matched by a dot only. -/
def matchesAny (patterns : List Bytes) (name : Bytes) : Bool :=
  patterns.any fun pattern =>
    (name.head? ≠ some 46 || pattern.head? = some 46) && Script.Pattern.accepts pattern name

/-- Whether a name in a directory is shown. -/
def shows (listing : Listing) (name : Bytes) : Bool :=
  let isHidden := match listing.discretion with
    | .nothing => false
    | .dots => name = [46] || name = [46, 46]
    | .all => name.head? = some 46 || matchesAny listing.hidden name
  !isHidden && !matchesAny listing.ignored name

/-- Lists a directory, and with it what is below it, through at most so many levels. A title stands
above it if there is more than one. Some directories are being listed already. -/
def directoryWithin (listing : Listing) (invocation : Invocation) (titled : Bool) :
    Nat → List Nat → Bool → Bytes → Reported Unit
  | 0, _, _, path => complainAbout invocation "cannot open directory" path .tooManyLinks false
  | levels + 1, above, isOperand, path => do
    match ← request (.list path) with
    | .error cause => complainAbout invocation "cannot open directory" path cause isOperand
    | .ok names =>
      let number := ((← request (.examine path true)).toOption.map (·.number)).getD 0
      if listing.recursive && above.contains number then
        Reported.warn invocation (mention path ++ bytes ": not listing already-listed directory")
        modify fun report => { report with code := failure }
        return
      if titled || listing.recursive then
        let gap := if (← get).parts = 0 then [] else [10]
        modify fun report => { report with
          lines := (gap ++ listing.spell true path ++ bytes ":\n") :: report.lines
          parts := report.parts + 1 }
      let names := ([bytes ".", bytes ".."] ++ names.map bytes).filter listing.shows
      let entries ← names.mapM (listing.entryIn invocation path)
      let entries := listing.sorted entries
      let sum := if listing.arrangement = .details || listing.blocks then
          bytes "total " ++ listing.sizeText 1024 (total (entries.map Entry.space)) ++
            [listing.ending]
        else []
      let text := sum ++ listing.arrange entries
      modify fun report => { report with lines := text :: report.lines }
      if listing.recursive then
        entries.forM fun entry => do
          if entry.isDirectory && entry.name ≠ [46] && entry.name ≠ [46, 46] then
            directoryWithin listing invocation titled levels (number :: above) false
              (inside path entry.name)

/-- The most levels of directories that are gone through. -/
def mostLevels : Nat := 2000

/-- Shows what is known about files, and about what is in directories. -/
def run (invocation : Invocation) (listing : Listing) (operands : List Bytes) : Task UInt8 := do
  let paths := if operands.isEmpty then [bytes "."] else operands
  Reported.finish invocation (do
    let entries ← paths.foldlM (fun entries path => do
      match ← listing.operandEntry path with
      | .ok entry => pure (entry :: entries)
      | .error cause =>
        complainAbout invocation "cannot access" path cause true
        pure entries) ([] : List Entry)
    let entries := listing.sorted entries.reverse
    let (directories, files) :=
      if listing.flat then ([], entries) else entries.partition (·.isDirectory)
    unless files.isEmpty do
      let text := listing.arrange files ++ (if directories.isEmpty then [] else [10])
      modify fun report => { report with lines := text :: report.lines }
    let titled := !files.isEmpty || operands.length > 1
    directories.forM fun entry =>
      listing.directoryWithin invocation titled mostLevels [] true entry.name) failure

end Listing

/-- The names of files, and of what is in directories. -/
def ls : Work := fun invocation =>
  let usage : Usage Listing := {
    switches := Listing.switches, take := Listing.take, code := Listing.failure }
  Usage.work usage {} Listing.run invocation

end LineShell.Programs
