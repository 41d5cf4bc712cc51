import LineShell.Programs.Basic
import LineShell.Text.Numeral

/-! Modes: descriptions of permission bits, as octal numbers or as changes by letters. -/

namespace LineShell.Programs

/-- One change of permission bits. -/
structure Mode.Change where
  /-- An equals sign, a plus or a minus. -/
  operator : UInt8
  /-- The bits of those who are named; nothing if nobody is. -/
  affected : Nat
  /-- The bits that are set or taken. -/
  value : Nat
  /-- The bits that are named, so that even those that a directory keeps are changed. -/
  mentioned : Nat
  /-- The bits of one group are copied to the other ones. -/
  copies : Bool := false
  /-- Execution is meant only if it is allowed to someone, or for a directory. -/
  conditional : Bool := false
  deriving DecidableEq, Repr, Inhabited

namespace Mode

/-- All bits. -/
def all : Nat := 0o7777

/-- The bits that a letter for a group of users stands for. -/
def groupBits? (letter : UInt8) : Option Nat :=
  match Char.ofNat letter.toNat with
  | 'u' => some 0o4700
  | 'g' => some 0o2070
  | 'o' => some 0o1007
  | 'a' => some 0o7777
  | _ => none

/-- The bits that a letter for a permission stands for. -/
def permissionBits? (letter : UInt8) : Option Nat :=
  match Char.ofNat letter.toNat with
  | 'r' => some 0o444
  | 'w' => some 0o222
  | 'x' => some 0o111
  | 's' => some 0o6000
  | 't' => some 0o1000
  | 'X' => some 0
  | _ => none

/-- The permissions of one group that a letter stands for. -/
def copiedBits? (letter : UInt8) : Option Nat :=
  match Char.ofNat letter.toNat with
  | 'u' => some 0o700
  | 'g' => some 0o070
  | 'o' => some 0o007
  | _ => none

/-- Whether a byte says how bits are changed. -/
def isOperator (byte : UInt8) : Bool :=
  byte = 61 || byte = 43 || byte = 45

/-- The bits of some letters together. -/
def union (bits : List Nat) : Nat :=
  bits.foldl (· ||| ·) 0

/-- The changes of one clause behind the users that it names, in so many steps at most. -/
def clauseWithin (affected : Nat) : Nat → Bytes → Option (List Change)
  | 0, _ => none
  | _, [] => some []
  | bound + 1, operator :: rest =>
    if !isOperator operator then none
    else
      let figures := Numeral.digitsOf 8 rest
      let value := Numeral.valueOf 8 figures
      if !figures.isEmpty then
        if affected ≠ 0 || figures.length ≠ rest.length || value > all then none
        else some [{ operator, affected := all, value, mentioned := all }]
      else match rest.head?.bind copiedBits? with
        | some value =>
          let mentioned := if affected = 0 then value else affected &&& value
          let change : Change := { operator, affected, value, mentioned, copies := true }
          (clauseWithin affected bound (rest.drop 1)).map (change :: ·)
        | none =>
          let letters := rest.takeWhile fun letter => (permissionBits? letter).isSome
          let value := union (letters.filterMap permissionBits?)
          let mentioned := if affected = 0 then value else affected &&& value
          let conditional := letters.contains 88
          let change : Change := { operator, affected, value, mentioned, conditional }
          (clauseWithin affected bound (rest.drop letters.length)).map (change :: ·)

/-- The changes of one clause. -/
def clause? (text : Bytes) : Option (List Change) :=
  let users := text.takeWhile fun letter => (groupBits? letter).isSome
  let rest := text.drop users.length
  if rest.isEmpty then none
  else clauseWithin (union (users.filterMap groupBits?)) (rest.length + 1) rest

/-- The changes that a text describes. -/
def read? (text : Bytes) : Option (List Change) :=
  let figures := Numeral.digitsOf 8 text
  if figures.isEmpty then ((splitAt 44 text).mapM clause?).map List.flatten
  else
    let value := Numeral.valueOf 8 figures
    if figures.length ≠ text.length || value > all then none
    else
      -- Few digits leave the bits alone that make others run as the owner or the group.
      let mentioned := if figures.length < 5 then (value &&& 0o6000) ||| 0o1777 else all
      some [{ operator := 61, affected := all, value, mentioned }]

/-- The bits of a mode that a set of bits lacks. -/
def without (mode bits : Nat) : Nat :=
  mode - (mode &&& bits)

/-- The bits that a directory keeps although they are not named. -/
def Change.kept (change : Change) (isDirectory : Bool) : Nat :=
  if isDirectory then without 0o6000 change.mentioned else 0

/-- The bits that a change of a mode sets or takes; `mask` holds the bits that are not given where
nobody is named. -/
def Change.bits (change : Change) (isDirectory : Bool) (mask mode : Nat) : Nat :=
  let copied := change.value &&& mode
  let spread := fun (bits : Nat) => if copied &&& bits ≠ 0 then bits else 0
  let runs : Bool := isDirectory || mode &&& 0o111 ≠ 0
  let value := if change.copies then spread 0o444 ||| spread 0o222 ||| spread 0o111
    else if change.conditional && runs then change.value ||| 0o111 else change.value
  let limit := if change.affected = 0 then without all mask else change.affected
  without (value &&& limit) (change.kept isDirectory)

/-- The bits that a change decides about. -/
def Change.decided (change : Change) (isDirectory : Bool) (mask mode : Nat) : Nat :=
  if change.operator = 61 then
    without (if change.affected = 0 then all else change.affected) (change.kept isDirectory)
  else change.bits isDirectory mask mode

/-- The permission bits after one change. -/
def Change.apply (change : Change) (isDirectory : Bool) (mask mode : Nat) : Nat :=
  let bits := change.bits isDirectory mask mode
  if change.operator = 45 then without mode bits
  else without mode (change.decided isDirectory mask mode) ||| bits

/-- The permission bits after some changes, and the bits that these decide about. -/
def adjustAll (changes : List Change) (isDirectory : Bool) (mask mode : Nat) : Nat × Nat :=
  changes.foldl (fun (mode, decided) change =>
    (change.apply isDirectory mask mode,
      decided ||| change.decided isDirectory mask mode)) (mode, 0)

/-- The permission bits after some changes. -/
def adjust (changes : List Change) (isDirectory : Bool) (mask mode : Nat) : Nat :=
  (adjustAll changes isDirectory mask mode).1

/-- The permission bits of a new directory. It is first made so that nobody else can write to it, if
bits are asked for that cannot be given at once, and changed only if that is needed for a bit that
the changes decide about. -/
def ofNewDirectory (changes : List Change) (mask : Nat) : Nat :=
  let (mode, decided) := adjustAll changes true mask 0o777
  let isPlain := decided &&& 0o6000 = 0 && mode &&& 0o1000 = 0
  let first := (if isPlain then mode else without mode 0o022) &&& 0o1777
  if first &&& decided = mode &&& decided then first else mode

/-- Permission bits as ten letters, given the letter for the kind of the file. -/
def letters (kind : UInt8) (mode : Nat) : Bytes :=
  let bit := fun (place : Nat) (letter : UInt8) =>
    if mode.testBit place then letter else (45 : UInt8)
  let run := fun (place special : Nat) (set unset : UInt8) =>
    if mode.testBit special then (if mode.testBit place then set else unset) else bit place 120
  [kind, bit 8 114, bit 7 119, run 6 11 115 83, bit 5 114, bit 4 119, run 3 10 115 83,
    bit 2 114, bit 1 119, run 0 9 116 84]

end Mode

end LineShell.Programs
