import LineShell.Programs.Basic

/-! Names and words in messages: set off by quotes, and without bytes a terminal would act on. -/

namespace LineShell.Programs

namespace Naming

/-- Whether a byte is shown as it is. -/
def isPrintable (byte : UInt8) : Bool :=
  32 ≤ byte && byte ≤ 126

/-- How many bytes of a text are shown as they are. -/
def width (text : Bytes) : Nat :=
  text.countP isPrintable

/-- The control bytes that have a letter, and the letters. -/
def letters : List (UInt8 × UInt8) :=
  [(7, 97), (8, 98), (9, 116), (10, 110), (11, 118), (12, 102), (13, 114)]

/-- A byte that is not shown, as a letter or three octal digits behind a backslash. -/
def escaped (byte : UInt8) : Bytes :=
  match letters.lookup byte with
  | some letter => [92, letter]
  | none => [92, 48 + byte / 64, 48 + byte / 8 % 8, 48 + byte % 8]

/-- What stands for a byte that is not shown is shown itself. -/
theorem isPrintable_of_mem_escaped (byte shown : UInt8) (within : shown ∈ escaped byte) :
    isPrintable shown = true := by
  unfold escaped at within
  split at within
  · rename_i letter found
    -- Only the seven letters of the table come up.
    have known : ∀ entry ∈ letters, isPrintable entry.2 = true := by
      intro entry listed
      simp only [letters, List.mem_cons, List.not_mem_nil, or_false] at listed
      rcases listed with rfl | rfl | rfl | rfl | rfl | rfl | rfl <;> rfl
    have listed : ∃ key, (key, letter) ∈ letters := by
      simp only [List.lookup_eq_some_iff] at found
      obtain ⟨before, after, rest, -⟩ := found
      exact ⟨byte, by simp [rest]⟩
    obtain ⟨key, listed⟩ := listed
    rcases List.mem_cons.1 within with rfl | last
    · rfl
    · rw [List.mem_singleton.1 last]
      exact known _ listed
  · -- Each digit is less than eight.
    have small : ∀ digit : UInt8, digit < 8 → isPrintable (48 + digit) = true := by
      intro digit below
      rw [UInt8.lt_iff_toNat_lt] at below
      simp only [isPrintable, Bool.and_eq_true, decide_eq_true_eq, UInt8.le_iff_toNat_le,
        UInt8.toNat_add]
      simp at below ⊢
      omega
    have bound := byte.toNat_lt
    simp only [List.mem_cons, List.not_mem_nil, or_false] at within
    rcases within with rfl | rfl | rfl | rfl
    · rfl
    all_goals
      apply small
      simp only [UInt8.lt_iff_toNat_lt, UInt8.toNat_div, UInt8.toNat_mod]
      simp
      omega

/-- The bytes that mean something to a shell wherever they stand outside of quotes. -/
def special : Bytes :=
  bytes "!\"$&()*;<=>?[\\^|" ++ [96]

/-- Whether the first byte of a name means something to a shell only because it is the first. -/
def startsSpecial (name : Bytes) : Bool :=
  name.head?.any (bytes "#~").contains

/-- Whether a name could be taken for something else where it stands without quotes. -/
def needsQuotes (name : Bytes) : Bool :=
  name.isEmpty || startsSpecial name || name = bytes "\x7b" || name = bytes "\x7d" ||
    name.any fun byte => !isPrintable byte || special.contains byte || (bytes " :'").contains byte

/-- Whether a name with quotes in it can stand between double quotes. -/
def fitsDoubleQuotes (name : Bytes) : Bool :=
  let rest := if startsSpecial name then name.drop 1 else name
  rest.all fun byte =>
    isPrintable byte && !special.contains byte && !(bytes "#~\x7b\x7d").contains byte

/-- The rest of a name between single quotes. A quote in it, and bytes that are not shown, stand
between parts of it; `escaping` tells whether a part of the second kind is open. -/
def parts (escaping : Bool) : Bytes → Bytes
  | [] => [39]
  | byte :: rest =>
    if byte = 39 then bytes "'\\''" ++ parts false rest
    else if isPrintable byte then
      (if escaping then bytes "''" else []) ++ byte :: parts false rest
    else (if escaping then [] else bytes "'$'") ++ escaped byte ++ parts true rest

end Naming

open Naming

/-- A name between quotes, as a shell would read it. -/
def quoteName (name : Bytes) : Bytes :=
  if name.contains 39 then
    if fitsDoubleQuotes name then 34 :: name ++ [34]
    -- What the end of such a name leaves open counts as open at its start.
    else 39 :: parts (name.getLast?.any fun byte => !isPrintable byte) name
  else 39 :: parts false name

/-- A name, between quotes only if it needs them. -/
def mention (name : Bytes) : Bytes :=
  if needsQuotes name then quoteName name else name

/-- A word between quotes, with a backslash before quotes and backslashes in it. -/
def quoteWord (word : Bytes) : Bytes :=
  39 :: word.flatMap (fun byte =>
    if byte = 39 || byte = 92 then [92, byte]
    else if isPrintable byte then [byte]
    else escaped byte) ++ [39]

/-- Every byte of a word between quotes is one that is shown. -/
theorem isPrintable_of_mem_quoteWord (word : Bytes) (shown : UInt8)
    (within : shown ∈ quoteWord word) : isPrintable shown = true := by
  simp only [quoteWord, List.mem_append, List.mem_cons, List.mem_flatMap, List.not_mem_nil,
    or_false] at within
  rcases within with (rfl | ⟨byte, -, part⟩) | rfl
  · rfl
  · split at part
    · rename_i quoted
      -- Quotes and backslashes are shown, and so is the backslash before them.
      simp only [Bool.or_eq_true, decide_eq_true_eq] at quoted
      rcases quoted with rfl | rfl <;> (simp at part; rcases part with rfl | rfl <;> rfl)
    · split at part
      · rename_i printable
        rwa [List.mem_singleton.1 part]
      · exact isPrintable_of_mem_escaped byte shown part
  · rfl

end LineShell.Programs
