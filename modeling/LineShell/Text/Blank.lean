/-! Blank characters and the words they separate. -/

namespace LineShell.Text

/-- Holds of the twenty-five characters that Unicode calls white space. -/
def isBlank (c : Char) : Bool :=
  let code := c.toNat
  (9 ≤ code && code ≤ 13) || code == 0x20 || code == 0x85 || code == 0xA0 || code == 0x1680 ||
    (0x2000 ≤ code && code ≤ 0x200A) || code == 0x2028 || code == 0x2029 || code == 0x202F ||
    code == 0x205F || code == 0x3000

/-- Whether a text begins inside a word. -/
def startsWord : List Char → Bool
  | [] => false
  | c :: _ => !isBlank c

/-- The maximal runs of characters that are not blank, in order. -/
def words : List Char → List (List Char)
  | [] => []
  | c :: rest =>
    if isBlank c then words rest
    -- A word goes on for as long as its next character is not blank.
    else if startsWord rest then (words rest).modifyHead (c :: ·)
    else [c] :: words rest

/-- Blank characters are skipped. -/
@[simp] theorem words_blank {c : Char} {rest : List Char} (blank : isBlank c = true) :
    words (c :: rest) = words rest := by
  simp [words, blank]

/-- A character before a blank, or at the end, is the whole of its word. -/
theorem words_single {c : Char} {rest : List Char} (solid : isBlank c = false)
    (ends : startsWord rest = false) : words (c :: rest) = [c] :: words rest := by
  simp [words, solid, ends]

/-- A character before a word belongs to that word. -/
theorem words_glued {c : Char} {rest : List Char} (solid : isBlank c = false)
    (continues : startsWord rest = true) :
    words (c :: rest) = (words rest).modifyHead (c :: ·) := by
  simp [words, solid, continues]

end LineShell.Text
