import LineShell.Text.Quoted

/-! Quoted text reads back as the text it was written from, shows where it ends, and has no control
character in it. -/

namespace LineShell.Text

/-- How one character stands between quotes: by a letter or by its number behind a backslash, or as
it is. -/
inductive Spelling : Char → List Char → Prop
  | escape {letter c : Char} (listed : (letter, c) ∈ shortEscapes) : Spelling c ['\\', letter]
  | number {c : Char} (unlisted : c ∉ shortEscapes.map Prod.snd)
      (hidden : isCombining c = true ∨ isPrintable c = false) :
      Spelling c ('\\' :: 'u' :: '\x7b' :: Nat.toDigits 16 c.toNat ++ ['\x7d'])
  | plain {c : Char} (unlisted : c ∉ shortEscapes.map Prod.snd)
      (single : isCombining c = false) (printable : isPrintable c = true) : Spelling c [c]

/-- How a text stands between quotes: each of its characters in turn. -/
inductive Spells : List Char → List Char → Prop
  | nil : Spells [] []
  | cons {c : Char} {text piece body : List Char} (first : Spelling c piece)
      (others : Spells text body) : Spells (c :: text) (piece ++ body)

/-- Whether what stands behind a text is escaped: the text ends in a backslash that is not escaped
itself. -/
def escapesNext (text : List Char) : Bool :=
  text.foldl (fun escaped c => c == '\\' && !escaped) false

/-- Whether a quote behind a text closes it: every quote in the text is escaped, and that one is
not. -/
structure IsClosable (body : List Char) : Prop where
  inside : ∀ before after, body = before ++ '"' :: after → escapesNext before = true
  behind : escapesNext body = false

/-- Whether a character controls a terminal and shows nothing. -/
def IsControl (c : Char) : Prop :=
  c.toNat < 0x20 ∨ 0x7F ≤ c.toNat ∧ c.toNat < 0xA0

instance (c : Char) : Decidable (IsControl c) :=
  inferInstanceAs (Decidable (_ ∨ _))

/-! ### Digits -/

/-- A number is written with the digits of its base. -/
theorem exists_of_mem_toDigits {base n : Nat} {c : Char} (two : 1 < base)
    (member : c ∈ Nat.toDigits base n) : ∃ value < base, c = Nat.digitChar value := by
  -- The last digit is split off for as long as there are others.
  induction n using Nat.strongRecOn with
  | ind n ih =>
    by_cases single : n < base
    · rw [Nat.toDigits_of_lt_base single, List.mem_singleton] at member
      exact ⟨n, single, member⟩
    · have filled : base ≤ n := Nat.le_of_not_lt single
      rw [Nat.toDigits_of_base_le two filled, List.mem_append, List.mem_singleton] at member
      rcases member with front | last
      · exact ih _ (Nat.div_lt_self (by omega) two) front
      · exact ⟨n % base, Nat.mod_lt _ (by omega), last⟩

/-- So a character that is no digit at all is not in it. -/
theorem notMem_toDigits {base : Nat} {c : Char} (two : 1 < base)
    (other : ∀ value, Nat.digitChar value ≠ c) (n : Nat) : c ∉ Nat.toDigits base n := by
  intro member
  obtain ⟨value, -, digit⟩ := exists_of_mem_toDigits two member
  exact other value digit.symm

/-- Each digit in base sixteen is read as its value. -/
theorem hexDigit?_digitChar {value : Nat} (small : value < 16) :
    hexDigit? (Nat.digitChar value) = some value := by
  -- There are sixteen of them, in two ranges.
  rcases value with _ | _ | _ | _ | _ | _ | _ | _ | _ | _ | _ | _ | _ | _ | _ | _ | value
  all_goals first | rfl | omega

/-- A digit that stands behind others is taken in with them. -/
theorem unquoteNumber?_digitChar {digit : Nat} (small : digit < 16) (value : Nat)
    (rest : List Char) :
    unquoteNumber? value (Nat.digitChar digit :: rest) =
      unquoteNumber? (value * 16 + digit) rest := by
  have inside : Nat.digitChar digit ≠ '\x7d' := Nat.digitChar_ne _ (by decide)
  rw [unquoteNumber?, if_neg inside, hexDigit?_digitChar small]

/-- The digits of a number are read as the number, whatever comes behind them. -/
theorem unquoteNumber?_toDigits (n : Nat) (rest : List Char) :
    unquoteNumber? 0 (Nat.toDigits 16 n ++ rest) = unquoteNumber? n rest := by
  -- Reading goes from the left, and the digits are split off from the right, so what follows a
  -- digit stays open.
  induction n using Nat.strongRecOn generalizing rest with
  | ind n ih =>
    by_cases single : n < 16
    · rw [Nat.toDigits_of_lt_base single, List.singleton_append,
        unquoteNumber?_digitChar single, Nat.zero_mul, Nat.zero_add]
    · have filled : 16 ≤ n := Nat.le_of_not_lt single
      have low : n % 16 < 16 := Nat.mod_lt _ (by decide)
      rw [Nat.toDigits_of_base_le (by decide) filled, List.append_assoc, List.singleton_append,
        ih _ (Nat.div_lt_self (by omega) (by decide)), unquoteNumber?_digitChar low,
        Nat.div_add_mod']

/-! ### Printable characters -/

/-- The characters of seven bits that are not for control show as themselves. -/
theorem isPrintable_of_ascii {c : Char} (least : 0x20 ≤ c.toNat) (most : c.toNat < 0x7F) :
    isPrintable c = true ∧ isCombining c = false := by
  -- Every range lies before them or behind them.
  have apart : ∀ range ∈ unprintableRanges, range.2 < 0x20 ∨ 0x7F ≤ range.1 := by
    decide +kernel
  have behind : ∀ range ∈ combiningRanges, 0x7F ≤ range.1 := by
    decide +kernel
  constructor
  · rw [isPrintable, Bool.not_eq_true', List.any_eq_false]
    intro range member
    have outside := apart range member
    grind
  · rw [isCombining, List.any_eq_false]
    intro range member
    have outside := behind range member
    grind

/-- A control character does not show as itself. -/
theorem IsControl.isPrintable_eq_false {c : Char} (control : IsControl c) :
    isPrintable c = false := by
  -- Two of the ranges hold all control characters.
  have low : (0x0, 0x1F) ∈ unprintableRanges := List.mem_cons_self
  have high : (0x7F, 0xA0) ∈ unprintableRanges := List.mem_cons_of_mem _ List.mem_cons_self
  rw [isPrintable, Bool.not_eq_false', List.any_eq_true]
  rcases control with below | ⟨least, most⟩
  · exact ⟨_, low, by grind⟩
  · exact ⟨_, high, by grind⟩

/-- Outside the short escapes, just what combines or cannot be printed is shown as its number. -/
theorem showsAsNumber_iff {c : Char} :
    showsAsNumber c = true ↔ isCombining c = true ∨ isPrintable c = false := by
  unfold showsAsNumber
  split
  · -- The printable characters of seven bits are passed by without a search.
    rename_i ascii
    have bounds : 0x20 ≤ c.toNat ∧ c.toNat < 0x7F := by simpa using ascii
    simp [isPrintable_of_ascii bounds.1 bounds.2]
  · simp

/-! ### Writing -/

/-- The quote and the backslash are among the characters that have an escape of their own. -/
theorem ne_of_unlisted {c : Char} (unlisted : c ∉ shortEscapes.map Prod.snd) :
    c ≠ '"' ∧ c ≠ '\\' := by
  constructor
  · rintro rfl
    exact unlisted (by decide)
  · rintro rfl
    exact unlisted (by decide)

/-- A character is written as the rule for it says. -/
theorem spelling_quoteChar (c : Char) : Spelling c (quoteChar c) := by
  by_cases listed : c ∈ shortEscapes.map Prod.snd
  · -- Each of these has a letter.
    simp only [shortEscapes, List.map_cons, List.map_nil, List.mem_cons, List.not_mem_nil,
      or_false] at listed
    rcases listed with rfl | rfl | rfl | rfl | rfl | rfl
    all_goals exact .escape (by decide)
  · have others := listed
    simp only [shortEscapes, List.map_cons, List.map_nil, List.mem_cons, List.not_mem_nil,
      or_false, not_or] at others
    simp only [quoteChar, others, if_false]
    split
    · rename_i hidden
      exact .number listed (showsAsNumber_iff.mp hidden)
    · rename_i shown
      rw [showsAsNumber_iff, not_or] at shown
      exact .plain listed (by simpa using shown.1) (by simpa using shown.2)

/-- So is a text. -/
theorem spells_quote (text : List Char) : Spells text (text.flatMap quoteChar) := by
  induction text with
  | nil => exact .nil
  | cons c rest ih => exact .cons (spelling_quoteChar c) ih

/-! ### Reading -/

/-- A number between braces is read as its character. -/
theorem unquoteBody?_number {text rest : List Char} {c : Char}
    (number : unquoteNumber? 0 text = some (c, rest)) :
    unquoteBody? ('\\' :: 'u' :: '\x7b' :: text) =
      (unquoteBody? rest).map fun read => (c :: read.1, read.2) := by
  rw [unquoteBody?]
  split
  · rename_i unread
    cases number.symm.trans unread
  · rename_i found
    cases number.symm.trans found
    rfl

/-- A character is read off the front of what it is written in. -/
theorem unquoteBody?_of_spelling {c : Char} {piece : List Char} (spelling : Spelling c piece)
    (rest : List Char) :
    unquoteBody? (piece ++ rest) =
      (unquoteBody? rest).map fun read => (c :: read.1, read.2) := by
  cases spelling with
  | escape listed =>
    simp only [shortEscapes, List.mem_cons, Prod.mk.injEq, List.not_mem_nil, or_false] at listed
    -- The letter is looked up, and none of them opens a number.
    rcases listed with ⟨rfl, rfl⟩ | ⟨rfl, rfl⟩ | ⟨rfl, rfl⟩ | ⟨rfl, rfl⟩ | ⟨rfl, rfl⟩ | ⟨rfl, rfl⟩
    all_goals
      rw [List.cons_append, List.singleton_append, unquoteBody?.eq_def]
      rfl
  | number unlisted hidden =>
    -- The digits end at the brace.
    have number : unquoteNumber? 0 (Nat.toDigits 16 c.toNat ++ '\x7d' :: rest) =
        some (c, rest) := by
      rw [unquoteNumber?_toDigits, unquoteNumber?, if_pos rfl, Char.ofNat_toNat]
    simpa using unquoteBody?_number number
  | plain unlisted single printable =>
    -- It neither closes the text nor escapes what follows.
    rw [unquoteBody?.eq_def]
    simp [ne_of_unlisted unlisted]

/-- A text is read back from between its quotes. -/
theorem unquoteBody?_of_spells {text body : List Char} (spells : Spells text body)
    (rest : List Char) : unquoteBody? (body ++ '"' :: rest) = some (text, rest) := by
  -- One character after the other is read off, until the quote is in front.
  induction spells with
  | nil => rw [List.nil_append, unquoteBody?]
  | cons first others ih =>
    rw [List.append_assoc, unquoteBody?_of_spelling first, ih]
    rfl

/-! ### Where a quoted text ends -/

/-- What comes last decides, together with what stood before it. -/
theorem escapesNext_concat (text : List Char) (c : Char) :
    escapesNext (text ++ [c]) = (c == '\\' && !escapesNext text) := by
  rw [escapesNext, List.foldl_append]
  rfl

/-- A text that escapes nothing leaves what follows it as it is. -/
theorem escapesNext_append {text : List Char} (behind : escapesNext text = false)
    (rest : List Char) : escapesNext (text ++ rest) = escapesNext rest := by
  rw [escapesNext, List.foldl_append, ← escapesNext, behind]
  rfl

namespace IsClosable

/-- Without a quote inside, only the end matters. -/
theorem of_notMem {body : List Char} (unquoted : '"' ∉ body)
    (behind : escapesNext body = false) : IsClosable body := by
  refine ⟨?_, behind⟩
  rintro before after rfl
  exact absurd (List.mem_append_right before List.mem_cons_self) unquoted

/-- One can follow the other. -/
theorem append {first second : List Char} (one : IsClosable first) (other : IsClosable second) :
    IsClosable (first ++ second) := by
  constructor
  · -- A quote stands in one of the two, and the first does not reach into the second.
    intro before after split
    rcases List.append_eq_append_iff.mp split with ⟨front, rfl, rest⟩ | ⟨back, whole, rest⟩
    · rw [escapesNext_append one.behind]
      exact other.inside front after rest
    · cases back with
      | nil =>
        rw [List.append_nil] at whole
        subst whole
        have none := other.inside [] after (by simpa using rest.symm)
        cases none
      | cons c back =>
        obtain ⟨rfl, -⟩ := List.cons.inj rest
        exact one.inside before back whole
  · rw [escapesNext_append one.behind, other.behind]

/-- A text that is closed where another ends goes no further. -/
theorem eq_nil {body more rest others : List Char} (one : IsClosable body)
    (other : IsClosable (body ++ more)) (same : '"' :: rest = more ++ '"' :: others) :
    more = [] := by
  cases more with
  | nil => rfl
  | cons c more =>
    -- The quote that closes the shorter text would stand inside the longer one, not escaped.
    obtain ⟨rfl, -⟩ := List.cons.inj same
    cases one.behind.symm.trans (other.inside body more rfl)

/-- There is one place at most where a text can be closed. -/
theorem unique {first second rest others : List Char} (one : IsClosable first)
    (other : IsClosable second) (same : first ++ '"' :: rest = second ++ '"' :: others) :
    first = second := by
  -- One of the two is as long as the other, or longer.
  rcases List.append_eq_append_iff.mp same with ⟨more, rfl, back⟩ | ⟨more, rfl, back⟩
  · rw [one.eq_nil other back, List.append_nil]
  · rw [other.eq_nil one back, List.append_nil]

end IsClosable

/-- What a character is written in can be closed. -/
theorem Spelling.isClosable {c : Char} {piece : List Char} (spelling : Spelling c piece) :
    IsClosable piece := by
  cases spelling with
  | @escape letter c listed =>
    constructor
    · -- The letter may be a quote itself, and then the backslash stands right before it.
      intro before after split
      rcases List.cons_eq_append_iff.mp split with ⟨-, front⟩ | ⟨before, rfl, front⟩
      · cases front
      · rcases List.cons_eq_append_iff.mp front with ⟨rfl, -⟩ | ⟨before, rfl, last⟩
        · rfl
        · cases before <;> cases last
    · -- A backslash that is escaped does not escape what follows.
      simp [escapesNext]
  | @number c unlisted hidden =>
    refine .of_notMem ?_ ?_
    · have digits : '"' ∉ Nat.toDigits 16 c.toNat :=
        notMem_toDigits (by decide) (fun _ => Nat.digitChar_ne '"' (by decide)) _
      simp [digits]
    · -- The brace at the end is no backslash.
      rw [escapesNext_concat]
      rfl
  | plain unlisted single printable =>
    have others := ne_of_unlisted unlisted
    refine .of_notMem ?_ ?_
    · simpa using others.1.symm
    · simp [escapesNext, others.2]

/-- So can what a whole text is written in. -/
theorem Spells.isClosable {text body : List Char} (spells : Spells text body) :
    IsClosable body := by
  induction spells with
  | nil => exact .of_notMem List.not_mem_nil rfl
  | cons first others ih => exact first.isClosable.append ih

/-! ### Control characters -/

/-- A digit is no control character. -/
theorem not_isControl_digitChar {value : Nat} (small : value < 16) :
    ¬ IsControl (Nat.digitChar value) := by
  rcases value with _ | _ | _ | _ | _ | _ | _ | _ | _ | _ | _ | _ | _ | _ | _ | _ | value
  all_goals first | decide | omega

/-- A character is written without control characters. -/
theorem Spelling.not_isControl {c d : Char} {piece : List Char} (spelling : Spelling c piece)
    (member : d ∈ piece) : ¬ IsControl d := by
  cases spelling with
  | @escape letter c listed =>
    have letters : ∀ row ∈ shortEscapes, ¬ IsControl row.1 := by simp [shortEscapes, IsControl]
    rcases List.mem_cons.mp member with rfl | last
    · decide
    · rw [List.mem_singleton.mp last]
      exact letters _ listed
  | number unlisted hidden =>
    -- It is a digit, or one of the marks around them.
    have marks : ∀ mark ∈ ['\\', 'u', '\x7b', '\x7d'], ¬ IsControl mark := by simp [IsControl]
    by_cases digits : d ∈ Nat.toDigits 16 c.toNat
    · obtain ⟨value, small, rfl⟩ := exists_of_mem_toDigits (by decide) digits
      exact not_isControl_digitChar small
    · exact marks d (by simpa [digits] using member)
  | plain unlisted single printable =>
    -- What shows as itself is printable.
    rw [List.mem_singleton.mp member]
    intro control
    cases printable.symm.trans control.isPrintable_eq_false

/-- So is a whole text. -/
theorem Spells.not_isControl {text body : List Char} (spells : Spells text body) {d : Char}
    (member : d ∈ body) : ¬ IsControl d := by
  induction spells with
  | nil => cases member
  | cons first others ih =>
    rcases List.mem_append.mp member with front | rest
    · exact first.not_isControl front
    · exact ih rest

end LineShell.Text
