import LineShell.Token

/-! Decimal numbers read back as what they were written from, and stand as words of their own. -/

namespace LineShell

namespace Text

/-- The digits of a number read back as the number. -/
theorem natural?_toDigits (n : Nat) : natural? (Nat.toDigits 10 n) = some n := by
  have digits : (Nat.toDigits 10 n).all Char.isDigit = true :=
    List.all_eq_true.mpr fun c told => Nat.isDigit_of_mem_toDigits (by decide) (by decide) told
  have filled : (Nat.toDigits 10 n).isEmpty = false :=
    List.isEmpty_eq_false_iff.mpr Nat.toDigits_ne_nil
  -- Reading multiplies from the other side than the library's own reader.
  have value := Nat.ofDigitChars_toDigits (b := 10) (n := n) (by decide) (by decide)
  rw [Nat.ofDigitChars_eq_foldl] at value
  simp only [natural?, digits, filled, Bool.not_true, Bool.or_self, Bool.false_eq_true, if_false]
  simpa only [Nat.mul_comm] using congrArg some value

/-- A number begins with a digit or with a minus sign. -/
theorem exists_first (n : Int) :
    ∃ c rest, decimalDigits n = c :: rest ∧ (c.isDigit = true ∨ c = '-') := by
  cases n with
  | ofNat n =>
    cases digits : Nat.toDigits 10 n with
    | nil => exact absurd digits Nat.toDigits_ne_nil
    | cons c rest =>
      have first : c ∈ Nat.toDigits 10 n := digits ▸ List.mem_cons_self
      exact ⟨c, rest, digits, .inl (Nat.isDigit_of_mem_toDigits (by decide) (by decide) first)⟩
  | negSucc n => exact ⟨'-', _, rfl, .inr rfl⟩

/-- Without a minus sign only digits are read. -/
theorem integer?_of_isDigit {digits : List Char} (unsigned : ∀ c ∈ digits, c.isDigit = true) :
    integer? digits = (natural? digits).map fun n => (n : Int) := by
  unfold integer?
  split
  · exact absurd (unsigned '-' List.mem_cons_self) (by decide)
  · rfl

/-- A number that has been written reads back as the same number. -/
theorem integer?_decimalDigits (n : Int) : integer? (decimalDigits n) = some n := by
  cases n with
  | ofNat n =>
    rw [decimalDigits, integer?_of_isDigit fun c => Nat.isDigit_of_mem_toDigits (by decide)
      (by decide), natural?_toDigits]
    rfl
  | negSucc n =>
    simp only [decimalDigits, integer?, natural?_toDigits]
    rfl

end Text

/-- A number is a word, and no operator. -/
theorem Token.ofWord_decimalDigits (n : Int) :
    ofWord (Text.decimalDigits n) = [.word (Text.decimal n)] := by
  -- An operator would have to be its first character.
  obtain ⟨c, rest, digits, first⟩ := Text.exists_first n
  have plain : Operator.ofSymbol? c = none := by
    cases found : Operator.ofSymbol? c with
    | none => rfl
    | some operator =>
      rw [← Operator.symbol_of_ofSymbol? found] at first
      cases operator <;> simp [Operator.symbol] at first
  rw [Text.decimal, digits, ofWord, plain]

/-- A number is not the word that stands for the last exit code. -/
theorem Text.decimal_ne_lastCode (n : Int) : Text.decimal n ≠ Token.lastCode := by
  intro same
  obtain ⟨c, rest, digits, first⟩ := Text.exists_first n
  have letters := congrArg String.toList same
  have written : Token.lastCode.toList = ['$', '?'] := rfl
  rw [Text.decimal, String.toList_ofList, digits, written] at letters
  obtain ⟨rfl, _⟩ := List.cons.inj letters
  exact absurd first (by decide)

/-- A number is not written like an operator. -/
theorem Text.decimal_ne_text (n : Int) (operator : Operator) :
    Text.decimal n ≠ operator.text := by
  intro same
  have read := Token.ofWord_decimalDigits n
  have letters := congrArg String.toList same
  rw [Text.decimal, String.toList_ofList] at letters
  rw [letters] at read
  cases operator <;> cases read

end LineShell
