import LineShell.Pipeline.Reading
import LineShell.Proofs.Token.Writing

/-! Expanding: what the last exit code changes in the tokens of a line, and that these hold all
that is not blank in it. -/

namespace LineShell

/-- An entry of lists put together is an entry of one of them, behind all those before it. -/
theorem getElem?_flatMap_eq_some_iff {α β : Type} {list : List α} {parts : α → List β}
    {index : Nat} {entry : β} :
    (list.flatMap parts)[index]? = some entry ↔ ∃ before one after place,
      list = before ++ one :: after ∧ index = (before.flatMap parts).length + place ∧
      (parts one)[place]? = some entry := by
  constructor
  · intro found
    -- Either the first list is long enough, or the entry is one of the others.
    induction list generalizing index with
    | nil => cases found
    | cons first others ih =>
      rw [List.flatMap_cons] at found
      -- The entries of the first list come before all others.
      by_cases inside : index < (parts first).length
      · rw [List.getElem?_append_left inside] at found
        exact ⟨[], first, others, index, rfl, (Nat.zero_add index).symm, found⟩
      · have passed : (parts first).length ≤ index := Nat.le_of_not_lt inside
        rw [List.getElem?_append_right passed] at found
        obtain ⟨before, one, after, place, rfl, counted, there⟩ := ih found
        refine ⟨first :: before, one, after, place, rfl, ?_, there⟩
        rw [List.flatMap_cons, List.length_append]
        omega
  · -- Behind all that comes before it, the list has the entry at its own place.
    rintro ⟨before, one, after, place, rfl, rfl, there⟩
    have short : place < (parts one).length := (List.getElem?_eq_some_iff.mp there).1
    rw [List.flatMap_append, List.flatMap_cons, List.getElem?_append_right (Nat.le_add_right _ _),
      Nat.add_sub_cancel_left, List.getElem?_append_left short, there]

/-- The words of a text hold its characters in their order, but for the blanks. -/
theorem Text.flatten_words (text : List Char) :
    (words text).flatten = text.filter fun c => !isBlank c := by
  -- Whether a character opens a word or goes on with one, it is put before all that follows it.
  induction text with
  | nil => rfl
  | cons c rest ih =>
    by_cases gap : isBlank c = true
    · rw [words_blank gap, List.filter_cons_of_neg (by simp [gap]), ih]
    · have solid : isBlank c = false := by simpa using gap
      rw [List.filter_cons_of_pos (by simp [solid]), ← ih]
      by_cases continues : startsWord rest = true
      · obtain ⟨word, others, split⟩ := List.exists_cons_of_ne_nil (words_ne_nil continues)
        rw [words_glued solid continues, split, List.modifyHead_cons, List.flatten_cons,
          List.flatten_cons, List.cons_append]
      · rw [words_single solid (by simpa using continues), List.flatten_cons,
          List.singleton_append]

namespace Token

/-- The operator that a token is, if it is not a word. -/
def operator? : Token → Option Operator
  | .word _ => none
  | .operator kind => some kind

/-- No exit code makes a word of an operator, or an operator of a word. -/
@[simp] theorem operator?_expand (code : Int) (token : Token) :
    (expand code token).operator? = token.operator? := by
  cases token <;> rfl

/-- A token stays as it is, unless it is the word that the exit code takes the place of. -/
theorem expand_of_ne {token : Token} (other : token ≠ .word lastCode) (code : Int) :
    expand code token = token := by
  cases token with
  | operator kind => rfl
  | word text =>
    have unlike : text ≠ lastCode := fun same => other (congrArg Token.word same)
    rw [expand, if_neg unlike]

/-- The tokens of a word are written with its characters. -/
theorem flatMap_text_ofWord (word : List Char) :
    (ofWord word).flatMap (·.text.toList) = word := by
  -- A word is one token, or an operator and what is left behind it.
  cases word with
  | nil => rfl
  | cons c rest =>
    rw [ofWord]
    cases read : Operator.ofSymbol? c with
    | none => simp [text]
    | some kind =>
      have symbol := Operator.symbol_of_ofSymbol? read
      cases rest <;> simp [text, Operator.text, symbol]

/-- The word that the exit code takes the place of is a word of the line, or all that follows an
operator in one. -/
theorem getElem?_ofWord_eq_lastCode {word : List Char} {place : Nat} :
    (ofWord word)[place]? = some (.word lastCode) ↔
      word = lastCode.toList ∧ place = 0 ∨
        ∃ kind : Operator, word = kind.symbol :: lastCode.toList ∧ place = 1 := by
  have spelled (letters : List Char) :
      Token.word (String.ofList letters) = .word lastCode ↔ letters = lastCode.toList := by
    rw [Token.word.injEq, ← String.toList_inj, String.toList_ofList]
  cases word with
  | nil => simp [ofWord, lastCode]
  | cons c rest =>
    rw [ofWord]
    cases read : Operator.ofSymbol? c with
    | none =>
      -- Then no operator is in front, since its own character would have been read as one.
      have other (kind : Operator) : c ≠ kind.symbol := by
        rintro rfl
        simp at read
      simp only [List.getElem?_singleton, Option.ite_none_right_eq_some, Option.some.injEq, spelled,
        List.cons.injEq, other, false_and, exists_false, or_false]
      exact and_comm
    | some kind =>
      have symbol := Operator.symbol_of_ofSymbol? read
      -- The whole word is not the one looked for, which opens with no operator.
      have other : c :: rest ≠ lastCode.toList := by
        intro same
        obtain ⟨rfl, -⟩ := List.cons.inj (same.trans (rfl : lastCode.toList = ['$', '?']))
        cases read
      have glued : (∃ kind : Operator, c :: rest = kind.symbol :: lastCode.toList ∧ place = 1) ↔
          rest = lastCode.toList ∧ place = 1 := by
        constructor
        · rintro ⟨kind, same, rfl⟩
          exact ⟨(List.cons.inj same).2, rfl⟩
        · rintro ⟨rfl, rfl⟩
          exact ⟨kind, by rw [symbol], rfl⟩
      rw [glued]
      -- The operator comes first, and a word behind it only if anything is left.
      cases place with
      | zero => simp [other]
      | succ place =>
        cases rest with
        | nil => simp [lastCode]
        | cons d letters =>
          have same := spelled (d :: letters)
          cases place <;> simp_all

/-- The exit code takes the place of the token with this index: nothing else is in its word of the
line, or nothing but an operator in front. -/
def IsCodePlace (line : String) (index : Nat) : Prop :=
  ∃ before word after, Text.words line.toList = before ++ word :: after ∧
    (word = lastCode.toList ∧ index = (before.flatMap ofWord).length ∨
      ∃ kind : Operator, word = kind.symbol :: lastCode.toList ∧
        index = (before.flatMap ofWord).length + 1)

/-- The tokens that the exit code takes the place of are the words `$?`. -/
theorem isCodePlace_iff {line : String} {index : Nat} :
    IsCodePlace line index ↔ (scan line)[index]? = some (.word lastCode) := by
  -- A token belongs to one word of the line, in which it has a place.
  rw [scan, getElem?_flatMap_eq_some_iff]
  constructor
  · rintro ⟨before, word, after, split, ⟨rfl, counted⟩ | ⟨kind, rfl, counted⟩⟩
    · exact ⟨before, _, after, 0, split, counted, rfl⟩
    · exact ⟨before, _, after, 1, split, counted,
        getElem?_ofWord_eq_lastCode.mpr (.inr ⟨kind, rfl, rfl⟩)⟩
  · rintro ⟨before, word, after, place, split, counted, there⟩
    refine ⟨before, word, after, split, ?_⟩
    rcases getElem?_ofWord_eq_lastCode.mp there with ⟨whole, rfl⟩ | ⟨kind, glued, rfl⟩
    · exact .inl ⟨whole, counted⟩
    · exact .inr ⟨kind, glued, counted⟩

end Token

/-- An item with the exit code put in. -/
def Item.expand (code : Int) : Item → Item
  | .argument word => .argument (Token.expand code (.word word)).text
  | .input path => .input (path.expand code)
  | .output path => .output (path.expand code)

namespace Reading

/-- A stage with the exit code put in. -/
def expand (code : Int) (reading : Reading) : Reading :=
  { reading with
    command := reading.command.expand code
    items := reading.items.map (Item.expand code) }

/-- An item is added with the exit code put in. -/
theorem expand_add (code : Int) (reading : Reading) (item : Item) :
    (reading.add item).expand code = (reading.expand code).add (item.expand code) := by
  simp [expand, add]

/-- The stages are the same, whether the exit code is put in before or after a line falls into
them. -/
theorem continued_expand (code : Int) (reading : Reading) (tokens : List Token) :
    (reading.expand code).continued (tokens.map (Token.expand code)) =
      (reading.continued tokens).map (expand code) := by
  -- The walk along the tokens looks at the operators only, and these are no others.
  fun_induction continued reading tokens with
  | case1 => rfl
  | case2 reading word rest ih | case4 reading word rest ih | case5 reading word rest ih =>
    rw [← ih, expand_add]
    rfl
  | case3 reading operator => rfl
  | case6 reading command rest ih =>
    exact congrArg (List.cons _) ih

/-- The stages of a line are those of the line as it was typed, with the exit code put in. -/
theorem ofTokens_ofLine (line : String) (code : Int) :
    ofTokens (Token.ofLine line code) = (ofTokens (Token.scan line)).map (expand code) := by
  rw [Token.ofLine]
  cases Token.scan line with
  | nil => rfl
  | cons command rest => exact continued_expand code { command } rest

end Reading

namespace Token

/-- Two exit codes make the same tokens of a line, but for each word `$?` of it, be it a word of its
own or all that follows an operator, which becomes one code or the other in decimal. The tokens as
they were typed hold just the characters of the line that are not blank. So a code changes neither
which tokens are operators nor how the line falls into stages, and these hold the same items in the
same order. -/
theorem ofLine_codes (line : String) (first second : Int) :
    (ofLine line first).map operator? = (ofLine line second).map operator? ∧
    (∀ index, IsCodePlace line index ↔ (scan line)[index]? = some (.word lastCode)) ∧
    (∀ index, IsCodePlace line index →
      (ofLine line first)[index]? = some (.word (Text.decimal first)) ∧
      (ofLine line second)[index]? = some (.word (Text.decimal second))) ∧
    (∀ index, ¬ IsCodePlace line index →
      (ofLine line first)[index]? = (scan line)[index]? ∧
      (ofLine line second)[index]? = (scan line)[index]?) ∧
    (scan line).flatMap (·.text.toList) = line.toList.filter (fun c => !Text.isBlank c) ∧
    Reading.ofTokens (ofLine line first) =
      (Reading.ofTokens (scan line)).map (Reading.expand first) ∧
    Reading.ofTokens (ofLine line second) =
      (Reading.ofTokens (scan line)).map (Reading.expand second) := by
  -- Each code is put into the same tokens, so it is enough to look at one of them.
  have kinds (code : Int) : (ofLine line code).map operator? = (scan line).map operator? := by
    simp [ofLine, Function.comp_def]
  have changed (code : Int) {index : Nat} (marked : IsCodePlace line index) :
      (ofLine line code)[index]? = some (.word (Text.decimal code)) := by
    rw [ofLine, List.getElem?_map, isCodePlace_iff.mp marked]
    rfl
  have kept (code : Int) {index : Nat} (plain : ¬ IsCodePlace line index) :
      (ofLine line code)[index]? = (scan line)[index]? := by
    rw [ofLine, List.getElem?_map]
    cases found : (scan line)[index]? with
    | none => rfl
    | some token =>
      have other : token ≠ .word lastCode := by
        rintro rfl
        exact plain (isCodePlace_iff.mpr found)
      rw [Option.map_some, expand_of_ne other]
  refine ⟨(kinds first).trans (kinds second).symm, fun _ => isCodePlace_iff,
    fun _ marked => ⟨changed first marked, changed second marked⟩,
    fun _ plain => ⟨kept first plain, kept second plain⟩, ?_,
    Reading.ofTokens_ofLine line first, Reading.ofTokens_ofLine line second⟩
  -- The tokens of each word hold its characters, and the words all of the line but its blanks.
  rw [← Text.flatten_words, scan, List.flatMap_assoc]
  simp [flatMap_text_ofWord]

/-- The code is put in behind an operator, and not in front of another character. -/
theorem ofLine_codes_glued :
    (IsCodePlace "ls <$? $?x" 2 ∧ (ofLine "ls <$? $?x" 0)[2]? = some (.word "0") ∧
      (ofLine "ls <$? $?x" (-1))[2]? = some (.word "-1")) ∧
    (¬ IsCodePlace "ls <$? $?x" 3 ∧ (ofLine "ls <$? $?x" 0)[3]? = some (.word "$?x") ∧
      (ofLine "ls <$? $?x" (-1))[3]? = some (.word "$?x")) := by
  obtain ⟨-, places, changed, kept, -⟩ := ofLine_codes "ls <$? $?x" 0 (-1)
  have marked : IsCodePlace "ls <$? $?x" 2 := (places 2).mpr rfl
  have plain : ¬ IsCodePlace "ls <$? $?x" 3 := by
    rw [places]
    decide
  exact ⟨⟨marked, changed 2 marked⟩, plain, kept 3 plain⟩

end Token

end LineShell
