import LineShell.Proofs.Pipeline.Faults

/-! Dangling operators: a line that ends in an operator fails for it exactly when the operator is
not taken as the command or the path of another one. -/

namespace LineShell

namespace Token

/-- Whether a token is an operator. -/
def isOperator : Token → Bool
  | .operator _ => true
  | .word _ => false

/-- How many operators some tokens end in. -/
def closingOperators (tokens : List Token) : Nat :=
  (tokens.reverse.takeWhile isOperator).length

/-- One more token in front counts only if it is an operator and nothing but operators follows. -/
theorem closingOperators_cons (first : Token) (rest : List Token) :
    closingOperators (first :: rest) =
      if closingOperators rest = rest.length ∧ first.isOperator = true then rest.length + 1
      else closingOperators rest := by
  -- Seen from the end, the first token comes last.
  unfold closingOperators
  rw [List.reverse_cons, List.takeWhile_append, List.length_reverse]
  by_cases whole : (rest.reverse.takeWhile isOperator).length = rest.length
  · cases first <;> simp [whole, isOperator, List.takeWhile]
  · simp [whole]

/-- A word in front of some tokens is never among the operators that they end in. -/
theorem closingOperators_word (word : String) (rest : List Token) :
    closingOperators (.word word :: rest) = closingOperators rest := by
  rw [closingOperators_cons, if_neg (by simp [isOperator])]

/-- An operator and the token that it takes leave the count as it is, or make it two more. -/
theorem closingOperators_taken (kind : Operator) (token : Token) (rest : List Token) :
    closingOperators (.operator kind :: token :: rest) % 2 = closingOperators rest % 2 := by
  rw [closingOperators_cons, closingOperators_cons, List.length_cons]
  by_cases whole : closingOperators rest = rest.length ∧ token.isOperator = true
  · rw [if_pos whole, if_pos ⟨rfl, rfl⟩, whole.1]
    omega
  · -- Something among the later tokens is a word, so the operators end behind it.
    have within : closingOperators rest ≤ rest.length :=
      List.length_reverse ▸ (List.takeWhile_sublist isOperator).length_le
    rw [if_neg whole, if_neg (by omega)]

end Token

namespace Reading

/-- What is refused to a stage is the error that it brings to its line. -/
theorem Fails.error?_eq {reading : Reading} {event : Event} {error : LineError}
    (fails : reading.Fails event error) : event.error? = some error := by
  cases fails <;> rfl

/-- The last stage of a line dangles exactly if what follows the first command ends in an odd number
of operators. -/
theorem exists_last_continued {reading : Reading} (unended : reading.closing = .finish)
    (rest : List Token) :
    ∃ front last, reading.continued rest = front ++ [last] ∧
      (last.isDangling = true ↔ Token.closingOperators rest % 2 = 1) := by
  -- Operators are read two tokens at a time, so the parity of those at the end does not change.
  fun_induction continued reading rest with
  | case1 reading => exact ⟨[], reading, rfl, by simp [isDangling, unended, Token.closingOperators]⟩
  | case2 reading word rest ih =>
    rw [Token.closingOperators_word]
    exact ih (by simpa [add] using unended)
  | case3 reading operator => exact ⟨[], _, rfl, by simp [isDangling]; rfl⟩
  | case4 reading path rest ih | case5 reading path rest ih =>
    rw [Token.closingOperators_taken]
    exact ih (by simpa [add] using unended)
  | case6 reading command rest ih =>
    obtain ⟨front, last, split, dangles⟩ := ih rfl
    rw [Token.closingOperators_taken, split]
    exact ⟨_ :: front, last, rfl, dangles⟩

/-- A stage that no other follows dangles exactly if its line, without its first token, ends in an
odd number of operators. -/
theorem isDangling_iff {tokens : List Token} {reading : Reading} {index : Nat}
    (found : (ofTokens tokens)[index]? = some reading) (ends : reading.closing ≠ .pipe) :
    reading.isDangling = true ↔ Token.closingOperators tokens.tail % 2 = 1 := by
  have whole := (isLine_ofTokens tokens).eq_concat found ends
  cases tokens with
  | nil => simp [ofTokens] at found
  | cons command rest =>
    obtain ⟨front, last, split, dangles⟩ := @exists_last_continued { command } rfl rest
    -- There is only one last stage.
    have same : last = reading := by
      have both := congrArg List.getLast? (split.symm.trans whole)
      simpa using both
    rw [← same]
    exact dangles

/-- A stage at which its line does not end as it should concludes it with an error, which is that of
its operator if nothing has been refused. -/
theorem Concludes.eq_error {reading : Reading} {part : List Action} {deeds : List Event}
    {last : Except LineError Stage} (concludes : reading.Concludes part deeds last)
    (unended : reading.closing ≠ .finish) :
    ∃ error, last = .error error ∧ ((∀ event ∈ deeds, event.error? = none) →
      ∃ operator, reading.closing = .dangling operator ∧ error = .missingOperand operator) := by
  cases concludes with
  | complete _ _ ended => exact absurd ended unended
  | dangling _ _ ended => exact ⟨_, rfl, fun _ => ⟨_, ended, rfl⟩⟩
  | @refused before event error split _ _ _ fails =>
    refine ⟨error, rfl, fun quiet => ?_⟩
    cases fails.error?_eq.symm.trans (quiet event (by simp [split]))

/-- A stage that does not dangle misses no operand, and is the last stage of its line if nothing has
been refused. -/
theorem Concludes.eq_ok {reading : Reading} {part : List Action} {deeds : List Event}
    {last : Except LineError Stage} (concludes : reading.Concludes part deeds last)
    (ended : reading.isDangling = false) :
    (∀ operator, last ≠ .error (.missingOperand operator)) ∧
      ((∀ event ∈ deeds, event.error? = none) → ∃ stage, last = .ok stage ∧
        stage.terminal = true) := by
  constructor
  · rintro operator rfl
    simp [isDangling, concludes.closing_eq] at ended
  · intro quiet
    cases concludes with
    | @complete stage _ _ _ terminal => exact ⟨stage, rfl, terminal⟩
    | dangling _ _ dangles => simp [isDangling, dangles] at ended
    | @refused before event error split _ _ _ fails =>
      cases fails.error?_eq.symm.trans (quiet event (by simp [split]))

end Reading

namespace Builder

variable {σ : Type} (handler : Handler σ)

/-- The steps of a line that ends in an operator. If the operators that it ends in, its first token
left out, are odd in number, then the last one has nothing to take: the last step is an error, that
of the operator unless something is refused before, and no stage ends the line. If they are even in
number, then the last one is itself taken as a command or a path: no operator misses anything, and
unless something is refused the last step is the stage that ends the line. -/
theorem steps_of_getLast? {tokens : List Token} {kind : Operator}
    (closes : tokens.getLast? = some (.operator kind)) (state : σ) :
    (Token.closingOperators tokens.tail % 2 = 1 →
      ∃ (front : List Stage) (error : LineError),
        ((steps tokens).run handler state).1 = front.map .ok ++ [.error error] ∧
        (∀ stage ∈ front, stage.terminal = false) ∧
        ((∀ event ∈ deeds ((steps tokens).events handler state), event.error? = none) →
          error = .missingOperand kind)) ∧
    (Token.closingOperators tokens.tail % 2 = 0 →
      (∀ operator, .error (.missingOperand operator) ∉ ((steps tokens).run handler state).1) ∧
      ((∀ event ∈ deeds ((steps tokens).events handler state), event.error? = none) →
        ∃ (front : List Stage) (last : Stage),
          ((steps tokens).run handler state).1 = front.map .ok ++ [.ok last] ∧
          (∀ stage ∈ front, stage.terminal = false) ∧ last.terminal = true)) := by
  have filled : tokens ≠ [] := by
    rintro rfl
    cases closes
  have yields := collect_yields handler tokens.length (ofTokens tokens) state
    (by simpa using Reading.length_ofTokens_le tokens)
  rw [readings_ofTokens, stdin_ofTokens] at yields
  obtain ⟨front, last, reading, part, split, early, found, -, concludes⟩ :=
    yields.concluded (Reading.isLine_ofTokens tokens) (Reading.ofTokens_ne_nil filled)
  rw [← steps] at split concludes
  have open_ended (stage : Stage) (among : stage ∈ front) := (early stage among).1
  rw [split]
  constructor
  · intro odd
    -- The line does not end at a stage that is complete, so it concludes with an error.
    have unended : reading.closing ≠ .finish := by
      intro ended
      have dangles := Reading.isDangling_iff found (by simp [ended])
      simp [Reading.isDangling, ended, odd] at dangles
    obtain ⟨error, rfl, missing⟩ := concludes.eq_error unended
    refine ⟨front, error, rfl, open_ended, fun quiet => ?_⟩
    obtain ⟨operator, ended, rfl⟩ := missing quiet
    obtain ⟨before, rfl⟩ := Reading.tokens_eq_concat found ended
    -- The operator that dangles is the last token.
    have same : operator = kind := by simpa using closes
    rw [same]
  · intro even
    -- If the last stage dangled, the number would be odd; and no other stage dangles.
    have ended : reading.isDangling = false := by
      cases closing : reading.closing with
      | finish | pipe => simp [Reading.isDangling, closing]
      | dangling operator =>
        have dangles := Reading.isDangling_iff found (by simp [closing])
        simpa [even] using dangles
    obtain ⟨operands, complete⟩ := concludes.eq_ok ended
    constructor
    · intro operator given
      rw [List.mem_append, List.mem_singleton] at given
      rcases given with early | same
      · simp at early
      · exact operands operator same.symm
    · intro quiet
      obtain ⟨stage, rfl, terminal⟩ := complete quiet
      exact ⟨front, stage, rfl, open_ended, terminal⟩

/-- A line of which the first operator takes the second as its path, so that the third is left with
nothing to take. -/
def crowdedLine : List Token :=
  [.word "cat", .operator .output, .operator .pipe, .operator .input]

theorem steps_of_getLast?_crowded :
    crowdedLine.getLast? = some (.operator .input) ∧
    Token.closingOperators crowdedLine.tail % 2 = 1 ∧
    (∀ event ∈ deeds ((steps crowdedLine).events granting 0), event.error? = none) ∧
    ∃ front : List Stage,
      ((steps crowdedLine).run granting 0).1 =
        front.map .ok ++ [.error (.missingOperand .input)] ∧
      ∀ stage ∈ front, stage.terminal = false := by
  have closes : crowdedLine.getLast? = some (.operator .input) := rfl
  have odd : Token.closingOperators crowdedLine.tail % 2 = 1 := rfl
  have granted : ∀ event ∈ deeds ((steps crowdedLine).events granting 0), event.error? = none := by
    decide
  obtain ⟨front, error, given, open_ended, missing⟩ := (steps_of_getLast? granting closes 0).1 odd
  rw [missing granted] at given
  exact ⟨closes, odd, granted, front, given, open_ended⟩

/-- A line that ends in an operator which is the path of the operator before. -/
def swallowedLine : List Token :=
  [.word "cat", .operator .output, .operator .output]

/-- A line can end in an operator and be built as a whole. -/
theorem steps_swallowedLine :
    swallowedLine.getLast? = some (.operator .output) ∧
    ((steps swallowedLine).run granting 0).1 =
      [.ok { program := "/bin/cat", arguments := ["cat"], stdout := .file ">" (.file 0)
             terminal := true }] ∧
    ¬ ∃ error, ((steps swallowedLine).run granting 0).1.getLast? = some (.error error) := by
  have given : ((steps swallowedLine).run granting 0).1 =
      [.ok { program := "/bin/cat", arguments := ["cat"], stdout := .file ">" (.file 0)
             terminal := true }] := rfl
  refine ⟨rfl, given, ?_⟩
  rintro ⟨error, last⟩
  rw [given] at last
  cases last

end Builder

end LineShell
