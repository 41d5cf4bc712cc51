import LineShell.Proofs.Text.Decimal
import LineShell.Proofs.Text.Words
import LineShell.Token.Written

/-! Writing: which tokens a line can hold, and that the line written for them holds just these. -/

namespace LineShell

/-- No operator is written with a blank. -/
theorem Operator.isBlank_symbol (operator : Operator) :
    Text.isBlank operator.symbol = false := by
  cases operator <;> rfl

/-- No blank stands in a number. -/
theorem Text.isWord_decimalDigits (n : Int) : IsWord (decimalDigits n) := by
  -- A digit is far from all blanks.
  have digit {c : Char} (told : c.isDigit = true) : isBlank c = false := by
    have bounds : 48 ≤ c.toNat ∧ c.toNat ≤ 57 := by
      simpa [Char.isDigit, UInt32.le_iff_toNat_le] using told
    simp only [isBlank, Bool.or_eq_false_iff, Bool.and_eq_false_iff, beq_eq_false_iff_ne,
      decide_eq_false_iff_not]
    omega
  have digits (m : Nat) : ∀ c ∈ Nat.toDigits 10 m, isBlank c = false := fun c member =>
    digit (Nat.isDigit_of_mem_toDigits (by decide) (by decide) member)
  cases n with
  | ofNat m => exact ⟨Nat.toDigits_ne_nil, digits m⟩
  | negSucc m => exact .cons rfl (digits (m + 1))

namespace Token

/-- What can stand in a line is not empty, holds nothing blank and is not the word that a code takes
the place of. -/
theorem isWritable_iff {word : String} :
    isWritable word = true ↔
      word ≠ "" ∧ (∀ c ∈ word.toList, Text.isBlank c = false) ∧ word ≠ lastCode := by
  simp only [isWritable, Bool.and_eq_true, Bool.not_eq_true', decide_eq_true_eq,
    List.any_eq_false, String.isEmpty_eq_false_iff, Bool.not_eq_true, and_assoc]

/-- What can stand in a line is one word. -/
theorem isWord_of_isWritable {word : String} (writable : isWritable word = true) :
    Text.IsWord word.toList := by
  obtain ⟨filled, solid, -⟩ := isWritable_iff.mp writable
  exact ⟨fun empty => filled (String.toList_eq_nil_iff.mp empty), solid⟩

/-- One word can stand in a line, unless a code takes the place of it. -/
theorem isWritable_of_isWord {text : List Char} (whole : Text.IsWord text)
    (other : String.ofList text ≠ lastCode) : isWritable (String.ofList text) = true := by
  refine isWritable_iff.mpr ⟨fun empty => whole.filled ?_, by simpa using whole.solid, other⟩
  simpa using congrArg String.toList empty

/-- The character of an operator is split off, and the rest of its word is one token. -/
theorem ofWord_symbol (kind : Operator) (rest : List Char) :
    ofWord (kind.symbol :: rest) =
      .operator kind :: if rest.isEmpty then [] else [.word (String.ofList rest)] := by
  simp [ofWord]

/-- A word that does not open with an operator is one token. -/
theorem ofWord_of_plain {word : String} (filled : word.toList ≠ [])
    (plain : opensWithOperator word = false) : ofWord word.toList = [.word word] := by
  obtain ⟨c, rest, letters⟩ := List.exists_cons_of_ne_nil filled
  have other : Operator.ofSymbol? c = none := by
    simpa [opensWithOperator, letters] using plain
  rw [letters, ofWord, other, ← letters, String.ofList_toList]

/-- A word of a line stays one that a line can hold when the last exit code is put in, and does not
come to open with an operator. -/
theorem exists_expand (code : Int) {text : List Char} (whole : Text.IsWord text) :
    ∃ word, expand code (.word (String.ofList text)) = .word word ∧ isWritable word = true ∧
      (opensWithOperator word = true → opensWithOperator (String.ofList text) = true) := by
  by_cases same : String.ofList text = lastCode
  · -- A number stands there instead, which begins with a digit or a minus sign.
    refine ⟨Text.decimal code, by simp [expand, same],
      isWritable_of_isWord (Text.isWord_decimalDigits code) (Text.decimal_ne_lastCode code), ?_⟩
    · intro opens
      have single := ofWord_decimalDigits code
      obtain ⟨c, rest, digits, -⟩ := Text.exists_first code
      obtain ⟨kind, read⟩ : ∃ kind, Operator.ofSymbol? c = some kind :=
        Option.isSome_iff_exists.mp (by simpa [opensWithOperator, Text.decimal, digits] using opens)
      rw [digits, ofWord, read] at single
      cases single
  · exact ⟨String.ofList text, by simp [expand, same],
      isWritable_of_isWord whole same, id⟩

/-- The tokens of words can stand in a line, whatever stands before them. -/
theorem writable_of_words (code : Int) {chunks : List (List Char)}
    (whole : ∀ chunk ∈ chunks, Text.IsWord chunk) (glued : Bool) :
    Writable glued ((chunks.flatMap ofWord).map (expand code)) := by
  -- Each word gives an operator, an operator with a word glued to it, or a plain word.
  induction chunks generalizing glued with
  | nil => trivial
  | cons chunk others ih =>
    obtain ⟨first, rest⟩ := List.forall_mem_cons.mp whole
    obtain ⟨c, letters, rfl⟩ := List.exists_cons_of_ne_nil first.filled
    rw [List.flatMap_cons, List.map_append, ofWord]
    cases read : Operator.ofSymbol? c with
    | none =>
      obtain ⟨word, expanded, writable, opens⟩ := exists_expand code first
      have plain : opensWithOperator word = true → glued = true := fun opened => by
        simpa [opensWithOperator, read] using opens opened
      simp only [List.map_cons, List.map_nil, expanded]
      exact ⟨writable, plain, ih rest false⟩
    | some kind =>
      cases letters with
      | nil => exact ih rest true
      | cons d letters =>
        have behind : Text.IsWord (d :: letters) :=
          ⟨List.cons_ne_nil d letters, (List.forall_mem_cons.mp first.solid).2⟩
        obtain ⟨word, expanded, writable, -⟩ := exists_expand code behind
        simp only [List.isEmpty_cons, Bool.false_eq_true, if_false, List.map_cons, List.map_nil,
          expanded]
        exact ⟨writable, fun _ => rfl, ih rest false⟩

/-- The tokens of a line can stand in a line. -/
theorem writable_ofLine (line : String) (code : Int) : Writable false (ofLine line code) :=
  writable_of_words code (fun _ member => Text.isWord_of_mem_words member) false

/-- Tokens that can stand in a line hold no word that the last exit code takes the place of. -/
theorem map_expand_of_writable {glued : Bool} {tokens : List Token}
    (writable : Writable glued tokens) (code : Int) : tokens.map (expand code) = tokens := by
  induction tokens generalizing glued with
  | nil => rfl
  | cons token rest ih =>
    cases token with
    | operator kind => rw [List.map_cons, ih writable, expand]
    | word text =>
      have other : text ≠ lastCode := (isWritable_iff.mp writable.1).2.2
      rw [List.map_cons, ih writable.2.2, expand, if_neg other]

/-- The words of the line that tokens are written in: a word is glued to an operator before it. -/
def chunks : List Token → List (List Char)
  | [] => []
  | .word text :: rest => text.toList :: chunks rest
  | .operator kind :: .word text :: rest => (kind.symbol :: text.toList) :: chunks rest
  | .operator kind :: rest => [kind.symbol] :: chunks rest

/-- An operator changes nothing for what follows it, unless a word does. -/
theorem writable_of_unglued {rest : List Token}
    (alone : ∀ text others, rest = .word text :: others → False) (writable : Writable true rest) :
    Writable false rest := by
  cases rest with
  | nil => trivial
  | cons token rest =>
    cases token with
    | word text => exact absurd rfl (alone text rest)
    | operator kind => exact writable

/-- Behind a token that nothing is glued to, the other tokens follow as words of their own. -/
theorem words_append_writeFrom {chunk : List Char} (whole : Text.IsWord chunk)
    (rest : List Token) :
    Text.words (chunk ++ writeFrom false false rest) =
      chunk :: Text.words (writeFrom true false rest) := by
  -- A blank is put before the next token, if there is one.
  cases rest with
  | nil => simpa [writeFrom, Text.words] using whole.words_eq
  | cons token rest =>
    have gap :
        writeFrom false false (token :: rest) = ' ' :: writeFrom true false (token :: rest) := by
      cases token <;> rfl
    rw [gap, Text.words_append_blank rfl, whole.words_eq, List.singleton_append]

/-- Writing tokens puts blanks between their words, and nowhere else. -/
theorem words_writeFrom {tokens : List Token} (writable : Writable false tokens) :
    Text.words (writeFrom true false tokens) = chunks tokens := by
  fun_induction chunks tokens with
  | case1 => rfl
  | case2 text rest ih =>
    have whole := isWord_of_isWritable writable.1
    have written : writeFrom true false (.word text :: rest) =
        text.toList ++ writeFrom false false rest := rfl
    rw [written, words_append_writeFrom whole, ih writable.2.2]
  | case3 kind text rest ih =>
    have whole := isWord_of_isWritable writable.1
    have written : writeFrom true false (.operator kind :: .word text :: rest) =
        (kind.symbol :: text.toList) ++ writeFrom false false rest := rfl
    rw [written, words_append_writeFrom (.cons kind.isBlank_symbol whole.solid), ih writable.2.2]
  | case4 kind rest alone ih =>
    have whole : Text.IsWord [kind.symbol] := .cons kind.isBlank_symbol (List.forall_mem_nil _)
    -- No word follows, so nothing is glued to the operator.
    have written : writeFrom true false (.operator kind :: rest) =
        [kind.symbol] ++ writeFrom false true rest := rfl
    have apart : writeFrom false true rest = writeFrom false false rest := by
      cases rest with
      | nil => rfl
      | cons token rest =>
        cases token with
        | word text => exact absurd rfl (alone text rest)
        | operator next => rfl
    rw [written, apart, words_append_writeFrom whole, ih (writable_of_unglued alone writable)]

/-- The words of a line read as the tokens that they were written for. -/
theorem flatMap_ofWord_chunks {tokens : List Token} (writable : Writable false tokens) :
    (chunks tokens).flatMap ofWord = tokens := by
  fun_induction chunks tokens with
  | case1 => rfl
  | case2 text rest ih =>
    obtain ⟨word, opens, others⟩ := writable
    -- Nothing stands before this word that it could be glued to.
    have plain : opensWithOperator text = false := by
      cases opened : opensWithOperator text with
      | false => rfl
      | true => exact absurd (opens opened) Bool.false_ne_true
    rw [List.flatMap_cons, ofWord_of_plain (isWord_of_isWritable word).filled plain, ih others]
    rfl
  | case3 kind text rest ih =>
    obtain ⟨word, -, others⟩ := writable
    have filled := (isWord_of_isWritable word).filled
    rw [List.flatMap_cons, ofWord_symbol, if_neg (by simpa using filled), String.ofList_toList,
      ih others]
    rfl
  | case4 kind rest alone ih =>
    have others := writable_of_unglued alone writable
    rw [List.flatMap_cons, ofWord_symbol, ih others]
    rfl

/-- A line that is written for tokens holds them. -/
theorem ofLine_write_of_writable {tokens : List Token} (writable : Writable false tokens)
    (code : Int) : ofLine (write tokens) code = tokens := by
  rw [ofLine, scan, write, String.toList_ofList, words_writeFrom writable,
    flatMap_ofWord_chunks writable, map_expand_of_writable writable]

/-- Whether an operator stands right before a place among tokens; `glued` says that one stands
before the first of them. -/
def FollowsOperator (glued : Bool) (tokens : List Token) : Nat → Prop
  | 0 => glued = true
  | before + 1 => ∃ kind, tokens[before]? = some (.operator kind)

/-- The place behind a word is the first of what follows it, with no operator before it. -/
theorem followsOperator_word {glued : Bool} {text : String} {rest : List Token} {index : Nat} :
    FollowsOperator glued (.word text :: rest) (index + 1) ↔ FollowsOperator false rest index := by
  cases index <;> simp [FollowsOperator]

/-- The place behind an operator is the first of what follows it, with an operator before it. -/
theorem followsOperator_operator {glued : Bool} {kind : Operator} {rest : List Token}
    {index : Nat} :
    FollowsOperator glued (.operator kind :: rest) (index + 1) ↔
      FollowsOperator true rest index := by
  cases index <;> simp [FollowsOperator]

/-- Tokens can stand in a line if each of their words can stand in one, and if those that open with
an operator have an operator right before them. -/
theorem writable_iff {glued : Bool} {tokens : List Token} :
    Writable glued tokens ↔ ∀ index word, tokens[index]? = some (.word word) →
      isWritable word = true ∧
        (opensWithOperator word = true → FollowsOperator glued tokens index) := by
  -- What stands before the first of the tokens changes from one token to the next.
  induction tokens generalizing glued with
  | nil => simp [Writable]
  | cons token rest ih =>
    cases token with
    | operator kind =>
      constructor
      · intro writable index word found
        cases index with
        | zero => cases found
        | succ index =>
          obtain ⟨fits, opens⟩ := ih.mp writable index word found
          exact ⟨fits, fun opened => followsOperator_operator.mpr (opens opened)⟩
      · intro stands
        refine ih.mpr fun index word found => ?_
        obtain ⟨fits, opens⟩ := stands (index + 1) word found
        exact ⟨fits, fun opened => followsOperator_operator.mp (opens opened)⟩
    | word text =>
      constructor
      · rintro ⟨fits, opens, writable⟩ index word found
        cases index with
        | zero =>
          cases found
          exact ⟨fits, opens⟩
        | succ index =>
          obtain ⟨fits, opens⟩ := ih.mp writable index word found
          exact ⟨fits, fun opened => followsOperator_word.mpr (opens opened)⟩
      · intro stands
        obtain ⟨fits, opens⟩ := stands 0 text rfl
        refine ⟨fits, opens, ih.mpr fun index word found => ?_⟩
        obtain ⟨fits, opens⟩ := stands (index + 1) word found
        exact ⟨fits, fun opened => followsOperator_word.mp (opens opened)⟩

/-- The tokens that some line holds are those whose words are not empty, hold nothing blank and are
not the word that a code takes the place of, and have an operator right before them if they open
with one. The line that is written for such tokens holds just these. -/
theorem exists_ofLine_iff (code : Int) (tokens : List Token) :
    ((∃ line, ofLine line code = tokens) ↔
      ∀ index word, tokens[index]? = some (.word word) →
        word ≠ "" ∧ (∀ c ∈ word.toList, Text.isBlank c = false) ∧ word ≠ lastCode ∧
        (opensWithOperator word = true →
          ∃ before kind, index = before + 1 ∧ tokens[before]? = some (.operator kind))) ∧
    ((∃ line, ofLine line code = tokens) ↔ ofLine (write tokens) code = tokens) := by
  -- Both are the same as that the tokens can stand in a line.
  have held : (∃ line, ofLine line code = tokens) ↔ Writable false tokens := by
    constructor
    · rintro ⟨line, rfl⟩
      exact writable_ofLine line code
    · intro writable
      exact ⟨write tokens, ofLine_write_of_writable writable code⟩
  have preceded (index : Nat) : FollowsOperator false tokens index ↔
      ∃ before kind, index = before + 1 ∧ tokens[before]? = some (.operator kind) := by
    cases index <;> simp [FollowsOperator]
  refine ⟨held.trans (writable_iff.trans ?_), fun line => ?_, fun same => ⟨_, same⟩⟩
  · simp only [isWritable_iff, preceded, and_assoc]
  · exact ofLine_write_of_writable (held.mp line) code

example :
    write [.operator .pipe, .word ">x", .word "y", .operator .input, .operator .input,
      .word "<$?"] = "|>x y < <<$?" := by
  decide +kernel

end Token

end LineShell
