import LineShell.Text.Blank

/-! Words: a text falls apart at each of its blanks, and has no blank in its words. -/

namespace LineShell.Text

/-- Whether a text is one word: there is something, and nothing blank in it. -/
structure IsWord (text : List Char) : Prop where
  filled : text ≠ []
  solid : ∀ c ∈ text, isBlank c = false

/-- A character that is not blank puts no blank before a word. -/
theorem IsWord.cons {c : Char} {rest : List Char} (first : isBlank c = false)
    (others : ∀ d ∈ rest, isBlank d = false) : IsWord (c :: rest) :=
  ⟨List.cons_ne_nil c rest, List.forall_mem_cons.mpr ⟨first, others⟩⟩

/-- A text that begins inside a word has one. -/
theorem words_ne_nil {text : List Char} (starts : startsWord text = true) : words text ≠ [] := by
  -- Whether the word goes on or not, its first character is in it.
  induction text with
  | nil => cases starts
  | cons c rest ih =>
    have solid : isBlank c = false := by simpa [startsWord] using starts
    by_cases continues : startsWord rest = true
    · obtain ⟨word, others, split⟩ := List.exists_cons_of_ne_nil (ih continues)
      rw [words_glued solid continues, split]
      exact List.cons_ne_nil _ _
    · rw [words_single solid (by simpa using continues)]
      exact List.cons_ne_nil _ _

/-- A blank at the end does not change how a text begins. -/
theorem startsWord_append_blank {blank : Char} (white : isBlank blank = true)
    (before after : List Char) : startsWord (before ++ blank :: after) = startsWord before := by
  cases before with
  | nil => simp [startsWord, white]
  | cons c rest => rfl

/-- A text falls apart at each of its blanks; all that is known of words comes from this. -/
theorem words_append_blank {blank : Char} (white : isBlank blank = true)
    (before after : List Char) :
    words (before ++ blank :: after) = words before ++ words after := by
  -- The induction is on the text before the blank, one character of which is blank, the end of a
  -- word or in the middle of one.
  induction before with
  | nil => rw [List.nil_append, words_blank white, words, List.nil_append]
  | cons c rest ih =>
    rw [List.cons_append]
    by_cases gap : isBlank c = true
    · rw [words_blank gap, words_blank gap, ih]
    have solid : isBlank c = false := by simpa using gap
    have same := startsWord_append_blank white rest after
    by_cases continues : startsWord rest = true
    · rw [words_glued solid continues, words_glued solid (same.trans continues), ih]
      -- The word at hand is the first one before the blank, since there is one.
      obtain ⟨word, others, split⟩ := List.exists_cons_of_ne_nil (words_ne_nil continues)
      rw [split]
      rfl
    · have ends : startsWord rest = false := by simpa using continues
      rw [words_single solid ends, words_single solid (same.trans ends), ih]
      rfl

/-- A text that is one word has no other. -/
theorem IsWord.words_eq {text : List Char} (whole : IsWord text) : words text = [text] := by
  induction text with
  | nil => exact absurd rfl whole.filled
  | cons c rest ih =>
    have solid := whole.solid c List.mem_cons_self
    cases rest with
    | nil => exact words_single solid rfl
    | cons d rest =>
      -- Behind the first character the word goes on, so that belongs to the same word.
      have others : IsWord (d :: rest) :=
        ⟨List.cons_ne_nil d rest, fun e member => whole.solid e (List.mem_cons_of_mem c member)⟩
      have continues : startsWord (d :: rest) = true := by
        simp [startsWord, others.solid d List.mem_cons_self]
      rw [words_glued solid continues, ih others]
      rfl

/-- The words of a text are words. -/
theorem isWord_of_mem_words {text word : List Char} (member : word ∈ words text) : IsWord word := by
  -- The first word may grow by a character that is not blank; all others stay as they are.
  induction text generalizing word with
  | nil => cases member
  | cons c rest ih =>
    by_cases gap : isBlank c = true
    · exact ih (words_blank gap ▸ member)
    have solid : isBlank c = false := by simpa using gap
    by_cases continues : startsWord rest = true
    · obtain ⟨first, others, split⟩ := List.exists_cons_of_ne_nil (words_ne_nil continues)
      rw [words_glued solid continues, split, List.modifyHead_cons] at member
      rw [split] at ih
      rcases List.mem_cons.mp member with rfl | later
      · exact .cons solid (ih List.mem_cons_self).solid
      · exact ih (List.mem_cons_of_mem first later)
    · rw [words_single solid (by simpa using continues)] at member
      rcases List.mem_cons.mp member with rfl | later
      · exact .cons solid (List.forall_mem_nil _)
      · exact ih later

end LineShell.Text
