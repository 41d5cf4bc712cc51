import LineShell.Error
import LineShell.Proofs.Text.Quoted

/-! Missing names: a message about a name that was not found tells which name it was. -/

namespace LineShell.LookupError

/-- The texts that report that a name was not found: that of the error alone, and that of a line
that was given up for it. -/
inductive Reports (name : String) : String → Prop
  | alone : Reports name (notFound name).message
  | wrapped : Reports name (LineError.lookup (notFound name)).message

/-- The name that a text has in quotes, with its escapes undone. -/
def quotedName? (text : String) : Option String :=
  (Text.unquote? (text.toList.dropWhile (· ≠ '"'))).map fun read => String.ofList read.1

/-- What stands around the quotes has neither a quote nor a control character in it. -/
structure IsFrame (frame : List Char) : Prop where
  unquoted : '"' ∉ frame
  shown : ∀ c ∈ frame, ¬ Text.IsControl c

instance (frame : List Char) : Decidable (IsFrame frame) :=
  decidable_of_iff ('"' ∉ frame ∧ (frame.all fun c => decide (¬ Text.IsControl c)) = true) <| by
    rw [List.all_eq_true]
    simp only [decide_eq_true_eq]
    exact ⟨fun both => ⟨both.1, both.2⟩, fun frame => ⟨frame.unquoted, frame.shown⟩⟩

/-- A report has the name in quotes, and nothing else in quotes. -/
theorem Reports.exists_frame {name text : String} (reports : Reports name text) :
    ∃ before after, IsFrame before ∧ IsFrame after ∧
      text.toList = before ++ '"' :: name.toList.flatMap Text.quoteChar ++ '"' :: after := by
  -- Only what is in front of the quotes depends on whether a line was given up.
  have alone : (notFound name).message.toList =
      '"' :: name.toList.flatMap Text.quoteChar ++
        '"' :: ": executable file not found in $PATH".toList := by
    rw [message, String.toList_append, Text.quoteString, String.toList_ofList, Text.quote,
      List.append_assoc]
    rfl
  have after : IsFrame ": executable file not found in $PATH".toList := by decide
  cases reports with
  | alone => exact ⟨[], _, by decide, after, alone⟩
  | wrapped =>
    have before : IsFrame "Resolving binary: ".toList := by decide
    refine ⟨_, _, before, after, ?_⟩
    rw [LineError.message, String.toList_append, LineError.detail, alone, List.append_assoc]
    rfl

/-- What is quoted behind a frame is read back. -/
theorem quotedName?_eq {name text : String} {before after : List Char} (frame : IsFrame before)
    (quoted : text.toList = before ++ '"' :: name.toList.flatMap Text.quoteChar ++ '"' :: after) :
    quotedName? text = some name := by
  -- The first quote is the one that opens.
  have opening : text.toList.dropWhile (· ≠ '"') =
      '"' :: (name.toList.flatMap Text.quoteChar ++ '"' :: after) := by
    have front : ∀ c ∈ before, decide (c ≠ '"') = true := by
      intro c member
      have other : c ≠ '"' := by
        rintro rfl
        exact frame.unquoted member
      simpa using other
    rw [quoted, List.append_assoc, List.dropWhile_append_of_pos front]
    rfl
  rw [quotedName?, opening, Text.unquote?,
    Text.unquoteBody?_of_spells (Text.spells_quote name.toList), Option.map_some,
    String.ofList_toList]

/-- A message about a name that was not found tells which name it was, be it of the error alone or
of the line that was given up for it: the name is read back from it, so that it is the message of no
other name. Behind the first quote stands each character of the name as the rule for it says, quotes
and backslashes behind a backslash, and the quote that closes is the only one there that is not
escaped. The message has no control character in it, whatever the name has. -/
theorem quotedName?_of_reports {name text : String} (reports : Reports name text) :
    quotedName? text = some name ∧
    (∀ other, Reports other text → other = name) ∧
    (∃ before body after, text.toList = before ++ '"' :: body ++ '"' :: after ∧
      '"' ∉ before ∧ '"' ∉ after ∧ Text.Spells name.toList body ∧ Text.IsClosable body ∧
      ∀ closed rest, Text.IsClosable closed →
        text.toList = before ++ '"' :: closed ++ '"' :: rest → closed = body) ∧
    ∀ c ∈ text.toList, ¬ Text.IsControl c := by
  obtain ⟨before, after, front, back, quoted⟩ := reports.exists_frame
  have spells := Text.spells_quote name.toList
  have named : quotedName? text = some name := quotedName?_eq front quoted
  refine ⟨named, ?_, ⟨before, _, after, quoted, front.unquoted, back.unquoted, spells,
    spells.isClosable, ?_⟩, ?_⟩
  · -- One text is read as one name.
    intro other same
    obtain ⟨_, _, frame, -, split⟩ := same.exists_frame
    exact Option.some.inj ((quotedName?_eq frame split).symm.trans named)
  · -- What else could be closed begins at the same quote.
    intro closed rest closable split
    have same : closed ++ '"' :: rest = name.toList.flatMap Text.quoteChar ++ '"' :: after := by
      rw [quoted, List.append_assoc, List.append_assoc, List.append_cancel_left_eq] at split
      simpa using split.symm
    exact closable.unique spells.isClosable same
  · -- Neither the frame nor the quotes nor what is between them has a control character.
    intro c member
    rw [quoted, List.mem_append, List.mem_append, List.mem_cons, List.mem_cons] at member
    rcases member with (first | rfl | inside) | rfl | last
    · exact front.shown c first
    · decide
    · exact spells.not_isControl inside
    · decide
    · exact back.shown c last

/-- A name with a quote, a backslash and a control character. -/
def crookedName : String :=
  "a\"\\\x1b"

/-- What is told of it where a line was given up. -/
def crookedReport : String :=
  "Resolving binary: \"a\\\"\\\\\\u\x7b1b\x7d\": executable file not found in $PATH"

/-- The escapes are told from the characters of the name that look like them. -/
theorem quotedName?_of_reports_crooked :
    Reports crookedName crookedReport ∧ quotedName? crookedReport = some crookedName ∧
    (∀ other, Reports other crookedReport → other = crookedName) ∧
    ∀ c ∈ crookedReport.toList, ¬ Text.IsControl c := by
  have told : (LineError.lookup (notFound crookedName)).message = crookedReport := by
    decide +kernel
  have reports : Reports crookedName crookedReport := told ▸ .wrapped
  obtain ⟨named, alone, -, shown⟩ := quotedName?_of_reports reports
  exact ⟨reports, named, alone, shown⟩

/-- A Hangul filler is a letter and yet shown by its number; a sound mark of half width extends the
character before it and yet is shown as it is. -/
theorem message_fillerMark :
    (notFound "\u3164\uff9e").message =
      "\"\\u\x7b3164\x7d\uff9e\": executable file not found in $PATH" ∧
    (notFound "\u3164\uff9e").message ≠
      "\"\u3164\\u\x7bff9e\x7d\": executable file not found in $PATH" := by
  decide +kernel

end LineShell.LookupError
