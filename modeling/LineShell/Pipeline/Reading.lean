import LineShell.Token

/-! Readings: how the tokens of a line fall into stages, before anything is done for them. -/

namespace LineShell

/-- What stands in a stage behind its command. -/
inductive Item
  | argument (word : String)
  | input (path : Token)
  | output (path : Token)
  deriving DecidableEq, Repr, Inhabited

/-- What ends a stage. -/
inductive Closing
  /-- The line ends. -/
  | finish
  /-- A pipe leads to the next stage. -/
  | pipe
  /-- The line ends behind an operator that takes a token. -/
  | dangling (operator : Operator)
  deriving DecidableEq, Repr, Inhabited

/-- A stage as it is written. Its command and its paths are tokens of any kind, taken by their
text. -/
structure Reading where
  command : Token
  items : List Item := []
  closing : Closing := .finish
  deriving DecidableEq, Repr, Inhabited

namespace Item

/-- The tokens that an item is written with. -/
def tokens : Item → List Token
  | .argument word => [.word word]
  | .input path => [.operator .input, path]
  | .output path => [.operator .output, path]

/-- The word of an argument. -/
def argument? : Item → Option String
  | .argument word => some word
  | _ => none

/-- The path of a file to read. -/
def input? : Item → Option String
  | .input path => some path.text
  | _ => none

/-- The path of a file to write. -/
def output? : Item → Option String
  | .output path => some path.text
  | _ => none

end Item

/-- The tokens that the end of a stage is written with. -/
def Closing.tokens : Closing → List Token
  | .finish => []
  | .pipe => [.operator .pipe]
  | .dangling operator => [.operator operator]

namespace Reading

/-- The tokens that a stage is written with. -/
def tokens (reading : Reading) : List Token :=
  reading.command :: reading.items.flatMap Item.tokens ++ reading.closing.tokens

/-- The command name and the arguments of a stage. -/
def arguments (reading : Reading) : List String :=
  reading.command.text :: reading.items.filterMap Item.argument?

/-- The file that a stage reads in the end. -/
def input? (reading : Reading) : Option String :=
  (reading.items.filterMap Item.input?).getLast?

/-- The file that a stage writes in the end. -/
def output? (reading : Reading) : Option String :=
  (reading.items.filterMap Item.output?).getLast?

/-- A stage with one more item. -/
def add (reading : Reading) (item : Item) : Reading :=
  { reading with items := reading.items ++ [item] }

/-- The stages of which the first has been read up to the given tokens. -/
def continued (reading : Reading) : List Token → List Reading
  | [] => [reading]
  | .word word :: rest => continued (reading.add (.argument word)) rest
  | [.operator operator] => [{ reading with closing := .dangling operator }]
  | .operator .input :: path :: rest => continued (reading.add (.input path)) rest
  | .operator .output :: path :: rest => continued (reading.add (.output path)) rest
  | .operator .pipe :: command :: rest =>
    { reading with closing := .pipe } :: continued { command } rest

/-- The stages of a line. -/
def ofTokens : List Token → List Reading
  | [] => []
  | command :: rest => continued { command } rest

/-- Adding an item adds its tokens, as long as nothing has ended the stage. -/
theorem tokens_add {reading : Reading} (item : Item) (unended : reading.closing = .finish) :
    (reading.add item).tokens = reading.tokens ++ item.tokens := by
  simp [tokens, add, unended, Closing.tokens]

/-- A stage that goes on loses none of the tokens behind it and invents none. -/
theorem flatMap_tokens_continued {reading : Reading} (unended : reading.closing = .finish)
    (rest : List Token) :
    (reading.continued rest).flatMap tokens = reading.tokens ++ rest := by
  fun_induction continued reading rest with
  | case1 => simp
  | case2 reading word rest ih =>
    rw [ih (by simpa [add] using unended), tokens_add _ unended]
    simp [Item.tokens]
  | case3 reading operator => simp [tokens, unended, Closing.tokens]
  | case4 reading path rest ih =>
    rw [ih (by simpa [add] using unended), tokens_add _ unended]
    simp [Item.tokens]
  | case5 reading path rest ih =>
    rw [ih (by simpa [add] using unended), tokens_add _ unended]
    simp [Item.tokens]
  | case6 reading command rest ih =>
    -- The pipe ends this stage, and the next one starts with its command alone.
    rw [List.flatMap_cons, ih rfl]
    simp [tokens, unended, Closing.tokens]

/-- The stages of a line are written with exactly its tokens. -/
theorem flatMap_tokens_ofTokens (line : List Token) :
    (ofTokens line).flatMap tokens = line := by
  cases line with
  | nil => rfl
  | cons command rest =>
    rw [ofTokens, flatMap_tokens_continued rfl]
    simp [tokens, Closing.tokens]

/-- Whether readings make up a line: a pipe ends each of them but the last. -/
def IsLine : List Reading → Prop
  | [] => True
  | [last] => last.closing ≠ .pipe
  | reading :: next :: rest => reading.closing = .pipe ∧ IsLine (next :: rest)

/-- The line goes on behind the items of a stage as if they had been read one by one. -/
theorem continued_items (reading : Reading) (items : List Item) (rest : List Token) :
    reading.continued (items.flatMap Item.tokens ++ rest) =
      ({ reading with items := reading.items ++ items } : Reading).continued rest := by
  -- Each item is read as it is written, so it ends up where it was.
  induction items generalizing reading with
  | nil => simp
  | cons item items ih =>
    have first : reading.continued (item.tokens ++ (items.flatMap Item.tokens ++ rest)) =
        (reading.add item).continued (items.flatMap Item.tokens ++ rest) := by
      cases item <;> simp [Item.tokens, continued]
    rw [List.flatMap_cons, List.append_assoc, first, ih]
    simp [add]

/-- The stages of which the first goes on make up a line. -/
theorem isLine_continued {reading : Reading} (unended : reading.closing = .finish)
    (rest : List Token) : IsLine (reading.continued rest) := by
  fun_induction continued reading rest with
  | case1 reading => simp [IsLine, unended]
  | case2 reading _ rest ih | case4 reading _ rest ih | case5 reading _ rest ih =>
    exact ih (by simpa [add] using unended)
  | case3 reading operator => simp [IsLine]
  | case6 reading command rest ih =>
    -- There is a next stage, since it has a command at least.
    cases others : ({ command } : Reading).continued rest with
    | nil =>
      have written := @flatMap_tokens_continued { command } rfl rest
      simp [others, tokens] at written
    | cons next others => exact ⟨rfl, others ▸ ih rfl⟩

/-- The stages of a line make up a line. -/
theorem isLine_ofTokens (line : List Token) : IsLine (ofTokens line) := by
  cases line with
  | nil => trivial
  | cons command rest => exact isLine_continued rfl rest

/-- Stages that make up a line are read back from their tokens. -/
theorem ofTokens_flatMap_tokens {readings : List Reading} (line : IsLine readings) :
    ofTokens (readings.flatMap tokens) = readings := by
  induction readings with
  | nil => rfl
  | cons reading rest ih =>
    rw [List.flatMap_cons, tokens, List.cons_append, List.cons_append, List.append_assoc, ofTokens,
      continued_items]
    cases rest with
    | nil =>
      -- The last stage ends with the line, or behind an operator that the line ends with.
      obtain ⟨command, items, closing⟩ := reading
      cases closing with
      | finish => simp [Closing.tokens, continued]
      | pipe => exact absurd rfl line
      | dangling operator => simp [Closing.tokens, continued]
    | cons next rest =>
      obtain ⟨piped, line⟩ := line
      have others := ih line
      rw [List.flatMap_cons, tokens, List.cons_append, List.cons_append, ofTokens] at others
      obtain ⟨command, items, closing⟩ := reading
      subst piped
      have mark : Closing.pipe.tokens = [.operator .pipe] := rfl
      simp only [mark, List.flatMap_cons, tokens, List.cons_append, List.nil_append, continued,
        others]

/-- There is one way only to read a line: its stages are those that make up a line and are written
with its tokens. -/
theorem ofTokens_eq_iff {line : List Token} {readings : List Reading} :
    ofTokens line = readings ↔ IsLine readings ∧ readings.flatMap tokens = line := by
  constructor
  · rintro rfl
    exact ⟨isLine_ofTokens line, flatMap_tokens_ofTokens line⟩
  · rintro ⟨whole, rfl⟩
    exact ofTokens_flatMap_tokens whole

end Reading

end LineShell
