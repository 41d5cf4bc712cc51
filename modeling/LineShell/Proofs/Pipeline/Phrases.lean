import LineShell.Pipeline.Phrase
import LineShell.Proofs.Pipeline.Bindings
import LineShell.Proofs.Token.Spacing
import LineShell.Proofs.Token.Writing

/-! Phrases: a line that is typed for some commands is built into a stage for each of them, with its
arguments, its files and the pipes between them. -/

namespace LineShell

namespace Token

/-- A line falls apart at each of its blanks. -/
theorem ofLine_append_blank {blank : Char} (white : Text.isBlank blank = true)
    (before after : String) (code : Int) :
    ofLine (before ++ String.singleton blank ++ after) code =
      ofLine before code ++ ofLine after code := by
  -- A single blank is a run of blanks.
  have run : Text.IsGap (String.singleton blank).toList := by
    simpa using Text.isGap_singleton white
  exact ofLine_append_gap run before after code

/-- What is joined by blanks is read one by one. -/
theorem ofLine_intercalate (pieces : List String) (code : Int) :
    ofLine (" ".intercalate pieces) code = pieces.flatMap (ofLine · code) := by
  -- The last piece has no blank behind it, so it is a case of its own.
  induction pieces with
  | nil => rfl
  | cons first rest ih =>
    cases rest with
    | nil => rw [String.intercalate_singleton, List.flatMap_singleton]
    | cons second rest =>
      have gap : " " = String.singleton ' ' := rfl
      rw [String.intercalate_cons_cons, gap, ofLine_append_blank rfl, ← gap, ih]
      rfl

/-- A word alone is read as a word of a line. -/
theorem ofLine_of_isWord {word : String} (whole : Text.IsWord word.toList) (code : Int) :
    ofLine word code = (ofWord word.toList).map (expand code) := by
  rw [ofLine, scan, whole.words_eq, List.flatMap_singleton]

/-- A word that stands for itself is a token of its own. -/
theorem ofLine_of_isPlain {word : String} (plain : isPlain word = true) (code : Int) :
    ofLine word code = [.word word] := by
  simp only [isPlain, Bool.and_eq_true, Bool.not_eq_true'] at plain
  obtain ⟨writable, closed⟩ := plain
  -- It is a single word, without an operator to be split off and without a code to be put in.
  have whole := isWord_of_isWritable writable
  rw [ofLine_of_isWord whole, ofWord_of_plain whole.filled closed, List.map_singleton, expand,
    if_neg (isWritable_iff.mp writable).2.2]

/-- An operator with a word glued to it is the operator and the word. -/
theorem ofLine_glued (kind : Operator) {word : String} (writable : isWritable word = true)
    (code : Int) : ofLine (kind.text ++ word) code = [.operator kind, .word word] := by
  -- Only the first character is looked at, so the word may open with an operator of its own.
  have whole := isWord_of_isWritable writable
  have letters : (kind.text ++ word).toList = kind.symbol :: word.toList := by
    simp [Operator.text]
  have glued : Text.IsWord (kind.text ++ word).toList :=
    letters ▸ .cons kind.isBlank_symbol whole.solid
  have filled : word.toList.isEmpty = false := List.isEmpty_eq_false_iff.mpr whole.filled
  have other : word ≠ lastCode := (isWritable_iff.mp writable).2.2
  rw [ofLine_of_isWord glued, letters, ofWord_symbol, filled, String.ofList_toList]
  simp [expand, other]

end Token

namespace Phrase

/-- A part is typed as its item is read. -/
theorem Part.ofLine_text (part : Part) (code : Int) :
    Token.ofLine part.text code = part.item.tokens := by
  cases part with
  | argument word plain => exact Token.ofLine_of_isPlain plain code
  | input path writable => exact Token.ofLine_glued .input writable code
  | output path writable => exact Token.ofLine_glued .output writable code

/-- A phrase is typed as its reading is written. -/
theorem ofLine_text (phrase : Phrase) (closing : Closing) (code : Int) :
    Token.ofLine phrase.text code ++ closing.tokens = (phrase.reading closing).tokens := by
  have parts : (fun part : Part => Token.ofLine part.text code) = fun part => part.item.tokens :=
    funext fun part => part.ofLine_text code
  rw [text, Token.ofLine_intercalate, words, List.flatMap_cons, List.flatMap_map, parts,
    Token.ofLine_of_isPlain phrase.plain, Reading.tokens, reading, List.flatMap_map]
  rfl

/-- The line that is typed for some phrases has the tokens that their readings are written with. -/
theorem ofLine_line (phrases : List Phrase) (code : Int) :
    Token.ofLine (line phrases) code = (readings phrases).flatMap Reading.tokens := by
  fun_induction readings phrases with
  | case1 => rfl
  | case2 last =>
    rw [List.flatMap_singleton, ← last.ofLine_text .finish code, line, List.map_singleton,
      String.intercalate_singleton, Closing.tokens, List.append_nil]
  | case3 phrase next rest ih =>
    -- The bar between two phrases stands between blanks, so it is a word of its own.
    have bar : " | " = String.singleton ' ' ++ Operator.pipe.text ++ String.singleton ' ' := rfl
    have split : line (phrase :: next :: rest) = phrase.text ++ String.singleton ' ' ++
        (Operator.pipe.text ++ String.singleton ' ' ++ line (next :: rest)) := by
      simp only [line, List.map_cons, String.intercalate_cons_cons, bar, String.append_assoc]
    have alone : Token.ofLine Operator.pipe.text code = Closing.pipe.tokens := rfl
    rw [List.flatMap_cons, ← ih, ← phrase.ofLine_text .pipe code, split,
      Token.ofLine_append_blank rfl, Token.ofLine_append_blank rfl, alone, List.append_assoc]

/-- What some phrases read as is a line. -/
theorem isLine_readings (phrases : List Phrase) : Reading.IsLine (readings phrases) := by
  fun_induction readings phrases with
  | case1 => trivial
  | case2 last => simp [Reading.IsLine, reading]
  | case3 phrase next rest ih =>
    -- Whatever follows the next phrase, it has a reading of its own.
    obtain ⟨reading, others, split⟩ :
        ∃ reading others, readings (next :: rest) = reading :: others := by
      cases rest <;> exact ⟨_, _, rfl⟩
    rw [split] at ih ⊢
    exact ⟨rfl, ih⟩

/-- The line that is typed for some phrases is read as those phrases. -/
theorem ofTokens_line (phrases : List Phrase) (code : Int) :
    Reading.ofTokens (Token.ofLine (line phrases) code) = readings phrases := by
  rw [ofLine_line, Reading.ofTokens_flatMap_tokens (isLine_readings phrases)]

/-- What is done to prepare a phrase is what it asks for, and a pipe if one follows. -/
theorem preparation_reading (phrase : Phrase) (closing : Closing) :
    (phrase.reading closing).preparation =
      phrase.actions ++ if closing = .pipe then [.pipe] else [] := by
  have items : (phrase.parts.map Part.item).filterMap Item.action? =
      phrase.parts.filterMap (·.item.action?) := List.filterMap_map
  rw [Reading.preparation, actions, reading, items]
  rfl

/-- What the items of a reading name is what the parts of its phrase name. -/
theorem filterMap_items_reading (phrase : Phrase) (closing : Closing) {read : Item → Option String}
    {typed : Part → Option String} (same : ∀ part : Part, read part.item = typed part) :
    (phrase.reading closing).items.filterMap read = phrase.parts.filterMap typed := by
  rw [reading, List.filterMap_map, Function.comp_def, funext same]

/-- The arguments of a phrase are those of its reading. -/
theorem arguments_reading (phrase : Phrase) (closing : Closing) :
    (phrase.reading closing).arguments = phrase.name :: phrase.arguments :=
  congrArg (phrase.name :: ·)
    (phrase.filterMap_items_reading closing fun part => by cases part <;> rfl)

/-- The file that a phrase reads is that of its reading. -/
theorem input?_reading (phrase : Phrase) (closing : Closing) :
    (phrase.reading closing).input? = phrase.input? :=
  congrArg List.getLast? (phrase.filterMap_items_reading closing fun part => by cases part <;> rfl)

/-- The file that a phrase writes is that of its reading. -/
theorem output?_reading (phrase : Phrase) (closing : Closing) :
    (phrase.reading closing).output? = phrase.output? :=
  congrArg List.getLast? (phrase.filterMap_items_reading closing fun part => by cases part <;> rfl)

/-- A stage is what a phrase says: the program that was found for its name, with its arguments,
reading the file that it names, or else what it is given. -/
structure Becomes (phrase : Phrase) (stdin : Source) (events : List Event) (stage : Stage) :
    Prop where
  program : ⟨.lookup phrase.name, .ok stage.program⟩ ∈ events
  arguments : stage.arguments = phrase.name :: phrase.arguments
  reads : ∀ path, phrase.input? = some path →
    ∃ handle, ⟨.openInput path, .ok handle⟩ ∈ events ∧ stage.stdin = .file path handle
  inherits : phrase.input? = none → stage.stdin = stdin

/-- Some stages are what some phrases say, by the events for each of them: a pipe joins each stage
to the next one, and the last writes the file that it names, or else what the interpreter writes. -/
inductive Linked : Source → List Phrase → List Event → List Stage → Prop
  | nothing (stdin : Source) : Linked stdin [] [] []
  | last {phrase : Phrase} {stdin : Source} {events : List Event} {stage : Stage}
      (becomes : phrase.Becomes stdin events stage) (terminal : stage.terminal = true)
      (writes : ∀ path, phrase.output? = some path →
        ∃ handle, ⟨.openOutput path, .ok handle⟩ ∈ events ∧ stage.stdout = .file path handle)
      (inherits : phrase.output? = none → stage.stdout = .inherit) :
      Linked stdin [phrase] events [stage]
  | piped {phrase next : Phrase} {rest : List Phrase} {stdin : Source} {events later : List Event}
      {stage : Stage} {stages : List Stage} {reader writer : Handle}
      (becomes : phrase.Becomes stdin events stage) (terminal : stage.terminal = false)
      (made : ⟨.pipe, .ok (reader, writer)⟩ ∈ events) (writes : stage.stdout = .pipe writer)
      (others : Linked (.pipe reader) (next :: rest) later stages) :
      Linked stdin (phrase :: next :: rest) (events ++ later) (stage :: stages)

/-- A stage that comes of the reading of a phrase is what the phrase says. -/
theorem becomes_stage (phrase : Phrase) (closing : Closing) {events : List Event}
    (granted : ∀ event ∈ events, event.error? = none)
    (order : events.filterMap Event.action? = (phrase.reading closing).preparation)
    (stdin : Source) :
    phrase.Becomes stdin events ((phrase.reading closing).stage stdin events) where
  program := Reading.program_stage granted order stdin
  arguments := phrase.arguments_reading closing
  reads := by
    rw [← phrase.input?_reading closing]
    exact (Reading.stdin_stage granted order stdin).1
  inherits := by
    rw [← phrase.input?_reading closing]
    exact (Reading.stdin_stage granted order stdin).2

end Phrase

namespace Builder

/-- Where nothing is refused that a reading asks for, its stage is the first step of a line. -/
theorem Yields.first {whole : Reading} {others : List Reading} {stdin : Source}
    {events : List Event} {steps : List (Except LineError Stage)}
    (yields : Yields (whole :: others) stdin events steps) (ended : whole.isDangling = false)
    (granted : ∀ event ∈ events, ∀ action ∈ whole.preparation, event.action? = some action →
      event.error? = none) :
    ∃ (own later : List Event) (rest : List (Except LineError Stage)), events = own ++ later ∧
      steps = .ok (whole.stage stdin own) :: rest ∧ (∀ event ∈ own, event.error? = none) ∧
      own.filterMap Event.action? = whole.preparation ∧
      Yields others (Reading.inherited own) later rest := by
  cases yields with
  | @stage _ _ _ own later stage rest built further =>
    obtain ⟨same, quiet, order⟩ := built.eq_stage ended
      (fun event seen => granted event (List.mem_append_left _ seen))
    cases same
    exact ⟨own, later, rest, rfl, rfl, quiet, order, further⟩
  | error built =>
    -- An error would be the error of a refused request.
    obtain ⟨same, -, -⟩ := built.eq_stage ended granted
    cases same

/-- Where nothing is refused that some phrases ask for, their line yields a stage for each. -/
theorem Yields.linked {phrases : List Phrase} {stdin : Source} {events : List Event}
    {steps : List (Except LineError Stage)}
    (yields : Yields (Phrase.readings phrases) stdin events steps)
    (granted : ∀ event ∈ events, ∀ action ∈ .pipe :: phrases.flatMap Phrase.actions,
      event.action? = some action → event.error? = none) :
    ∃ stages, steps = stages.map .ok ∧ Phrase.Linked stdin phrases events stages := by
  -- The induction follows the phrases; the source of the next one is the pipe of the one before.
  induction phrases generalizing stdin events steps with
  | nil =>
    cases yields
    exact ⟨[], rfl, .nothing stdin⟩
  | cons phrase rest ih =>
    -- What is done to prepare the first phrase is among what the phrases ask for.
    have planned (closing : Closing) :
        (phrase.reading closing).preparation ⊆
          .pipe :: (phrase :: rest).flatMap Phrase.actions := by
      rw [phrase.preparation_reading closing, List.flatMap_cons]
      split <;> simp
    cases rest with
    | nil =>
      obtain ⟨own, later, steps, rfl, rfl, quiet, order, further⟩ := yields.first rfl
        (fun event seen action asked => granted event seen action (planned .finish asked))
      cases further
      obtain ⟨writes, inherits⟩ := Reading.stdout_stage_finish quiet order rfl stdin
      rw [phrase.output?_reading .finish] at writes inherits
      rw [List.append_nil]
      exact ⟨[_], rfl, .last (phrase.becomes_stage .finish quiet order stdin) rfl writes inherits⟩
    | cons next rest =>
      obtain ⟨own, later, steps, rfl, rfl, quiet, order, further⟩ := yields.first rfl
        (fun event seen action asked => granted event seen action (planned .pipe asked))
      obtain ⟨reader, writer, made, writes, inherited⟩ :=
        Reading.stdout_stage_pipe quiet order rfl stdin
      rw [inherited] at further
      obtain ⟨stages, rfl, others⟩ := ih further fun event seen action asked =>
        granted event (List.mem_append_right _ seen) action (by
          rw [List.flatMap_cons]
          exact (List.cons_subset_cons _ (List.subset_append_right _ _)) asked)
      exact ⟨_ :: stages, rfl, .piped (phrase.becomes_stage .pipe quiet order stdin) rfl made writes
        others⟩

variable {σ : Type} (handler : Handler σ)

/-- The line that is typed for some commands is built into a stage for each of them, as long as none
of their names, their files and the pipes between them is refused, whatever the exit code of the
last line was. -/
theorem steps_line (phrases : List Phrase) (code : Int) (state : σ)
    (granted : ∀ event ∈ deeds ((steps (Token.ofLine (Phrase.line phrases) code)).events handler
      state), ∀ action ∈ .pipe :: phrases.flatMap Phrase.actions,
      event.action? = some action → event.error? = none) :
    ∃ stages : List Stage,
      ((steps (Token.ofLine (Phrase.line phrases) code)).run handler state).1 = stages.map .ok ∧
      Phrase.Linked .inherit phrases
        (deeds ((steps (Token.ofLine (Phrase.line phrases) code)).events handler state))
        stages := by
  -- Reading the line back gives the phrases, and building follows the reading.
  have yields := collect_yields handler _ (ofTokens (Token.ofLine (Phrase.line phrases) code)) state
    (by simpa using Reading.length_ofTokens_le _)
  rw [readings_ofTokens, stdin_ofTokens, Phrase.ofTokens_line] at yields
  exact yields.linked granted

/-- Two commands, the first of which reads a file and the second of which writes one; both paths
open with an operator, and an argument holds one. -/
def gluedPhrases : List Phrase :=
  [{ name := "cat", parts := [.input "<in" (by decide), .argument "a>b" (by decide)] },
    { name := "wc", parts := [.output "|out" (by decide), .argument "-l" (by decide)] }]

theorem steps_line_glued :
    Phrase.line gluedPhrases = "cat <<in a>b | wc >|out -l" ∧
    (∀ event ∈ deeds ((steps (Token.ofLine (Phrase.line gluedPhrases) 3)).events granting 0),
      ∀ action ∈ .pipe :: gluedPhrases.flatMap Phrase.actions,
        event.action? = some action → event.error? = none) ∧
    ∃ stages : List Stage,
      ((steps (Token.ofLine (Phrase.line gluedPhrases) 3)).run granting 0).1 = stages.map .ok ∧
      Phrase.Linked .inherit gluedPhrases
        (deeds ((steps (Token.ofLine (Phrase.line gluedPhrases) 3)).events granting 0)) stages := by
  -- Nothing at all is refused, so nothing is that the phrases ask for.
  have quiet : ∀ event ∈
      deeds ((steps (Token.ofLine (Phrase.line gluedPhrases) 3)).events granting 0),
      event.error? = none := by
    decide +kernel
  have granted : ∀ event ∈
      deeds ((steps (Token.ofLine (Phrase.line gluedPhrases) 3)).events granting 0),
      ∀ action ∈ .pipe :: gluedPhrases.flatMap Phrase.actions,
        event.action? = some action → event.error? = none :=
    fun event seen _ _ _ => quiet event seen
  exact ⟨by decide +kernel, granted, steps_line granting gluedPhrases 3 0 granted⟩

end Builder

end LineShell
