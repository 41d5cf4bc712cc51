import LineShell.Proofs.Repl.Conversing
import LineShell.Proofs.Text.Utf8

/-! Sharing: which lines are run when the processes that are started read from the same standard
input. -/

namespace LineShell

namespace Lines

/-- What is put together behind the end of a line has the lines of both parts. -/
theorem ofInput_append {before : Bytes} (ends : before = [] ∨ before.getLast? = some lineFeed)
    (rest : Bytes) : ofInput (before ++ rest) = ofInput before ++ ofInput rest := by
  -- The first line of the first part is taken off, and what is behind it still ends a line.
  rcases ends with rfl | ends
  · rfl
  rcases cases_of_lineFeed before with unended | ⟨body, others, unended, rfl⟩
  · exact absurd (List.mem_of_getLast? ends) unended
  · have later : others = [] ∨ others.getLast? = some lineFeed := by
      rcases List.eq_nil_or_concat others with rfl | ⟨front, last, rfl⟩
      · exact .inl rfl
      · right
        rw [List.concat_eq_append, ← List.cons_append, ← List.append_assoc] at ends
        rwa [List.concat_eq_append, List.getLast?_concat] at *
    have tail := ofInput_append later rest
    rw [List.append_assoc, List.cons_append, ofInput_line unended, ofInput_line unended, tail]
    rfl
termination_by before.length
decreasing_by
  subst_vars
  simp
  omega

/-- Whether a line is one whole line of a content: it begins at the start or behind a line feed, and
goes on to the next line feed or to the end. -/
def IsWhole (content line : Bytes) : Prop :=
  ∃ before body, (before = [] ∨ before.getLast? = some lineFeed) ∧ lineFeed ∉ body ∧
    ((∃ after, content = before ++ body ++ lineFeed :: after ∧ line = trim body) ∨
      (content = before ++ body ∧ body ≠ [] ∧ line = body))

/-- The whole lines of a content are among its lines. -/
theorem IsWhole.mem_ofInput {content line : Bytes} (whole : IsWhole content line) :
    line ∈ ofInput content := by
  obtain ⟨before, body, begins, unended, ⟨after, rfl, rfl⟩ | ⟨rfl, given, rfl⟩⟩ := whole
  · rw [List.append_assoc, ofInput_append begins, ofInput_line unended]
    simp
  · rw [ofInput_append begins, ofInput_last given unended]
    simp

end Lines

/-- A byte of the standard input that has been read by someone. -/
structure Passed where
  byte : UInt8
  /-- Whether the interpreter has read it. -/
  own : Bool
  deriving DecidableEq, Repr, Inhabited

namespace Passed

/-- The bytes that have been passed, whoever has read them. -/
def bytes (passed : List Passed) : Bytes :=
  passed.map (·.byte)

/-- What is left of the bytes when those are taken out that others have read. -/
def kept (passed : List Passed) : Bytes :=
  (passed.filter (·.own)).map (·.byte)

/-- Some bytes that have all been read by the interpreter, or all by others. -/
def mark (own : Bool) (data : Bytes) : List Passed :=
  data.map fun byte => ⟨byte, own⟩

@[simp] theorem bytes_nil : bytes [] = [] :=
  rfl

@[simp] theorem kept_nil : kept [] = [] :=
  rfl

@[simp] theorem bytes_append (first second : List Passed) :
    bytes (first ++ second) = bytes first ++ bytes second :=
  List.map_append

@[simp] theorem kept_append (first second : List Passed) :
    kept (first ++ second) = kept first ++ kept second := by
  simp [kept]

@[simp] theorem bytes_mark (own : Bool) (data : Bytes) : bytes (mark own data) = data := by
  simp [bytes, mark, Function.comp_def]

@[simp] theorem kept_mark_true (data : Bytes) : kept (mark true data) = data := by
  simp [kept, mark, List.filter_map, Function.comp_def]

@[simp] theorem kept_mark_false (data : Bytes) : kept (mark false data) = [] := by
  simp [kept, mark, List.filter_map, Function.comp_def]

/-- A byte that is kept is somewhere among those that have been passed. -/
theorem split_of_kept {passed : List Passed} {front back : Bytes} {byte : UInt8}
    (split : kept passed = front ++ byte :: back) :
    ∃ first second, passed = first ++ ⟨byte, true⟩ :: second ∧ kept first = front ∧
      kept second = back := by
  induction passed generalizing front with
  | nil => simp at split
  | cons head rest ih =>
    obtain ⟨value, own⟩ := head
    -- A byte that others have read is passed over; of the interpreter's own, it is this one or a
    -- later.
    cases own with
    | false =>
      have later : kept rest = front ++ byte :: back := by simpa [kept] using split
      obtain ⟨first, second, rfl, rfl, rfl⟩ := ih later
      exact ⟨⟨value, false⟩ :: first, second, rfl, by simp [kept], rfl⟩
    | true =>
      have cons : kept (⟨value, true⟩ :: rest) = value :: kept rest := by simp [kept]
      rw [cons] at split
      cases front with
      | nil =>
        obtain ⟨rfl, rfl⟩ := List.cons.inj split
        exact ⟨[], rest, rfl, rfl, rfl⟩
      | cons value' front =>
        obtain ⟨rfl, same⟩ := List.cons.inj split
        obtain ⟨first, second, rfl, rfl, rfl⟩ := ih same
        exact ⟨⟨value, true⟩ :: first, second, rfl, by simp [kept], rfl⟩

end Passed

namespace Handler.Input

variable {α β σ : Type} {handler : Handler σ} (input : handler.Input)

/-- What of the standard input is passed while a flow is carried out, by whom it is read. -/
def passed : Flow α → σ → List Passed
  | .done _, _ => []
  | .ask call next, state =>
    let answer := handler call state
    Passed.mark call.isRead
        ((input.unread state).take (input.place answer.2 - input.place state)) ++
      passed (next answer.1) answer.2

/-- Two flows in a row pass what the first passes and then what the second does. -/
theorem passed_bind (flow : Flow α) (next : α → Flow β) (state : σ) :
    input.passed (flow >>= next) state = input.passed flow state ++
      input.passed (next (flow.run handler state).1) (flow.run handler state).2 := by
  induction flow generalizing state with
  | done result => rfl
  | ask call rest ih => simp [passed, ih]

/-- What has been passed comes right before what is left. -/
theorem bytes_passed (flow : Flow α) {state : σ} (sound : input.Sound state) :
    Passed.bytes (input.passed flow state) ++ input.unread (flow.run handler state).2 =
      input.unread state := by
  induction flow generalizing state with
  | done result => rfl
  | ask call next ih =>
    rw [passed, Passed.bytes_append, Passed.bytes_mark, List.append_assoc, Flow.run_ask,
      ih _ (input.sound sound call), ← input.unread_eq_append (input.onward sound call)]

/-- A flow that does nothing but read, or does not read at all, passes bytes of one kind. -/
theorem passed_eq_mark (own : Bool) (flow : Flow α) {state : σ} (sound : input.Sound state)
    (alike : ∀ event ∈ flow.events handler state, event.call.isRead = own) :
    ∃ data, input.passed flow state = Passed.mark own data := by
  induction flow generalizing state with
  | done result => exact ⟨[], rfl⟩
  | ask call next ih =>
    obtain ⟨first, others⟩ := List.forall_mem_cons.mp alike
    obtain ⟨data, rest⟩ := ih _ (input.sound sound call) others
    rw [passed, rest, first]
    exact ⟨_ ++ data, List.map_append.symm⟩

/-- Of what is passed while nothing is read, nothing is kept. -/
theorem kept_passed {flow : Flow α} (asks : flow.Asks Repl.LeavesInput) {state : σ}
    (sound : input.Sound state) : Passed.kept (input.passed flow state) = [] := by
  obtain ⟨data, same⟩ := input.passed_eq_mark false flow sound
    fun event seen => asks.of_mem_events seen
  rw [same, Passed.kept_mark_false]

end Handler.Input

namespace Repl

open Passed (kept mark)

/-- The loop, which also tells the lines that it passes on, in order. -/
def hear (prompt : Prompt) (blocks : Nat) :
    Nat → Session → Bytes → Flow (List Bytes × Except Failure Unit)
  | 0, _, _ => pure ([], .ok ())
  | lines + 1, session, pending => do
    match ← prompt.print output with
    | .error cause => pure ([], .error { activity := some "writing prompt", cause })
    | .ok () =>
      match ← readLine blocks pending with
      | .error cause => pure ([], .error { activity := some "reading input", cause })
      | .ok (none, _) => pure ([], .ok ())
      | .ok (some line, rest) => do
        let session ← runLine session line
        let (heard, result) ← hear prompt blocks lines session rest
        pure (line :: heard, result)

/-- It is the loop. -/
theorem loop_eq_hear (prompt : Prompt) (blocks lines : Nat) (session : Session) (pending : Bytes) :
    loop prompt blocks lines session pending =
      hear prompt blocks lines session pending >>= fun heard => .done heard.2 := by
  induction lines generalizing session pending with
  | zero => rfl
  | succ lines ih =>
    -- Both are taken apart request by request, and the induction is on the lines that may follow.
    rw [loop, hear, bind_assoc]
    congr 1
    funext printed
    cases printed with
    | error cause => rfl
    | ok =>
      dsimp only
      rw [bind_assoc]
      congr 1
      funext read
      rcases read with cause | ⟨_ | line, rest⟩
      · rfl
      · rfl
      · dsimp only
        rw [bind_assoc]
        congr 1
        funext session
        rw [ih, bind_assoc]
        rfl

/-- A run of the standard input, behind which others are left, and the line that comes of it: what
is left of the run when the bytes are taken out that others have read. It ends with the first line
feed that the interpreter reads, or else with the content. -/
inductive Told : List Passed → Bytes → Bytes → Prop
  | ended {run : List Passed} {beyond : Bytes} (unended : Lines.lineFeed ∉ kept run) :
      Told (run ++ [⟨Lines.lineFeed, true⟩]) beyond (Lines.trim (kept run))
  | last {run : List Passed} (given : kept run ≠ []) (unended : Lines.lineFeed ∉ kept run) :
      Told run [] (kept run)

/-- Whether others have read nothing of a run but whole lines at its beginning. -/
def Spared (run : List Passed) : Prop :=
  ∃ lost own, run = mark false lost ++ mark true own ∧
    (lost = [] ∨ lost.getLast? = some Lines.lineFeed)

/-- A line that comes of a spared run is a whole line of the content. -/
theorem Told.isWhole {run : List Passed} {beyond line front : Bytes} (told : Told run beyond line)
    (begins : front = [] ∨ front.getLast? = some Lines.lineFeed) (spared : Spared run) :
    Lines.IsWhole (front ++ Passed.bytes run ++ beyond) line := by
  obtain ⟨lost, own, same, lines⟩ := spared
  -- What others have read belongs to the lines before.
  have before : front ++ lost = [] ∨ (front ++ lost).getLast? = some Lines.lineFeed := by
    rcases lines with rfl | last
    · simpa using begins
    · simp [last]
  cases told with
  | @ended run beyond unended =>
    rcases List.eq_nil_or_concat own with rfl | ⟨body, last, rfl⟩
    · -- The line feed at the end of the run has not been read by others.
      have absent : (⟨Lines.lineFeed, true⟩ : Passed) ∉ mark false lost ++ mark true [] := by
        simp [mark]
      exact absurd (same ▸ by simp) absent
    · have rewritten : mark true (body.concat last) = mark true body ++ [⟨last, true⟩] := by
        simp [mark]
      rw [rewritten, ← List.append_assoc] at same
      obtain ⟨rfl, feed⟩ := List.append_inj' same rfl
      cases feed
      refine ⟨front ++ lost, body, before, by simpa using unended, .inl ⟨beyond, ?_, ?_⟩⟩
      · simp [Passed.bytes, mark, Function.comp_def]
      · simp
  | last given unended =>
    subst same
    refine ⟨front ++ lost, own, before, by simpa using unended, .inr ⟨?_, ?_, ?_⟩⟩
    · simp
    · simpa using given
    · simp

variable {σ : Type} {handler : Handler σ}

/-- Runs that follow one another, each with the line that comes of it, up to a rest of which no line
has come yet. -/
def Tells (rest : List Passed) (left : Bytes) : List (List Passed × Bytes) → Prop
  | [] => True
  | (run, line) :: others =>
    Told run (Passed.bytes (others.flatMap Prod.fst ++ rest) ++ left) line ∧ Tells rest left others

/-- What is found in the bytes that are kept is told by a run at the beginning of what has been
passed. -/
theorem Cut.told {passed : List Passed} {left line rest : Bytes}
    (cut : Cut (kept passed) left (some line, rest)) :
    ∃ run others, passed = run ++ others ∧ kept others = rest ∧
      Told run (Passed.bytes others ++ left) line := by
  generalize whole : kept passed = text at cut
  cases cut with
  | line unended =>
    obtain ⟨first, second, rfl, rfl, rfl⟩ := Passed.split_of_kept whole
    exact ⟨first ++ [⟨Lines.lineFeed, true⟩], second, by simp, rfl, .ended unended⟩
  | last given unended =>
    subst whole
    exact ⟨passed, [], by simp, rfl, .last given unended⟩

/-- What is kept of the bytes that a line is read from is what the reading has got. -/
theorem kept_passed_readLine (input : handler.Input) {bound : Nat} {pending got : Bytes} {state : σ}
    (sound : input.Sound state)
    (reads : ReadsOn ((readLine bound pending).events handler state))
    (taken : input.unread state =
      got ++ input.unread ((readLine bound pending).run handler state).2) :
    kept (input.passed (readLine bound pending) state) = got := by
  obtain ⟨data, same⟩ := input.passed_eq_mark true (readLine bound pending) sound
    fun event seen => by rw [reads event seen]; rfl
  have whole := input.bytes_passed (readLine bound pending) sound
  rw [same, Passed.bytes_mark, taken] at whole
  rw [same, Passed.kept_mark_true, List.append_cancel_right whole]

/-- The lines that the loop passes on are told by runs of the standard input that follow one
another, the first of which begins with what is pending. -/
theorem hear_tells (input : handler.Input) (prompt : Prompt) {blocks : Nat}
    (readable : input.content.length < blocks) (lines : Nat) (session : Session)
    (before : List Passed) {state : σ} (sound : input.Sound state) :
    ∃ runs rest,
      before ++ input.passed (hear prompt blocks lines session (kept before)) state =
        runs.flatMap Prod.fst ++ rest ∧
      ((hear prompt blocks lines session (kept before)).run handler state).1.1 =
        runs.map Prod.snd ∧
      Tells rest (input.unread
        ((hear prompt blocks lines session (kept before)).run handler state).2) runs := by
  induction lines generalizing session before state with
  | zero => exact ⟨[], before, by simp [hear, Handler.Input.passed], rfl, trivial⟩
  | succ lines ih =>
    -- One round takes three parts: the prompt, which passes nothing that is kept, ...
    have afterPrompt := input.sound_run (prompt.print output) sound
    have unkept := input.kept_passed (asks_print prompt) sound
    rw [hear, Handler.Input.passed_bind, Flow.run_bind]
    rcases shown : (prompt.print output).run handler state with ⟨printed, prompted⟩
    rw [shown] at afterPrompt
    cases printed with
    | error cause => exact ⟨[], _, rfl, rfl, trivial⟩
    | ok =>
      dsimp only
      -- ... the reading, all of which is kept, ...
      have short := Nat.lt_of_le_of_lt (input.length_unread_le prompted) readable
      obtain ⟨got, result, returned, taken, reads, cut⟩ :=
        readLine_spec input (kept before) afterPrompt short
      have read := kept_passed_readLine input afterPrompt reads taken
      have afterRead := input.sound_run (readLine blocks (kept before)) afterPrompt
      rw [Handler.Input.passed_bind, Flow.run_bind]
      rcases gone : (readLine blocks (kept before)).run handler prompted with ⟨answer, seen⟩
      rw [gone] at returned cut afterRead
      obtain rfl : answer = .ok result := returned
      obtain ⟨found, rest⟩ := result
      cases found with
      | none => exact ⟨[], _, rfl, rfl, trivial⟩
      | some line =>
        -- What is kept of all that has been passed so far is what the line has been found in.
        have whole : kept (before ++ input.passed (prompt.print output) state ++
            input.passed (readLine blocks (kept before)) prompted) = kept before ++ got := by
          rw [Passed.kept_append, Passed.kept_append, unkept, read, List.append_nil]
        rw [← whole] at cut
        obtain ⟨run, others, split, remaining, told⟩ := cut.told
        -- ... and the line itself, while which only others read.
        have unread := input.bytes_passed (runLine session line) afterRead
        have nothing := input.kept_passed (asks_runLine session line) afterRead
        have afterLine := input.sound_run (runLine session line) afterRead
        dsimp only
        rw [Handler.Input.passed_bind, Flow.run_bind]
        rcases went : (runLine session line).run handler seen with ⟨next, after⟩
        rw [went] at unread afterLine
        have later : kept (others ++ input.passed (runLine session line) seen) = rest := by
          rw [Passed.kept_append, nothing, List.append_nil, remaining]
        obtain ⟨runs, left, passed, heard, tells⟩ := ih next
          (others ++ input.passed (runLine session line) seen) afterLine
        rw [later] at passed heard tells
        have last := input.bytes_passed (hear prompt blocks lines next rest) afterLine
        dsimp only
        rw [Handler.Input.passed_bind, Flow.run_bind]
        refine ⟨(run, line) :: runs, left, ?_, ?_, ?_, tells⟩
        · rw [List.flatMap_cons, List.append_assoc run, ← passed]
          simp only [← List.append_assoc]
          rw [split]
          simp [Handler.Input.passed]
        · exact congrArg (line :: ·) heard
        · rw [← passed, Passed.bytes_append, Passed.bytes_append, List.append_assoc,
            List.append_assoc]
          exact (last ▸ unread).symm ▸ told

/-- What has been told ends with a line feed that the interpreter has read, if anything is left
behind it. -/
theorem Told.ends {run : List Passed} {beyond line : Bytes} (told : Told run beyond line)
    (more : beyond ≠ []) : (Passed.bytes run).getLast? = some Lines.lineFeed := by
  cases told with
  | ended => simp [Passed.bytes]
  | last => exact absurd rfl more

/-- A run is never empty. -/
theorem Told.ne_nil {run : List Passed} {beyond line : Bytes} (told : Told run beyond line) :
    Passed.bytes run ≠ [] := by
  cases told with
  | ended => simp [Passed.bytes]
  | last given =>
    rintro empty
    rw [Passed.bytes, List.map_eq_nil_iff] at empty
    exact given (by rw [empty]; rfl)

/-- Wherever a run stands among those that follow one another, the one behind which it stands ends
with a line feed. -/
theorem Tells.told {rest : List Passed} {left : Bytes} {runs : List (List Passed × Bytes)}
    (tells : Tells rest left runs) {before after : List (List Passed × Bytes)} {run : List Passed}
    {line : Bytes} (place : runs = before ++ (run, line) :: after) :
    Told run (Passed.bytes (after.flatMap Prod.fst ++ rest) ++ left) line ∧
      (Passed.bytes (before.flatMap Prod.fst) = [] ∨
        (Passed.bytes (before.flatMap Prod.fst)).getLast? = some Lines.lineFeed) := by
  subst place
  induction before with
  | nil => exact ⟨tells.1, .inl rfl⟩
  | cons first before ih =>
    obtain ⟨told, ends⟩ := ih tells.2
    refine ⟨told, .inr ?_⟩
    -- A run has others behind it, so it ends with a line feed and not with the content.
    have more :
        Passed.bytes ((before ++ (run, line) :: after).flatMap Prod.fst ++ rest) ++ left ≠ [] := by
      have some := told.ne_nil
      simp [some]
    rw [List.flatMap_cons, Passed.bytes_append]
    rcases ends with none | last
    · rw [none, List.append_nil]
      exact tells.1.ends more
    · simp [last]

/-- A system in which every program reads the standard input to its end before it ends itself. -/
def glutton (content : Bytes) : Handler Nat
  | .read limit, place =>
    (.ok ((content.drop place).take limit), min content.length (place + limit))
  | .lookup name, place => (.ok name, place)
  | .spawn _, place => (.ok 1, place)
  | .wait _, _ => (.ok (.ofCode 0), content.length)
  | .write data, place => (.ok data.length, place)
  | .flush, place => (.ok (), place)
  | call, place => (Machine.refuse call, place)

/-- Its standard input. -/
def gluttonInput (content : Bytes) : (glutton content).Input where
  content := content
  place place := place
  Sound place := place ≤ content.length
  sound {place} sound call := by
    cases call <;> simp only [glutton] <;> omega
  within sound := sound
  onward {place} sound call := by
    cases call <;> simp only [glutton] <;> omega
  read {place} sound {limit} some := by
    refine ⟨_, rfl, List.take_prefix .., ?_, fun empty => ?_⟩
    · simp only [glutton, List.length_take, List.length_drop]
      omega
    · have none := congrArg List.length empty
      simp only [List.length_take, List.length_drop, List.length_nil] at none
      omega

/-- As many blanks as lie between a line of three bytes and the last seven bytes of a block. -/
def blanks : Bytes :=
  List.replicate 8181 32

theorem length_blanks : blanks.length = 8181 :=
  List.length_replicate

theorem lineFeed_notMem_blanks : Lines.lineFeed ∉ blanks :=
  fun found => absurd (List.eq_of_mem_replicate found) (by decide)

/-- Blanks are a text. -/
theorem blanks_eq_encode : blanks = Utf8.encode (List.replicate 8181 ' ') := by
  have blank : String.utf8EncodeChar ' ' = [32] := by decide
  rw [Utf8.encode, List.flatMap_replicate, blank, List.flatten_replicate_singleton, blanks]

/-- Two lines, the second of which lies across the end of the first block, but for its last byte. -/
def torn : Bytes :=
  Utf8.ofString "cat" ++ Lines.lineFeed :: (blanks ++ Utf8.ofString "echo abc") ++ [Lines.lineFeed]

/-- What the first block holds of the second line. -/
def fragment : Bytes :=
  blanks ++ Utf8.ofString "echo ab"

theorem lineFeed_notMem_fragment : Lines.lineFeed ∉ fragment := by
  rw [fragment, List.mem_append, not_or]
  exact ⟨lineFeed_notMem_blanks, by decide⟩

/-- Two bytes come behind the fragment. -/
theorem torn_eq_append :
    torn = (Utf8.ofString "cat" ++ Lines.lineFeed :: fragment) ++ [99, Lines.lineFeed] := by
  have last : Utf8.ofString "echo abc" = Utf8.ofString "echo ab" ++ [99] := by decide
  simp [torn, fragment, last]

/-- What comes before them fills a block. -/
theorem length_eq_blockSize :
    (Utf8.ofString "cat" ++ Lines.lineFeed :: fragment).length = blockSize := by
  rw [fragment, List.length_append, List.length_cons, List.length_append, length_blanks]
  decide

/-- So the first block ends behind the fragment. -/
theorem take_torn : torn.take blockSize = Utf8.ofString "cat" ++ Lines.lineFeed :: fragment := by
  rw [torn_eq_append, List.take_left' length_eq_blockSize]

/-- The fragment is a text. -/
theorem toString?_fragment : (Utf8.toString? fragment).isSome := by
  have text : fragment = Utf8.encode (List.replicate 8181 ' ' ++ "echo ab".toList) := by
    rw [Utf8.encode, List.flatMap_append, ← Utf8.encode, ← blanks_eq_encode]
    rfl
  rw [text, Utf8.toString?, Utf8.decode?_encode]
  rfl

/-- The fragment is no whole line: one of the two is shorter, and the other longer by a byte. -/
theorem not_isWhole_fragment : ¬ Lines.IsWhole torn fragment := by
  intro whole
  have unended : Lines.lineFeed ∉ blanks ++ Utf8.ofString "echo abc" := by
    rw [List.mem_append, not_or]
    exact ⟨lineFeed_notMem_blanks, by decide⟩
  have untrimmed : Lines.trim (blanks ++ Utf8.ofString "echo abc") =
      blanks ++ Utf8.ofString "echo abc" := by
    have last : Utf8.ofString "echo abc" = Utf8.ofString "echo ab" ++ [99] := by decide
    rw [Lines.trim, if_neg]
    rw [last, ← List.append_assoc, List.getLast?_concat]
    decide
  -- The whole lines are among the lines of the content, and there are two of these.
  have lines : Lines.ofInput torn =
      [Utf8.ofString "cat", blanks ++ Utf8.ofString "echo abc"] := by
    rw [torn, List.append_assoc, List.cons_append, Lines.ofInput_line (by decide),
      Lines.ofInput_line unended, untrimmed]
    rfl
  have found := whole.mem_ofInput
  simp only [lines, List.mem_cons, List.not_mem_nil, or_false] at found
  have sizes : fragment.length = 8188 ∧ (Utf8.ofString "cat").length = 3 ∧
      (blanks ++ Utf8.ofString "echo abc").length = 8189 := by
    rw [fragment, List.length_append, List.length_append, length_blanks]
    decide
  rcases found with same | same
  · have size := congrArg List.length same
    omega
  · have size := congrArg List.length same
    omega

/-- A line that is read is passed on, and the loop goes on behind it. -/
theorem heard_of_read {prompt : Prompt} {blocks lines : Nat} {session : Session}
    {pending line rest : Bytes} {state prompted seen : σ}
    (shown : (prompt.print output).run handler state = (.ok (), prompted))
    (read : (readLine blocks pending).run handler prompted = (.ok (some line, rest), seen)) :
    let after := (runLine session line).run handler seen
    ((hear prompt blocks (lines + 1) session pending).run handler state).1.1 =
      line :: ((hear prompt blocks lines after.1 rest).run handler after.2).1.1 := by
  intro after
  rw [hear, Flow.run_bind, shown]
  dsimp only
  rw [Flow.run_bind, read]
  dsimp only
  rw [Flow.run_bind, Flow.run_bind]
  rfl

end Repl

end LineShell
