import LineShell.Proofs.Repl.Conversing
import Mathlib.Data.List.Forall2

/-! Retelling: what the program runs for each line of its input, told for two inputs at once. -/

namespace LineShell

/-- Two lines of bytes with the same tokens, of which either both are texts or neither is one. -/
def Token.Alike (line other : Bytes) : Prop :=
  (Utf8.toString? line).map scan = (Utf8.toString? other).map scan

/-- Two standard inputs of one system, and the states that differ in nothing else: what is not a
read is answered in the same way in both, and a read changes nothing but its own input. -/
structure Handler.Input.Twins {σ : Type} {handler : Handler σ} (first second : handler.Input)
    (same : σ → σ → Prop) : Prop where
  sound {left right : σ} (alike : same left right) : first.Sound left ∧ second.Sound right
  answers {left right : σ} (alike : same left right) {call : Call} (other : call.isRead = false) :
    (handler call left).1 = (handler call right).1 ∧
      same (handler call left).2 (handler call right).2
  readsLeft {left right : σ} (alike : same left right) (limit : Nat) :
    same (handler (.read limit) left).2 right
  readsRight {left right : σ} (alike : same left right) (limit : Nat) :
    same left (handler (.read limit) right).2

namespace Repl

/-- What a line of input comes to: the exit code that it finds, and its tokens, if it is a text. -/
structure Turn where
  lastCode : Int
  tokens : Option (List Token)
  deriving DecidableEq, Repr, Inhabited

namespace Turn

/-- What a line comes to in a session. -/
def of (session : Session) (line : Bytes) : Turn where
  lastCode := session.lastCode
  tokens := (Utf8.toString? line).map fun text => Token.ofLine text session.lastCode

/-- What is done for a line: its tokens are run, and nothing else about it counts. -/
def run (turn : Turn) : Flow Session :=
  match turn.tokens with
  | none => do
    complain ("Reading input: " ++ IoError.notText.message)
    pure ⟨turn.lastCode⟩
  | some tokens => do
    let run ← Run.ofTokens tokens
    match run.outcome with
    | .failed _ error => do
      complain error.message
      pure ⟨turn.lastCode⟩
    | .empty => pure ⟨turn.lastCode⟩
    | .exited code => pure ⟨code⟩

end Turn

/-- What a line comes to is what is done for it. -/
theorem runLine_eq_run (session : Session) (line : Bytes) :
    runLine session line = (Turn.of session line).run := by
  obtain ⟨code⟩ := session
  unfold runLine Turn.run Turn.of
  cases Utf8.toString? line with
  | none => rfl
  | some text =>
    -- The outcome of the run decides about the session and about what is told.
    simp only [Option.map_some, Session.execute, Session.run, bind_assoc]
    congr 1
    funext run
    cases ended : run.outcome <;> simp [ended, Session.after]

/-- The loop, which runs what its lines come to, and tells it, in order. -/
def recount (prompt : Prompt) (blocks : Nat) :
    Nat → Session → Bytes → Flow (List Turn × Except Failure Unit)
  | 0, _, _ => pure ([], .ok ())
  | lines + 1, session, pending => do
    match ← prompt.print output with
    | .error cause => pure ([], .error { activity := some "writing prompt", cause })
    | .ok () =>
      match ← readLine blocks pending with
      | .error cause => pure ([], .error { activity := some "reading input", cause })
      | .ok (none, _) => pure ([], .ok ())
      | .ok (some line, rest) => do
        let turn := Turn.of session line
        let after ← turn.run
        let (turns, result) ← recount prompt blocks lines after rest
        pure (turn :: turns, result)

/-- It is the loop. -/
theorem loop_eq_recount (prompt : Prompt) (blocks lines : Nat) (session : Session)
    (pending : Bytes) : loop prompt blocks lines session pending =
      recount prompt blocks lines session pending >>= fun told => .done told.2 := by
  -- Both go through the same lines, and what is told is put in front only when all is done.
  induction lines generalizing session pending with
  | zero => rfl
  | succ lines ih =>
    rw [loop, recount, bind_assoc]
    congr 1
    funext printed
    cases printed with
    | error cause => rfl
    | ok =>
      dsimp only
      rw [bind_assoc]
      congr 1
      funext read
      rcases read with cause | ⟨_ | line, rest⟩
      · rfl
      · rfl
      · dsimp only
        rw [runLine_eq_run, bind_assoc]
        congr 1
        funext after
        rw [ih, bind_assoc]
        rfl

/-- The whole conversation, told in the same way. -/
def recountAll (settings : Settings) (onTerminal : Bool) (bound : Nat) :
    Flow (List Turn × Except Failure Unit) := do
  match ← printLines settings.banner with
  | .error failure => pure ([], .error failure)
  | .ok () => do
    let (turns, result) ← recount (.ofSettings settings onTerminal) bound bound {} []
    match result with
    | .error failure => pure (turns, .error failure)
    | .ok () => do
      let parted ← printLines [""]
      pure (turns, parted)

/-- It is the conversation. -/
theorem converse_eq_recountAll (settings : Settings) (onTerminal : Bool) (bound : Nat) :
    converse settings onTerminal bound =
      recountAll settings onTerminal bound >>= fun told => .done told.2 := by
  -- Both are taken apart at the same places; what fails in between is the same.
  rw [converse, recountAll, bind_assoc]
  congr 1
  funext printed
  cases printed with
  | error failure => rfl
  | ok =>
    dsimp only
    rw [loop_eq_recount, bind_assoc, bind_assoc]
    congr 1
    funext told
    obtain ⟨turns, result⟩ := told
    cases result with
    | error failure => rfl
    | ok =>
      simp only [Flow.done_bind, bind_assoc]
      exact (Flow.bind_done _).symm

/-- The whole program, which tells what its lines come to besides the exit code. -/
def retell (settings : Settings) (onTerminal : Bool) (bound : Nat) : Flow (List Turn × UInt8) := do
  let (turns, result) ← recountAll settings onTerminal bound
  match result with
  | .ok () => pure (turns, 0)
  | .error failure =>
    complain failure.message
    pure (turns, 1)

/-- It is the program. -/
theorem start_eq_retell (settings : Settings) (onTerminal : Bool) (bound : Nat) :
    start settings onTerminal bound =
      retell settings onTerminal bound >>= fun told => .done told.2 := by
  rw [start, retell, converse_eq_recountAll, bind_assoc, bind_assoc]
  congr 1
  funext told
  obtain ⟨turns, result⟩ := told
  cases result <;> rfl

variable {α β γ δ σ : Type} {handler : Handler σ}

/-- What is seen of some events: all but the reads. -/
def observed (events : List Event) : List Event :=
  events.filter fun event => !event.call.isRead

/-- Two flows that look the same from outside, each carried out from a state of its own, and end as
they should. -/
structure Alongside (handler : Handler σ) (post : α × σ → β × σ → Prop) (flow : Flow α)
    (other : Flow β) (left right : σ) : Prop where
  seen : observed (flow.events handler left) = observed (other.events handler right)
  ends : post (flow.run handler left) (other.run handler right)

/-- Flows that do nothing look the same. -/
theorem Alongside.done {post : α × σ → β × σ → Prop} {result : α} {other : β} {left right : σ}
    (ends : post (result, left) (other, right)) :
    Alongside handler post (.done result) (.done other) left right :=
  ⟨rfl, ends⟩

/-- Flows that look the same go on looking the same if what follows them does. -/
theorem Alongside.bind {post : α × σ → β × σ → Prop} {further : γ × σ → δ × σ → Prop}
    {flow : Flow α} {other : Flow β} {next : α → Flow γ} {beyond : β → Flow δ} {left right : σ}
    (first : Alongside handler post flow other left right)
    (rest : ∀ ended another, post ended another →
      Alongside handler further (next ended.1) (beyond another.1) ended.2 another.2) :
    Alongside handler further (flow >>= next) (other >>= beyond) left right := by
  obtain ⟨later, ends⟩ := rest _ _ first.ends
  refine ⟨?_, ?_⟩
  · have seen := first.seen
    simp only [observed] at seen later
    rw [observed, observed, Flow.events_bind, Flow.events_bind, List.filter_append,
      List.filter_append, seen, later]
  · rwa [Flow.run_bind, Flow.run_bind]

/-- Whether two flows have ended with one result, in states that differ in nothing but the input. -/
structure Together (same : σ → σ → Prop) (ended another : α × σ) : Prop where
  result : ended.1 = another.1
  alike : same ended.2 another.2

/-- Behind flows that end together, one result is gone on with. -/
theorem Alongside.bind_together {same : σ → σ → Prop} {further : β × σ → γ × σ → Prop}
    {flow other : Flow α} {next : α → Flow β} {beyond : α → Flow γ} {left right : σ}
    (first : Alongside handler (Together same) flow other left right)
    (rest : ∀ result after later, same after later →
      Alongside handler further (next result) (beyond result) after later) :
    Alongside handler further (flow >>= next) (other >>= beyond) left right := by
  refine first.bind fun ended another met => ?_
  rw [met.result]
  exact rest _ _ _ met.alike

end Repl

namespace Handler.Input.Twins

open Repl

variable {α β γ σ : Type} {handler : Handler σ} {first second : handler.Input} {same : σ → σ → Prop}
  {left right : σ}

/-- What does not read is answered in one way over both inputs. -/
theorem together (twins : first.Twins second same) {flow : Flow α}
    (asks : flow.Asks LeavesInput) (alike : same left right) :
    flow.events handler left = flow.events handler right ∧
      Together same (flow.run handler left) (flow.run handler right) := by
  -- Each request gets one answer, so one and the same comes next.
  induction flow generalizing left right with
  | done result => exact ⟨rfl, rfl, alike⟩
  | ask call next ih =>
    obtain ⟨answer, after⟩ := twins.answers alike asks.1
    obtain ⟨seen, ended⟩ := ih (handler call right).1 (asks.2 _) after
    rw [Flow.events_ask, Flow.events_ask, Flow.run_ask, Flow.run_ask, answer]
    exact ⟨congrArg _ seen, ended⟩

/-- So it looks the same, and what follows it goes on from one result, with as much of each input as
there was before. -/
theorem bind (twins : first.Twins second same) (own : first.IsOwn) (another : second.IsOwn)
    {flow : Flow α} (asks : flow.Asks LeavesInput) (alike : same left right)
    {further : β × σ → γ × σ → Prop} {next : α → Flow β} {beyond : α → Flow γ}
    (rest : ∀ result after later, same after later → first.unread after = first.unread left →
      second.unread later = second.unread right →
      Alongside handler further (next result) (beyond result) after later) :
    Alongside handler further (flow >>= next) (flow >>= beyond) left right := by
  obtain ⟨sound, soundRight⟩ := twins.sound alike
  obtain ⟨seen, ended⟩ := twins.together asks alike
  have met : Alongside handler (fun ended other => Together same ended other ∧
      first.unread ended.2 = first.unread left ∧ second.unread other.2 = second.unread right)
      flow flow left right :=
    ⟨congrArg observed seen, ended, first.unread_run own asks sound,
      second.unread_run another asks soundRight⟩
  refine met.bind fun ended other met => ?_
  obtain ⟨met, unread, unreadRight⟩ := met
  rw [met.result]
  exact rest _ _ _ met.alike unread unreadRight

/-- Reading from the first input changes nothing that both states share. -/
theorem run_left (twins : first.Twins second same) {flow : Flow α}
    (reads : ReadsOn (flow.events handler left)) (alike : same left right) :
    same (flow.run handler left).2 right := by
  induction flow generalizing left with
  | done result => exact alike
  | ask call next ih =>
    obtain ⟨read, others⟩ := List.forall_mem_cons.mp reads
    obtain rfl : call = .read blockSize := read
    exact ih _ others (twins.readsLeft alike blockSize)

/-- Nor does reading from the second. -/
theorem run_right (twins : first.Twins second same) {flow : Flow α}
    (reads : ReadsOn (flow.events handler right)) (alike : same left right) :
    same left (flow.run handler right).2 := by
  induction flow generalizing right with
  | done result => exact alike
  | ask call next ih =>
    obtain ⟨read, others⟩ := List.forall_mem_cons.mp reads
    obtain rfl : call = .read blockSize := read
    exact ih _ others (twins.readsRight alike blockSize)

end Handler.Input.Twins

namespace Repl

variable {σ : Type} {handler : Handler σ}

/-- What two readings come to whose inputs have lines that are alike: the end of both, or two lines
that are alike, with others behind them that are, too, and are fewer than before. -/
inductive Matched (first second : handler.Input) (before : Nat) :
    Except IoError (Option Bytes × Bytes) × σ → Except IoError (Option Bytes × Bytes) × σ → Prop
  | ended {rest beyond : Bytes} {left right : σ} :
      Matched first second before (.ok (none, rest), left) (.ok (none, beyond), right)
  | line {line other rest beyond : Bytes} {left right : σ} (alike : Token.Alike line other)
      (others : List.Forall₂ Token.Alike (Lines.ofInput (rest ++ first.unread left))
        (Lines.ofInput (beyond ++ second.unread right)))
      (fewer : (Lines.ofInput (rest ++ first.unread left)).length < before) :
      Matched first second before (.ok (some line, rest), left) (.ok (some other, beyond), right)

/-- Nothing is seen of reading on. -/
theorem ReadsOn.observed_eq {events : List Event} (reads : ReadsOn events) :
    observed events = [] := by
  rw [observed, List.filter_eq_nil_iff]
  intro event seen
  simp [reads event seen, Call.isRead]

variable {first second : handler.Input} {same : σ → σ → Prop} {left right : σ}

/-- A line is found in both inputs, or in neither. -/
theorem alongside_readLine (twins : first.Twins second same) (alike : same left right)
    {blocks : Nat} (readable : first.content.length < blocks) (legible : second.content.length < blocks)
    (pending beyond : Bytes)
    (matched : List.Forall₂ Token.Alike (Lines.ofInput (pending ++ first.unread left))
      (Lines.ofInput (beyond ++ second.unread right))) :
    Alongside handler (fun read other => same read.2 other.2 ∧
      Matched first second (Lines.ofInput (pending ++ first.unread left)).length read other)
      (readLine blocks pending) (readLine blocks beyond) left right := by
  obtain ⟨sound, soundRight⟩ := twins.sound alike
  have short := Nat.lt_of_le_of_lt (first.length_unread_le left) readable
  have shortRight := Nat.lt_of_le_of_lt (second.length_unread_le right) legible
  obtain ⟨got, found, returned, taken, reads, cut⟩ := readLine_spec first pending sound short
  obtain ⟨gained, another, answered, passed, readsRight, cutRight⟩ :=
    readLine_spec second beyond soundRight shortRight
  -- Both inputs fall apart into what has been found and the lines behind it.
  have split := cut.ofInput_eq
  have splitRight := cutRight.ofInput_eq
  rw [List.append_assoc, ← taken] at split
  rw [List.append_assoc, ← passed] at splitRight
  refine ⟨reads.observed_eq.trans readsRight.observed_eq.symm,
    twins.run_right readsRight (twins.run_left reads alike), ?_⟩
  rcases ran : (readLine blocks pending).run handler left with ⟨result, after⟩
  rcases gone : (readLine blocks beyond).run handler right with ⟨answer, later⟩
  rw [ran] at returned split cut
  rw [gone] at answered splitRight cutRight
  obtain rfl : result = .ok found := returned
  obtain rfl : answer = .ok another := answered
  rw [split, splitRight] at matched
  rw [split]
  obtain ⟨found, rest⟩ := found
  obtain ⟨another, further⟩ := another
  -- As there are as many lines in both, an end on one side only is ruled out.
  cases found with
  | none =>
    cases another with
    | none => exact .ended
    | some other =>
      rw [cut.eq_nil] at matched
      cases matched
  | some line =>
    cases another with
    | none =>
      rw [cutRight.eq_nil] at matched
      cases matched
    | some other =>
      obtain ⟨like, others⟩ := List.forall₂_cons.mp matched
      exact .line like others (Nat.lt_succ_self _)

/-- Lines that are alike come to the same. -/
theorem Turn.of_congr {line other : Bytes} (alike : Token.Alike line other) (session : Session) :
    of session line = of session other := by
  have tokens (line : Bytes) : (of session line).tokens =
      ((Utf8.toString? line).map Token.scan).map (List.map (Token.expand session.lastCode)) := by
    simp only [of, Option.map_map, Function.comp_def, Token.ofLine]
  have same : (of session line).tokens = (of session other).tokens := by
    rw [tokens, tokens, alike]
  exact congrArg (Turn.mk session.lastCode) same

/-- Over inputs whose lines are alike, the loop comes to the same. -/
theorem alongside_recount (twins : first.Twins second same) (own : first.IsOwn)
    (another : second.IsOwn) (prompt : Prompt) {blocks : Nat}
    (readable : first.content.length < blocks) (legible : second.content.length < blocks)
    {lines : Nat} (session : Session) {pending beyond : Bytes} (alike : same left right)
    (matched : List.Forall₂ Token.Alike (Lines.ofInput (pending ++ first.unread left))
      (Lines.ofInput (beyond ++ second.unread right)))
    (enough : (Lines.ofInput (pending ++ first.unread left)).length < lines) :
    Alongside handler (Together same) (recount prompt blocks lines session pending)
      (recount prompt blocks lines session beyond) left right := by
  -- Each round takes a line off both inputs.
  induction lines generalizing session pending beyond left right with
  | zero => exact absurd enough (Nat.not_lt_zero _)
  | succ lines ih =>
    unfold recount
    refine twins.bind own another (asks_print prompt) alike
      fun printed left right alike unread unreadRight => ?_
    rw [← unread] at enough
    rw [← unread, ← unreadRight] at matched
    cases printed with
    | error cause => exact .done ⟨rfl, alike⟩
    | ok =>
      refine (alongside_readLine twins alike readable legible pending beyond matched).bind
        fun read other met => ?_
      obtain ⟨alike, found⟩ := met
      cases found with
      | ended => exact .done ⟨rfl, alike⟩
      | @line line other rest further left right like others fewer =>
        -- The two lines come to one and the same, and those behind them are still alike.
        have asks := runLine_eq_run session other ▸ asks_runLine session other
        dsimp only at alike ⊢
        rw [Turn.of_congr like session]
        refine twins.bind own another asks alike fun after left right alike unread unreadRight => ?_
        rw [← unread] at fewer
        rw [← unread, ← unreadRight] at others
        exact (ih after alike others (by omega)).bind_together
          fun told left right alike => .done ⟨rfl, alike⟩

/-- So does the whole conversation. -/
theorem alongside_recountAll (twins : first.Twins second same) (own : first.IsOwn)
    (another : second.IsOwn) (settings : Settings) (onTerminal : Bool) {bound : Nat}
    (readable : first.content.length < bound) (legible : second.content.length < bound)
    (alike : same left right)
    (matched : List.Forall₂ Token.Alike (Lines.ofInput (first.unread left))
      (Lines.ofInput (second.unread right))) :
    Alongside handler (Together same) (recountAll settings onTerminal bound)
      (recountAll settings onTerminal bound) left right := by
  unfold recountAll
  -- Neither the greeting nor the farewell reads, so the loops find the same lines.
  refine twins.bind own another (asks_printLines settings.banner) alike
    fun greeted left right alike unread unreadRight => ?_
  rw [← unread, ← unreadRight] at matched
  cases greeted with
  | error failure => exact .done ⟨rfl, alike⟩
  | ok =>
    have enough := Nat.lt_of_le_of_lt
      (Nat.le_trans (Lines.length_ofInput_le _) (first.length_unread_le left)) readable
    refine (alongside_recount twins own another _ readable legible {} alike matched
      enough).bind_together fun told left right alike => ?_
    obtain ⟨turns, looped⟩ := told
    cases looped with
    | error failure => exact .done ⟨rfl, alike⟩
    | ok =>
      exact twins.bind own another (asks_printLines [""]) alike
        fun parted left right alike _ _ => .done ⟨rfl, alike⟩

/-- So does the whole program. -/
theorem alongside_retell (twins : first.Twins second same) (own : first.IsOwn)
    (another : second.IsOwn) (settings : Settings) (onTerminal : Bool) {bound : Nat}
    (readable : first.content.length < bound) (legible : second.content.length < bound)
    (alike : same left right)
    (matched : List.Forall₂ Token.Alike (Lines.ofInput (first.unread left))
      (Lines.ofInput (second.unread right))) :
    Alongside handler (Together same) (retell settings onTerminal bound)
      (retell settings onTerminal bound) left right := by
  unfold retell
  refine (alongside_recountAll twins own another settings onTerminal readable legible alike
    matched).bind_together fun told left right alike => ?_
  obtain ⟨turns, ended⟩ := told
  cases ended with
  | ok => exact .done ⟨rfl, alike⟩
  | error failure =>
    -- What is wrong is told on the error stream, which is no read either.
    have asks : (complain failure.message).Asks LeavesInput := ⟨rfl, fun _ => trivial⟩
    exact twins.bind own another asks alike fun _ left right alike _ _ => .done ⟨rfl, alike⟩

end Repl

end LineShell
