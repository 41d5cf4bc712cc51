import LineShell.Proofs.Repl.Reading
import LineShell.Repl.Transcript

/-! Conversing: the whole conversation, over any input that nobody else reads from. -/

namespace LineShell.Repl

open LineShell.Flow (Asks)

/-- Showing nothing takes no events. -/
theorem Shows.nil : Shows [] [] :=
  ⟨by simp, rfl⟩

/-- A write that takes some bytes comes before those that take the rest. -/
theorem Shows.write {data : Bytes} {events : List Event} (taken : Nat)
    (rest : Shows (data.drop taken) events) :
    Shows data (⟨.write data, .ok taken⟩ :: events) := by
  refine ⟨List.forall_mem_cons.mpr ⟨⟨data, rfl⟩, rest.writes⟩, ?_⟩
  rw [List.flatMap_cons, rest.printed]
  exact List.take_append_drop taken data

/-- What is shown in two goes is shown. -/
theorem Shows.append {first second : Bytes} {events later : List Event}
    (shows_ : Shows first events) (others : Shows second later) :
    Shows (first ++ second) (events ++ later) := by
  refine ⟨List.forall_mem_append.mpr ⟨shows_.writes, others.writes⟩, ?_⟩
  rw [List.flatMap_append, shows_.printed, others.printed]

/-! Writing reads nothing. -/

/-- Whether a request leaves the standard input alone. -/
abbrev LeavesInput (call : Call) : Prop :=
  call.isRead = false

/-- Writing what is left does not read. -/
theorem asks_writeRest (attempts : Nat) (data : Bytes) :
    (output.writeRest attempts data).Asks LeavesInput := by
  induction attempts generalizing data with
  | zero => cases data <;> exact trivial
  | succ attempts ih =>
    cases data with
    | nil => exact trivial
    | cons byte data =>
      refine ⟨rfl, fun reply => ?_⟩
      -- Only what has been taken in part is written on.
      rcases reply with cause | _ | taken
      · exact trivial
      · exact trivial
      · exact ih _

/-- Writing does not read. -/
theorem asks_writeAll (data : Bytes) : (output.writeAll data).Asks LeavesInput :=
  asks_writeRest _ data

/-- Prompting does not read. -/
theorem asks_print (prompt : Prompt) : (prompt.print output).Asks LeavesInput := by
  refine (asks_writeAll _).bind fun written => ?_
  cases written with
  | error cause => exact trivial
  | ok => exact ⟨rfl, fun _ => trivial⟩

/-- Running a line does not read. -/
theorem asks_runLine (session : Session) (line : Bytes) :
    (runLine session line).Asks LeavesInput := by
  -- No request of a line reads, nor does the report behind it.
  have within (call : Call) (ofLine : call.IsOfLine) : LeavesInput call := by
    cases call <;> first | rfl | cases ofLine
  unfold runLine
  split
  · exact ⟨rfl, fun _ => trivial⟩
  · refine ((Session.asks_execute session _).mono within).bind fun ⟨result, session⟩ => ?_
    cases result with
    | error error => exact ⟨rfl, fun _ => trivial⟩
    | ok => exact trivial

/-- Printing lines does not read. -/
theorem asks_printLines (lines : List String) : (printLines lines).Asks LeavesInput := by
  induction lines with
  | nil => exact trivial
  | cons line rest ih =>
    refine (asks_writeAll _).bind fun written => ?_
    cases written with
    | error cause => exact trivial
    | ok => exact ih

variable {σ : Type} {handler : Handler σ} {input : handler.Input} {state : σ}

/-- With bytes left, all of them are offered, and what is not taken is left. -/
theorem writeRest_succ (attempts : Nat) (byte : UInt8) (data : Bytes) :
    output.writeRest (attempts + 1) (byte :: data) = .ask (.write (byte :: data)) fun
      | .error cause => .done (.error cause)
      | .ok 0 => .done (.error .writeZero)
      | .ok (taken + 1) => output.writeRest attempts (data.drop taken) := by
  refine congrArg (Flow.ask (.write (byte :: data))) (funext fun reply => ?_)
  rcases reply with cause | _ | taken <;> rfl

/-- Writing shows all the bytes. -/
theorem writeAll_spec (prints : input.Prints) (sound : input.Sound state) (data : Bytes) :
    ((output.writeAll data).run handler state).1 = .ok () ∧
      Shows data ((output.writeAll data).events handler state) := by
  -- Each write takes a byte at least, so there are never more writes than bytes.
  have rest (attempts : Nat) (data : Bytes) {state : σ} (sound : input.Sound state)
      (enough : data.length ≤ attempts) :
      ((output.writeRest attempts data).run handler state).1 = .ok () ∧
        Shows data ((output.writeRest attempts data).events handler state) := by
    induction attempts generalizing data state with
    | zero =>
      obtain rfl := List.eq_nil_of_length_eq_zero (Nat.le_zero.mp enough)
      exact ⟨rfl, .nil⟩
    | succ attempts ih =>
      cases data with
      | nil => exact ⟨rfl, .nil⟩
      | cons byte data =>
        obtain ⟨taken, replied⟩ := prints.write sound (List.cons_ne_nil byte data)
        obtain ⟨returned, shown⟩ := ih (data.drop taken) (input.sound sound (.write (byte :: data)))
          (by
            simp only [List.length_cons, List.length_drop] at enough ⊢
            omega)
        rw [writeRest_succ, Flow.run_ask, Flow.events_ask, replied]
        exact ⟨returned, .write (taken + 1) shown⟩
  exact rest _ data sound (Nat.le_refl _)

/-- Prompting shows the prompt and flushes once. -/
theorem print_spec (prints : input.Prints) (sound : input.Sound state) (prompt : Prompt) :
    ((prompt.print output).run handler state).1 = .ok () ∧
      ∃ shown, Shows (Utf8.ofString prompt.render) shown ∧
        (prompt.print output).events handler state = shown ++ [⟨.flush, .ok ()⟩] := by
  obtain ⟨written, shown⟩ := writeAll_spec prints sound (Utf8.ofString prompt.render)
  have flushed := prints.flush
    (input.sound_run (output.writeAll (Utf8.ofString prompt.render)) sound)
  rw [Prompt.print, Flow.run_bind, Flow.events_bind, written]
  refine ⟨flushed, _, shown, ?_⟩
  exact congrArg (fun reply => _ ++ [Event.mk .flush reply]) flushed

/-- Printing lines shows them, each with a line feed. -/
theorem printLines_spec (prints : input.Prints) (sound : input.Sound state) (lines : List String) :
    ((printLines lines).run handler state).1 = .ok () ∧
      Shows (lines.flatMap fun line => Utf8.ofString (line ++ "\n"))
        ((printLines lines).events handler state) := by
  induction lines generalizing state with
  | nil => exact ⟨rfl, .nil⟩
  | cons line rest ih =>
    obtain ⟨written, shown⟩ := writeAll_spec prints sound (Utf8.ofString (line ++ "\n"))
    obtain ⟨returned, others⟩ := ih
      (input.sound_run (output.writeAll (Utf8.ofString (line ++ "\n"))) sound)
    rw [printLines, Flow.run_bind, Flow.events_bind, written]
    exact ⟨returned, shown.append others⟩

/-- A line that fails leaves the session as it was. -/
theorem session_of_failed {session after : Session} {line : String} {error : LineError}
    (failed : ((session.execute line).run handler state).1 = (.error error, after)) :
    after = session := by
  rw [Session.execute, Session.run, bind_assoc, Flow.run_bind] at failed
  -- Only the outcome of the run decides, and a failed one does not change the session.
  generalize (Run.ofTokens (Token.ofLine line session.lastCode)).run handler state = ran at failed
  obtain ⟨⟨spawned, reapers, outcome⟩, left⟩ := ran
  cases outcome with
  | failed stage why =>
    cases failed
    rfl
  | empty => cases failed
  | exited code => cases failed

/-- The events of running a line are those that it should have. -/
theorem runLine_spec (handler : Handler σ) (session : Session) (line : Bytes) (state : σ) :
    Ran session line ((runLine session line).events handler state)
      ((runLine session line).run handler state).1 := by
  unfold runLine
  split
  · rename_i invalid
    exact .unreadable invalid
  · rename_i text valid
    have carried := Flow.unfolds_events handler (session.execute text) state
    have silent : ∀ event ∈ (session.execute text).events handler state,
        event.call.isAside = false :=
      fun event seen => (Session.asks_execute session text).of_mem_events seen
    rw [Flow.run_bind, Flow.events_bind]
    rcases ran : (session.execute text).run handler state with ⟨⟨result, after⟩, left⟩
    rw [ran] at carried
    cases result with
    | ok =>
      dsimp only
      rw [Flow.pure_eq_done, Flow.run_done, Flow.events_done, List.append_nil]
      exact .executed valid carried silent
    | error error =>
      -- The session after a line that fails is the one before it.
      obtain rfl := session_of_failed (congrArg Prod.fst ran)
      exact .failed valid carried silent

/-- What is left of the input when the prompt has been shown is what was left before. -/
theorem unread_print (own : input.IsOwn) (sound : input.Sound state) (prompt : Prompt) :
    input.unread ((prompt.print output).run handler state).2 = input.unread state :=
  input.unread_run own (asks_print prompt) sound

/-- The loop goes through the lines of its input, one round for each, and ends with the input. -/
theorem loop_spec (own : input.IsOwn) (prints : input.Prints) (prompt : Prompt) {blocks : Nat}
    (readable : input.content.length < blocks) {lines : Nat} (pending : Bytes)
    (enough : (pending ++ input.unread state).length < lines) (sound : input.Sound state)
    (session : Session) :
    ((loop prompt blocks lines session pending).run handler state).1 = .ok () ∧
      Rounds prompt session (Lines.ofInput (pending ++ input.unread state))
        ((loop prompt blocks lines session pending).events handler state) := by
  -- Each line takes a byte of the input at least, so the loop is never cut short.
  induction lines generalizing session pending state with
  | zero => exact absurd enough (Nat.not_lt_zero _)
  | succ lines ih =>
    obtain ⟨printed, shown, prompted, asked⟩ := print_spec prints sound prompt
    have unread := unread_print own sound prompt
    have afterPrompt := input.sound_run (prompt.print output) sound
    have short := Nat.lt_of_le_of_lt
      (input.length_unread_le ((prompt.print output).run handler state).2) readable
    -- What the reading takes from the input and what is pending make the line and what is behind
    -- it.
    obtain ⟨got, result, returned, taken, reads, cut⟩ :=
      readLine_spec input pending afterPrompt short
    rw [unread] at taken
    have split := cut.ofInput_eq
    have whole := congrArg List.length taken
    rw [List.append_assoc, ← taken] at split
    have afterRead := input.sound_run (readLine blocks pending) afterPrompt
    rw [loop, Flow.run_bind, Flow.events_bind, printed, asked, split]
    dsimp only
    rw [Flow.run_bind, Flow.events_bind, returned]
    obtain ⟨found, rest⟩ := result
    cases found with
    | none =>
      rw [cut.eq_nil]
      refine ⟨rfl, ?_⟩
      rw [List.append_assoc, Flow.pure_eq_done, Flow.events_done, List.append_nil]
      exact .over prompted reads
    | some line =>
      -- Running the line leaves the input alone, so the rest of the rounds are those of what is
      -- behind.
      have ran := runLine_spec handler session line
        ((readLine blocks pending).run handler ((prompt.print output).run handler state).2).2
      have left := input.unread_run own (asks_runLine session line) afterRead
      have shorter := cut.length_lt
      simp only [List.length_append] at shorter whole enough
      obtain ⟨ended, others⟩ := ih rest
        (by rw [left, List.length_append]; omega)
        (input.sound_run (runLine session line) afterRead)
        ((runLine session line).run handler
          ((readLine blocks pending).run handler ((prompt.print output).run handler state).2).2).1
      rw [left] at others
      dsimp only
      rw [Flow.run_bind, Flow.events_bind]
      refine ⟨ended, ?_⟩
      have round := Rounds.line prompted reads ran others
      simpa only [Option.toList_some, List.append_assoc, List.cons_append, List.nil_append] using round

/-- An input that is given beforehand. -/
def fedInput (handler : Handler σ) (content : Bytes) : handler.fed.Input where
  content := content
  place state := content.length - state.1.length
  Sound state := state.1 <:+ content
  sound {state} suffix call := by
    -- Only a read takes anything off.
    cases call <;> first | exact suffix | exact (List.drop_suffix _ _).trans suffix
  within _ := Nat.sub_le ..
  onward {state} _ call := by
    cases call <;> simp [Handler.fed] <;> omega
  read {state} suffix {limit} some := by
    obtain ⟨rest, system⟩ := state
    obtain ⟨before, rfl⟩ := suffix
    refine ⟨rest.take limit, rfl, ?_, ?_, ?_⟩
    · simpa using List.take_prefix limit rest
    · simp [Handler.fed]
      omega
    · intro empty
      rcases List.take_eq_nil_iff.mp empty with none | rfl
      · omega
      · simp

/-- Nobody else reads from it. -/
theorem isOwn_fedInput (handler : Handler σ) (content : Bytes) :
    (fedInput handler content).IsOwn := by
  intro state call _ other
  cases call <;> first | rfl | cases other

/-- A system in which one program can be found, and always ends with the same code. -/
def oneProgram (name : String) (code : UInt8) : Handler Unit
  | .lookup asked, _ => (if asked = name then .ok name else .error (.notFound asked), ())
  | .spawn _, _ => (.ok 1, ())
  | .wait _, _ => (.ok (.ofCode code), ())
  | .write data, _ => (.ok data.length, ())
  | .flush, _ => (.ok (), ())
  | call, _ => (Machine.refuse call, ())

end LineShell.Repl
