import LineShell.Proofs.Repl.Conversing

/-! Prompting: what a writer gets of a prompt, whatever it takes at a time and wherever it fails. -/

namespace LineShell

/-- Whether an event is a call of a writer that has failed. -/
def Event.isFailure : Event → Bool
  | ⟨.write _, .error _⟩ | ⟨.flush, .error _⟩ => true
  | _ => false

namespace Writer

variable {σ : Type}

/-- Whether a writer takes a byte at least of what it is offered, and no more than that, unless it
fails. -/
def Accepts (writer : Writer (StateM σ)) : Prop :=
  ∀ (data : Bytes) (state : σ) (taken : Nat), data ≠ [] →
    (Id.run ((writer.write data).run state)).1 = .ok taken → 0 < taken ∧ taken ≤ data.length

/-- Answers writes and flushes as a writer does, and refuses everything else. -/
def handler (writer : Writer (StateM σ)) : Handler σ
  | .write data, state => Id.run ((writer.write data).run state)
  | .flush, state => Id.run (writer.flush.run state)
  | call, state => (Machine.refuse call, state)

/-- Writing again and again makes the calls of a writer one by one. -/
theorem run_writeRest (writer : Writer (StateM σ)) (attempts : Nat) (data : Bytes) (state : σ) :
    Id.run ((writer.writeRest attempts data).run state) =
      (Repl.output.writeRest attempts data).run writer.handler state := by
  -- Write by write the answers are the same, and both stop where one fails or takes nothing.
  induction attempts generalizing data state with
  | zero => cases data <;> rfl
  | succ attempts ih =>
    cases data with
    | nil => rfl
    | cons byte data =>
      rw [Repl.writeRest_succ, Flow.run_ask, handler, writeRest, StateT.run_bind, Id.run_bind]
      rcases Id.run ((writer.write (byte :: data)).run state) with ⟨cause | _ | taken, after⟩
      · rfl
      · rfl
      · exact ih _ after

/-- So does prompting. -/
theorem run_print (writer : Writer (StateM σ)) (prompt : Prompt) (state : σ) :
    Id.run ((prompt.print writer).run state) =
      (prompt.print Repl.output).run writer.handler state := by
  have written := writer.run_writeRest (Utf8.ofString prompt.render).length
    (Utf8.ofString prompt.render) state
  rw [Prompt.print, Prompt.print, StateT.run_bind, Id.run_bind, Flow.run_bind, writeAll, writeAll,
    written]
  rcases (Repl.output.writeRest _ (Utf8.ofString prompt.render)).run writer.handler state with
    ⟨cause | _, after⟩ <;> rfl

end Writer

namespace Repl

/-- Writes that have all been accepted, each for a byte at least, and the bytes that they have put
out. -/
structure Accepted (data : Bytes) (writes : List Event) : Prop where
  each : ∀ event ∈ writes, ∃ offered taken, event = ⟨.write offered, .ok taken⟩
  filled : ∀ event ∈ writes, event.printed ≠ []
  printed : writes.flatMap Event.printed = data

/-- Without writes, nothing is put out. -/
theorem Accepted.nil : Accepted [] [] :=
  ⟨by simp, by simp, rfl⟩

/-- One more write comes before those of what it has not taken. -/
theorem Accepted.write {data rest : Bytes} {writes : List Event} {taken : Nat} (some : 0 < taken)
    (within : taken ≤ data.length) (others : Accepted rest writes) :
    Accepted (data.take taken ++ rest) (⟨.write data, .ok taken⟩ :: writes) := by
  refine ⟨List.forall_mem_cons.mpr ⟨⟨data, taken, rfl⟩, others.each⟩,
    List.forall_mem_cons.mpr ⟨fun empty => ?_, others.filled⟩, ?_⟩
  · have size := congrArg List.length empty
    simp only [Event.printed, List.length_take, List.length_nil] at size
    omega
  · rw [List.flatMap_cons, others.printed]
    rfl

/-- No write that has been accepted has failed, and none is a flush. -/
theorem Accepted.quiet {data : Bytes} {writes : List Event} (accepted : Accepted data writes) :
    ∀ event ∈ writes, event.isFailure = false ∧ event.call ≠ .flush := by
  intro event member
  obtain ⟨offered, taken, rfl⟩ := accepted.each event member
  exact ⟨rfl, Call.noConfusion⟩

/-- Behind them, only one call more can have failed. -/
theorem Accepted.eq_of_isFailure {data : Bytes} {writes : List Event} {last call : Event}
    (accepted : Accepted data writes) (seen : call ∈ writes ++ [last])
    (failure : call.isFailure = true) : call = last := by
  rcases List.mem_append.mp seen with write | final
  · rw [(accepted.quiet call write).1] at failure
    cases failure
  · exact List.mem_singleton.mp final

/-- How bytes are delivered, call by call: all of them, and then they are flushed, or some, and then
a write has failed. -/
inductive Delivers (data : Bytes) : List Event → Except IoError Unit → Prop
  | flushed {writes : List Event} (accepted : Accepted data writes) (reply : Except IoError Unit) :
      Delivers data (writes ++ [⟨.flush, reply⟩]) reply
  | failed {front rest : Bytes} {writes : List Event} (split : data = front ++ rest)
      (accepted : Accepted front writes) (left : rest ≠ []) (cause : IoError) :
      Delivers data (writes ++ [⟨.write rest, .error cause⟩]) (.error cause)

/-- A write takes some bytes off those that are delivered behind it. -/
theorem Delivers.write {data : Bytes} {calls : List Event} {result : Except IoError Unit}
    {taken : Nat} (some : 0 < taken) (within : taken ≤ data.length)
    (rest : Delivers (data.drop taken) calls result) :
    Delivers data (⟨.write data, .ok taken⟩ :: calls) result := by
  -- What has been taken comes in front of what the later writes deliver.
  cases rest with
  | flushed accepted reply =>
    have more := accepted.write some within
    rw [List.take_append_drop] at more
    exact .flushed more result
  | @failed front rest writes split accepted left cause =>
    have whole : data = data.take taken ++ front ++ rest := by
      rw [List.append_assoc, ← split, List.take_append_drop]
    exact .failed whole (accepted.write some within) left cause

variable {σ : Type} {writer : Writer (StateM σ)}

/-- Writing all of some bytes and flushing them then delivers them. -/
theorem delivers_writeRest (accepts : writer.Accepts) (attempts : Nat) (data : Bytes)
    (enough : data.length ≤ attempts) (state : σ) :
    let flow := output.writeRest attempts data >>= fun
      | .error cause => pure (.error cause)
      | .ok () => output.flush
    Delivers data (flow.events writer.handler state) (flow.run writer.handler state).1 := by
  -- Each write takes a byte at least, so the attempts last as long as there are bytes.
  induction attempts generalizing data state with
  | zero =>
    obtain rfl := List.eq_nil_of_length_eq_zero (Nat.le_zero.mp enough)
    exact .flushed .nil _
  | succ attempts ih =>
    cases data with
    | nil => exact .flushed .nil _
    | cons byte data =>
      dsimp only
      rw [writeRest_succ, Flow.ask_bind, Flow.events_ask, Flow.run_ask]
      have contract (taken : Nat)
          (replied : (writer.handler (.write (byte :: data)) state).1 = .ok taken) :
          0 < taken ∧ taken ≤ (byte :: data).length :=
        accepts _ state taken (List.cons_ne_nil byte data) replied
      rcases answered : writer.handler (.write (byte :: data)) state with ⟨cause | taken, after⟩
      · exact .failed rfl .nil (List.cons_ne_nil _ _) cause
      · obtain ⟨some, within⟩ := contract taken (by rw [answered])
        cases taken with
        | zero => exact absurd some (Nat.lt_irrefl 0)
        | succ taken =>
          refine .write some within (ih (data.drop taken) ?_ after)
          rw [List.length_drop]
          simp only [List.length_cons] at enough
          omega

/-- What the calls of a writer, to which some bytes were to be delivered, have come to. -/
structure Delivery (data : Bytes) (calls : List Event) (result : Except IoError Unit) : Prop where
  /-- If no call fails, the bytes are delivered, and then there is one flush. -/
  complete : (∀ call ∈ calls, call.isFailure = false) →
    result = .ok () ∧ ∃ writes, calls = writes ++ [⟨.flush, .ok ()⟩] ∧ Accepted data writes
  /-- If a write fails, something is left that has not been delivered, and there is no flush. -/
  broken : ∀ offered cause, ⟨.write offered, .error cause⟩ ∈ calls →
    result = .error cause ∧ calls.flatMap Event.printed <+: data ∧
      calls.flatMap Event.printed ≠ data ∧ ∀ call ∈ calls, call.call ≠ .flush
  /-- If the flush fails, the bytes have been delivered, and it is not tried again. -/
  unflushed : ∀ cause, ⟨.flush, .error cause⟩ ∈ calls →
    result = .error cause ∧
      ∃ writes, calls = writes ++ [⟨.flush, .error cause⟩] ∧ Accepted data writes
  /-- If there is nothing to be delivered, nothing is written. -/
  idle : data = [] → calls = [⟨.flush, result⟩]

/-- Bytes that are delivered call by call are delivered as they should be. -/
theorem Delivers.delivery {data : Bytes} {calls : List Event} {result : Except IoError Unit}
    (delivers : Delivers data calls result) : Delivery data calls result := by
  cases delivers with
  | @flushed writes accepted reply =>
    refine ⟨fun granted => ?_, fun offered cause seen => ?_, fun cause seen => ?_, ?_⟩
    · have last := granted ⟨.flush, result⟩ (by simp)
      cases result with
      | error cause => cases last
      | ok => exact ⟨rfl, writes, rfl, accepted⟩
    · -- All writes have been accepted.
      cases accepted.eq_of_isFailure seen rfl
    · cases accepted.eq_of_isFailure seen rfl
      exact ⟨rfl, writes, rfl, accepted⟩
    · -- A write would have put something out.
      rintro rfl
      have none : writes = [] := by
        refine List.eq_nil_iff_forall_not_mem.mpr fun event member => ?_
        have silent := List.flatMap_eq_nil_iff.mp accepted.printed event member
        exact accepted.filled event member silent
      rw [none, List.nil_append]
  | @failed front rest writes split accepted left cause =>
    refine ⟨fun granted => ?_, fun offered why seen => ?_, fun why seen => ?_, ?_⟩
    · cases granted _ (List.mem_append_right writes List.mem_cons_self)
    · cases accepted.eq_of_isFailure seen rfl
      -- The write that has failed puts nothing out.
      have printed :
          (writes ++ [Event.mk (.write rest) (.error cause)]).flatMap Event.printed = front := by
        rw [List.flatMap_append, accepted.printed]
        exact List.append_nil front
      rw [printed, split]
      refine ⟨rfl, List.prefix_append _ _, by simpa using left, ?_⟩
      refine List.forall_mem_append.mpr ⟨fun call member => (accepted.quiet call member).2, ?_⟩
      simp
    · -- The call that has failed is a write.
      cases accepted.eq_of_isFailure seen rfl
    · rintro rfl
      exact absurd (List.append_eq_nil_iff.mp split.symm).2 left

/-- A writer that takes at most three bytes at a time, and eight at all. -/
def tight : Writer (StateM Nat) where
  write data := fun taken =>
    let portion := min data.length (min 3 (8 - taken))
    if portion = 0 then (.error (.system .noSpace), taken) else (.ok portion, taken + portion)
  flush := fun taken => (.ok (), taken)

/-- The prompt as a terminal shows it. -/
def green : Prompt where
  text := ">> "
  style := some { bold := true, green := true }

end Repl

end LineShell
