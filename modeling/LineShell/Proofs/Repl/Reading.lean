import LineShell.Proofs.Pipeline.Asking
import LineShell.Proofs.Repl.Conversation
import LineShell.Proofs.Text.Lines

/-! Reading: what a line is read from. -/

namespace LineShell

namespace Handler.Input

variable {α σ : Type} {handler : Handler σ} (input : handler.Input)

/-- Nothing that a flow does makes a state unsound. -/
theorem sound_run (flow : Flow α) {state : σ} (sound : input.Sound state) :
    input.Sound (flow.run handler state).2 := by
  induction flow generalizing state with
  | done result => exact sound
  | ask call next ih => exact ih _ (input.sound sound call)

/-- No more is left than there was at the start. -/
theorem length_unread_le (state : σ) : (input.unread state).length ≤ input.content.length := by
  rw [unread, List.length_drop]
  exact Nat.sub_le ..

/-- What has been passed is behind what has not. -/
theorem unread_eq_append {state after : σ} (onward : input.place state ≤ input.place after) :
    input.unread state = (input.unread state).take (input.place after - input.place state) ++
      input.unread after := by
  have rest : input.unread after =
      (input.unread state).drop (input.place after - input.place state) := by
    rw [unread, unread, List.drop_drop, Nat.add_sub_cancel' onward]
  rw [rest, List.take_append_drop]

/-- A flow that reads nothing leaves the place alone, where nobody else reads. -/
theorem place_run (own : input.IsOwn) {flow : Flow α}
    (asks : flow.Asks fun call => call.isRead = false) {state : σ} (sound : input.Sound state) :
    input.place (flow.run handler state).2 = input.place state := by
  induction flow generalizing state with
  | done result => rfl
  | ask call next ih =>
    exact (ih _ (asks.2 _) (input.sound sound call)).trans (own _ _ sound asks.1)

/-- So what is left to be read stays the same. -/
theorem unread_run (own : input.IsOwn) {flow : Flow α}
    (asks : flow.Asks fun call => call.isRead = false) {state : σ} (sound : input.Sound state) :
    input.unread (flow.run handler state).2 = input.unread state := by
  rw [unread, unread, input.place_run own asks sound]

/-- A read gives the beginning of what is left, and nothing only if nothing is left. -/
theorem unread_read {state : σ} (sound : input.Sound state) (limit : Nat) (some : 0 < limit) :
    ∃ block, (handler (.read limit) state).1 = .ok block ∧
      input.unread state = block ++ input.unread (handler (.read limit) state).2 ∧
      (block = [] → input.unread state = []) := by
  obtain ⟨block, replied, first, moved, ended⟩ := input.read sound some
  refine ⟨block, replied, ?_, fun empty => ?_⟩
  · have split := input.unread_eq_append (input.onward sound (.read limit))
    rw [moved, Nat.add_sub_cancel_left] at split
    rwa [unread, ← List.prefix_iff_eq_take.mp first] at split
  · rw [unread, ended empty, List.drop_length]

end Handler.Input

namespace Repl

/-- What is found in some bytes behind which others are left: a line and what has been read beyond
it, the rest of the input, or the end. -/
inductive Cut : Bytes → Bytes → Option Bytes × Bytes → Prop
  | line {body rest left : Bytes} (unended : Lines.lineFeed ∉ body) :
      Cut (body ++ Lines.lineFeed :: rest) left (some (Lines.trim body), rest)
  | last {body : Bytes} (given : body ≠ []) (unended : Lines.lineFeed ∉ body) :
      Cut body [] (some body, [])
  | nothing : Cut [] [] (none, [])

/-- With a whole line at hand, nothing is read. -/
theorem readLine_of_cut {pending line rest : Bytes}
    (found : Lines.cut? pending = some (line, rest)) (bound : Nat) :
    readLine bound pending = .done (.ok (some (Lines.trim line), rest)) := by
  unfold readLine
  rw [found]
  rfl

/-- Without one, the next block is read. -/
theorem readLine_of_none {pending : Bytes} (unended : Lines.cut? pending = none) (bound : Nat) :
    readLine (bound + 1) pending = .ask (.read blockSize) fun
      | .error cause => .done (.error cause)
      | .ok [] =>
        if pending.isEmpty then .done (.ok (none, [])) else .done (.ok (some pending, []))
      | .ok (byte :: block) => readLine bound (pending ++ byte :: block) := by
  rw [readLine, unended]
  refine congrArg (Flow.ask (.read blockSize)) (funext fun reply => ?_)
  rcases reply with cause | _ | ⟨byte, block⟩ <;> rfl

variable {σ : Type} {handler : Handler σ} (input : handler.Input)

/-- Reading a line takes blocks from the input until there is a line in them, or nothing is left. -/
theorem readLine_spec {bound : Nat} (pending : Bytes) {state : σ} (sound : input.Sound state)
    (enough : (input.unread state).length < bound) :
    ∃ got result, ((readLine bound pending).run handler state).1 = .ok result ∧
      input.unread state = got ++ input.unread ((readLine bound pending).run handler state).2 ∧
      ReadsOn ((readLine bound pending).events handler state) ∧
      Cut (pending ++ got) (input.unread ((readLine bound pending).run handler state).2)
        result := by
  -- Each block that is read leaves less of the input, so the bound is never reached.
  induction bound generalizing pending state with
  | zero => exact absurd enough (Nat.not_lt_zero _)
  | succ bound ih =>
    rcases Lines.cases_of_lineFeed pending with unended | ⟨body, rest, unended, rfl⟩
    · rw [readLine_of_none (Lines.cut?_of_notMem unended)]
      obtain ⟨block, replied, split, ended⟩ := input.unread_read sound blockSize
        (by decide)
      simp only [Flow.run_ask, Flow.events_ask]
      rw [replied]
      cases block with
      | nil =>
        have spent := ended rfl
        rw [spent, List.nil_append] at split
        cases pending with
        | nil => exact ⟨[], (none, []), rfl, by simp [spent, ← split], by simp [ReadsOn],
            by simpa [← split] using Cut.nothing⟩
        | cons byte pending => exact ⟨[], (some (byte :: pending), []), rfl,
            by simp [spent, ← split], by simp [ReadsOn],
            by simpa [← split] using Cut.last (List.cons_ne_nil _ _) unended⟩
      | cons byte block =>
        have shorter := congrArg List.length split
        simp only [List.length_append, List.length_cons] at shorter
        obtain ⟨got, result, returned, taken, reads, cut⟩ := ih (pending ++ byte :: block)
          (input.sound sound (.read blockSize)) (by omega)
        refine ⟨byte :: block ++ got, result, returned, ?_, ?_, ?_⟩
        · rw [split, List.append_assoc, ← taken]
        · exact List.forall_mem_cons.mpr ⟨rfl, reads⟩
        · rwa [← List.append_assoc]
    · -- There is a whole line already.
      rw [readLine_of_cut (Lines.cut?_line unended rest)]
      exact ⟨[], _, rfl, rfl, by simp [ReadsOn], by simpa using Cut.line unended⟩

/-- The lines of the whole input are the line that has been found and those behind it. -/
theorem Cut.ofInput_eq {whole left : Bytes} {result : Option Bytes × Bytes}
    (cut : Cut whole left result) :
    Lines.ofInput (whole ++ left) = result.1.toList ++ Lines.ofInput (result.2 ++ left) := by
  cases cut with
  | line unended => simpa using Lines.ofInput_line unended _
  | last given unended => simpa [Lines.ofInput] using Lines.ofInput_last given unended
  | nothing => rfl

/-- Nothing is left behind the end. -/
theorem Cut.eq_nil {whole left rest : Bytes} (cut : Cut whole left (none, rest)) :
    rest ++ left = [] := by
  cases cut
  rfl

/-- Less is left behind a line. -/
theorem Cut.length_lt {whole left line rest : Bytes} (cut : Cut whole left (some line, rest)) :
    (rest ++ left).length < (whole ++ left).length := by
  cases cut with
  | line unended =>
    simp only [List.length_append, List.length_cons]
    omega
  | last given unended => simpa using List.length_pos_iff.mpr given

end Repl

end LineShell
