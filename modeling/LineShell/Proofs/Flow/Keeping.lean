import LineShell.Flow

/-! Keeping: flows that move along a relation of states, event by event, whatever they are
answered. -/

namespace LineShell.Flow

variable {α β σ : Type} {step : σ → Event → σ → Prop}

/-- Whether a flow keeps to the steps of a state, whatever it is answered, and leaves what it
should. -/
def Keeps (step : σ → Event → σ → Prop) (post : σ → α → Prop) : σ → Flow α → Prop
  | state, .done result => post state result
  | state, .ask call next =>
    ∀ reply, ∃ after, step state ⟨call, reply⟩ after ∧ Keeps step post after (next reply)

/-- A flow that is followed by another keeps to its steps if the other goes on with them. -/
theorem keeps_bind {flow : Flow α} {next : α → Flow β} {post : σ → β → Prop} {state : σ} :
    Keeps step post state (flow >>= next) ↔
      Keeps step (fun left result => Keeps step post left (next result)) state flow := by
  -- The requests of the first flow are those of the whole, up to its end.
  induction flow generalizing state with
  | done result => rfl
  | ask call rest ih => simp only [ask_bind, Keeps, ih]

/-- A flow that leaves what it should leaves anything that follows from it. -/
theorem Keeps.mono {post other : σ → α → Prop} {state : σ} {flow : Flow α}
    (keeps : Keeps step post state flow)
    (follows : ∀ left result, post left result → other left result) :
    Keeps step other state flow := by
  -- The same steps lead through both, so only the results differ.
  induction flow generalizing state with
  | done result => exact follows _ _ keeps
  | ask call rest ih =>
    intro reply
    obtain ⟨after, taken, keeps⟩ := keeps reply
    exact ⟨after, taken, ih reply keeps⟩

/-- Whatever is left of a flow that keeps to other steps is left as well. -/
theorem Keeps.strengthen {τ : Type} {other : τ → Event → τ → Prop} {post : σ → α → Prop}
    {further : τ → α → Prop} {fact : α → Prop} {state : σ} {beside : τ} {flow : Flow α}
    (keeps : Keeps step post state flow) (others : Keeps other further beside flow)
    (follows : ∀ left result, further left result → fact result) :
    Keeps step (fun left result => post left result ∧ fact result) state flow := by
  -- Both ways of keeping walk through the flow side by side.
  induction flow generalizing state beside with
  | done result => exact ⟨keeps, follows _ _ others⟩
  | ask call rest ih =>
    intro reply
    obtain ⟨after, taken, keeps⟩ := keeps reply
    obtain ⟨_, _, others⟩ := others reply
    exact ⟨after, taken, ih reply keeps others⟩

/-- The steps from one state to another, along some events. -/
inductive Leads (step : σ → Event → σ → Prop) (first : σ) : List Event → σ → Prop
  | refl : Leads step first [] first
  | append {events : List Event} {event : Event} {middle last : σ}
      (start : Leads step first events middle) (taken : step middle event last) :
      Leads step first (events ++ [event]) last

/-- Steps can follow one another. -/
theorem Leads.trans {first middle last : σ} {events later : List Event}
    (start : Leads step first events middle) (rest : Leads step middle later last) :
    Leads step first (events ++ later) last := by
  induction rest with
  | refl => rwa [List.append_nil]
  | append _ taken ih =>
    rw [← List.append_assoc]
    exact .append ih taken

/-- One more step comes before those that follow it. -/
theorem Leads.cons {first middle last : σ} {event : Event} {events : List Event}
    (taken : step first event middle) (rest : Leads step middle events last) :
    Leads step first (event :: events) last :=
  (Leads.append .refl taken).trans rest

end LineShell.Flow
