import LineShell.Machine.Schedule
import LineShell.Proofs.Flow.Keeping

/-! Unfolding: what is left of a flow behind some answers, and which requests it can make. -/

namespace LineShell

namespace Flow

variable {α β σ : Type}

/-- What is left of a flow when its first requests have got the answers of some events. -/
inductive Unfolds : Flow α → List Event → Flow α → Prop
  | refl (flow : Flow α) : Unfolds flow [] flow
  | answered {call : Call} {next : call.Reply → Flow α} {reply : call.Reply} {events : List Event}
      {last : Flow α} (rest : Unfolds (next reply) events last) :
      Unfolds (.ask call next) (⟨call, reply⟩ :: events) last

/-- One more answer comes behind those before it. -/
theorem Unfolds.append {flow : Flow α} {events : List Event} {call : Call}
    {next : call.Reply → Flow α} (unfolds : flow.Unfolds events (.ask call next))
    (reply : call.Reply) : flow.Unfolds (events ++ [⟨call, reply⟩]) (next reply) := by
  generalize same : Flow.ask call next = middle at unfolds
  induction unfolds with
  | refl => exact same ▸ .answered (.refl _)
  | answered _ ih => exact .answered (ih same)

/-- Whoever carries a flow out unfolds it to its result. -/
theorem unfolds_events (handler : Handler σ) (flow : Flow α) (state : σ) :
    flow.Unfolds (flow.events handler state) (.done (flow.run handler state).1) := by
  induction flow generalizing state with
  | done result => exact .refl _
  | ask call next ih => exact .answered (ih _ _)

/-- What is left of what is left. -/
theorem Unfolds.trans {flow middle last : Flow α} {events later : List Event}
    (start : flow.Unfolds events middle) (rest : middle.Unfolds later last) :
    flow.Unfolds (events ++ later) last := by
  induction start with
  | refl => exact rest
  | answered _ ih => exact .answered (ih rest)

/-- What leads to the end of two flows in a row leads to the end of the first, and from there to
that of the second. -/
theorem Unfolds.of_bind {flow : Flow α} {next : α → Flow β} {events : List Event} {result : β}
    (unfolds : (flow >>= next).Unfolds events (.done result)) :
    ∃ first second middle, events = first ++ second ∧ flow.Unfolds first (.done middle) ∧
      (next middle).Unfolds second (.done result) := by
  induction flow generalizing events with
  | done middle => exact ⟨[], events, middle, rfl, .refl _, unfolds⟩
  | ask call rest ih =>
    cases unfolds with
    | @answered _ _ reply events _ others =>
      obtain ⟨first, second, middle, rfl, start, rest⟩ := ih reply others
      exact ⟨_, second, middle, rfl, .answered start, rest⟩

/-- A flow that keeps to some steps still does behind some answers. -/
theorem Unfolds.keeps {flow last : Flow α} {events : List Event}
    (unfolds : flow.Unfolds events last) {step : σ → Event → σ → Prop} {post : σ → α → Prop}
    {start : σ} (keeps : flow.Keeps step post start) :
    ∃ state, Leads step start events state ∧ last.Keeps step post state := by
  induction unfolds generalizing start with
  | refl => exact ⟨start, .refl, keeps⟩
  | @answered call next reply events last _ ih =>
    obtain ⟨middle, taken, keeps⟩ := keeps reply
    obtain ⟨state, leads, keeps⟩ := ih keeps
    exact ⟨state, .cons taken leads, keeps⟩

/-- Whether a flow makes only requests of a kind, whatever it is answered. -/
def Asks (kind : Call → Prop) : Flow α → Prop
  | .done _ => True
  | .ask call next => kind call ∧ ∀ reply, Asks kind (next reply)

/-- A flow that is followed by another asks what both of them ask. -/
theorem Asks.bind {kind : Call → Prop} {flow : Flow α} {next : α → Flow β} (first : flow.Asks kind)
    (rest : ∀ result, (next result).Asks kind) : (flow >>= next).Asks kind := by
  induction flow with
  | done result => exact rest result
  | ask call others ih => exact ⟨first.1, fun reply => ih reply (first.2 reply)⟩

/-- A flow that asks for things of one kind asks for things of any wider kind. -/
theorem Asks.mono {kind wider : Call → Prop} {flow : Flow α} (asks : flow.Asks kind)
    (within : ∀ call, kind call → wider call) : flow.Asks wider := by
  induction flow with
  | done result => exact trivial
  | ask call next ih => exact ⟨within call asks.1, fun reply => ih reply (asks.2 reply)⟩

/-- Everything that has been answered is of the kind that a flow asks for. -/
theorem Asks.of_unfolds {kind : Call → Prop} {flow last : Flow α} {events : List Event}
    (asks : flow.Asks kind) (unfolds : flow.Unfolds events last) :
    ∀ event ∈ events, kind event.call := by
  induction unfolds with
  | refl => exact nofun
  | answered _ ih => exact List.forall_mem_cons.mpr ⟨asks.1, ih (asks.2 _)⟩

/-- Every event of a flow is of the kind that it asks for. -/
theorem Asks.of_mem_events {kind : Call → Prop} {flow : Flow α} (asks : flow.Asks kind)
    {handler : Handler σ} {state : σ} {event : Event} (seen : event ∈ flow.events handler state) :
    kind event.call :=
  asks.of_unfolds (unfolds_events handler flow state) event seen

/-- Giving handles up asks for nothing else. -/
theorem asks_release {kind : Call → Prop} (closing : ∀ handle, kind (.close handle))
    (handles : List Handle) : (release handles).Asks kind := by
  induction handles with
  | nil => exact trivial
  | cons handle rest ih => exact ⟨closing handle, fun _ => ih⟩

end Flow

/-- Answers with given events, as long as they fit, and refuses everything else. -/
def Handler.replay : Handler (List Event)
  | call, [] => (Machine.refuse call, [])
  | call, event :: rest =>
    if same : event.call = call then (same ▸ event.reply, rest) else (Machine.refuse call, rest)

/-- With the events that lead to the end of a flow, it is carried out to that end. -/
theorem Flow.Unfolds.replayed {α : Type} {flow : Flow α} {events : List Event} {result : α}
    (unfolds : flow.Unfolds events (.done result)) :
    (flow.run Handler.replay events).1 = result ∧
      flow.events Handler.replay events = events := by
  generalize ended : Flow.done result = last at unfolds
  induction unfolds with
  | refl =>
    subst ended
    exact ⟨rfl, rfl⟩
  | @answered call next reply events last _ ih =>
    have fits : Handler.replay call (⟨call, reply⟩ :: events) = (reply, events) := dif_pos rfl
    rw [Flow.run_ask, Flow.events_ask, fits]
    exact ⟨(ih ended).1, congrArg _ (ih ended).2⟩

/-- The requests on the way of a schedule unfold its flow. -/
theorem Scene.Follows.unfolds {α : Type} {first scene : Scene α} {history : List Event}
    (follows : Follows first history scene) : first.flow.Unfolds history scene.flow := by
  induction follows with
  | refl => exact .refl _
  | answered _ _ ih => exact ih.append _
  | moved _ _ _ ih => exact ih

end LineShell
