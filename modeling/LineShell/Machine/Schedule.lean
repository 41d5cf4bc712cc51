import LineShell.Machine.Serve

/-! Schedules: every order in which the interpreter and all beside it can make their steps. -/

namespace LineShell

/-- A flow on its way, and the machine around it. -/
structure Scene (α : Type) where
  flow : Flow α
  machine : Machine

namespace Scene

variable {α : Type}

/-- One step: the interpreter is answered, or something beside it moves. -/
inductive Next : Scene α → Scene α → Prop
  | answered {call : Call} {next : call.Reply → Flow α} {machine after : Machine}
      {reply : call.Reply} (found : machine.answer call = some (reply, after)) :
      Next ⟨.ask call next, machine⟩ ⟨next reply, after⟩
  | moved {flow : Flow α} {machine after : Machine} (agent : Machine.Agent)
      (found : machine.step agent = some after) : Next ⟨flow, machine⟩ ⟨flow, after⟩

/-- Any number of steps. -/
inductive Reaches : Scene α → Scene α → Prop
  | refl (scene : Scene α) : Reaches scene scene
  | tail {first middle last : Scene α} (start : Reaches first middle) (step : Next middle last) :
      Reaches first last

/-- One step is a number of steps. -/
theorem Next.reaches {first last : Scene α} (step : Next first last) : Reaches first last :=
  .tail (.refl first) step

/-- Steps can follow one another. -/
theorem Reaches.trans {first middle last : Scene α} (start : Reaches first middle)
    (rest : Reaches middle last) : Reaches first last := by
  -- The further steps are put behind the first ones, one by one.
  induction rest with
  | refl => exact start
  | tail _ step ih => exact .tail ih step

/-- Any number of steps, with the requests that are answered on the way. -/
inductive Follows (first : Scene α) : List Event → Scene α → Prop
  | refl : Follows first [] first
  | answered {history : List Event} {call : Call} {next : call.Reply → Flow α}
      {machine after : Machine} {reply : call.Reply}
      (start : Follows first history ⟨.ask call next, machine⟩)
      (found : machine.answer call = some (reply, after)) :
      Follows first (history ++ [⟨call, reply⟩]) ⟨next reply, after⟩
  | moved {history : List Event} {flow : Flow α} {machine after : Machine}
      (start : Follows first history ⟨flow, machine⟩) (agent : Machine.Agent)
      (found : machine.step agent = some after) : Follows first history ⟨flow, after⟩

/-- What is reached is reached by the answers to some requests. -/
theorem reaches_iff {first last : Scene α} :
    Reaches first last ↔ ∃ history, Follows first history last := by
  constructor
  · -- Each step either adds its answer to the history or leaves the history as it is.
    intro reaches
    induction reaches with
    | refl => exact ⟨[], .refl⟩
    | tail _ step ih =>
      obtain ⟨history, follows⟩ := ih
      cases step with
      | answered found => exact ⟨_, .answered follows found⟩
      | moved agent found => exact ⟨_, .moved follows agent found⟩
  · rintro ⟨history, follows⟩
    induction follows with
    | refl => exact .refl first
    | answered _ found ih => exact .tail ih (.answered found)
    | moved _ agent found ih => exact .tail ih (.moved agent found)

/-- Makes steps in a given order: those of an agent, and those of the interpreter where none is
named. The history grows with the answers; there is no result if a step cannot be made. -/
def play (scene : Scene α) : List (Option Machine.Agent) → List Event →
    Option (List Event × Scene α)
  | [], history => some (history, scene)
  | some agent :: turns, history =>
    match scene.machine.step agent with
    | none => none
    | some after => play { scene with machine := after } turns history
  | none :: turns, history =>
    match scene.flow with
    | .done _ => none
    | .ask call next =>
      match scene.machine.answer call with
      | none => none
      | some (reply, after) => play ⟨next reply, after⟩ turns (history ++ [⟨call, reply⟩])

/-- The steps of a schedule that have been made, in the order of their turns: those of an agent, and
those of the interpreter where none is named. -/
inductive Plays (first : Scene α) : List (Option Machine.Agent) → List Event → Scene α → Prop
  | refl : Plays first [] [] first
  | answered {turns : List (Option Machine.Agent)} {history : List Event} {call : Call}
      {next : call.Reply → Flow α} {machine after : Machine} {reply : call.Reply}
      (start : Plays first turns history ⟨.ask call next, machine⟩)
      (found : machine.answer call = some (reply, after)) :
      Plays first (turns ++ [none]) (history ++ [⟨call, reply⟩]) ⟨next reply, after⟩
  | moved {turns : List (Option Machine.Agent)} {history : List Event} {flow : Flow α}
      {machine after : Machine} (start : Plays first turns history ⟨flow, machine⟩)
      (agent : Machine.Agent) (found : machine.step agent = some after) :
      Plays first (turns ++ [some agent]) history ⟨flow, after⟩

/-- What follows is made by some schedule. -/
theorem follows_iff {first scene : Scene α} {history : List Event} :
    Follows first history scene ↔ ∃ turns, Plays first turns history scene := by
  constructor
  · intro follows
    induction follows with
    | refl => exact ⟨[], .refl⟩
    | answered _ found ih =>
      obtain ⟨turns, plays⟩ := ih
      exact ⟨_, .answered plays found⟩
    | moved _ agent found ih =>
      obtain ⟨turns, plays⟩ := ih
      exact ⟨_, .moved plays agent found⟩
  · rintro ⟨turns, plays⟩
    induction plays with
    | refl => exact .refl
    | answered _ found ih => exact .answered ih found
    | moved _ agent found ih => exact .moved ih agent found

/-- Further turns are played behind those before them. -/
theorem Plays.play {first scene last : Scene α} {turns later : List (Option Machine.Agent)}
    {history all : List Event} (plays : Plays first turns history scene)
    (played : scene.play later history = some (all, last)) :
    Plays first (turns ++ later) all last := by
  -- Each turn goes over from those that are still to be played to those that have been.
  induction later generalizing turns scene history with
  | nil =>
    cases played
    rwa [List.append_nil]
  | cons turn later ih =>
    obtain ⟨flow, machine⟩ := scene
    rw [List.append_cons]
    cases turn with
    | some agent =>
      rw [Scene.play] at played
      split at played
      · cases played
      · rename_i after found
        exact ih (.moved plays agent found) played
    | none =>
      cases flow with
      | done result => cases played
      | ask call next =>
        simp only [Scene.play] at played
        split at played
        · cases played
        · rename_i reply after found
          exact ih (.answered plays found) played

/-- What comes of steps in a given order follows. -/
theorem Follows.play {first scene last : Scene α} {history later : List Event}
    (follows : Follows first history scene) {turns : List (Option Machine.Agent)}
    (played : scene.play turns history = some (later, last)) : Follows first later last := by
  obtain ⟨_, plays⟩ := follows_iff.mp follows
  exact follows_iff.mpr ⟨_, plays.play played⟩

/-- Every answer has been given at its own turn. -/
theorem Plays.split {first scene : Scene α} {turns : List (Option Machine.Agent)}
    {earlier later : List Event} {call : Call} {reply : call.Reply}
    (plays : Plays first turns (earlier ++ ⟨call, reply⟩ :: later) scene) :
    ∃ before behind next machine after, turns = before ++ none :: behind ∧
      Plays first before earlier ⟨.ask call next, machine⟩ ∧
      machine.answer call = some (reply, after) := by
  generalize whole : earlier ++ ⟨call, reply⟩ :: later = history at plays
  -- The answer is the last of all, or it lies within what came before the last.
  induction plays generalizing later with
  | refl => simp at whole
  | @answered turns history last next machine after given start found ih =>
    rcases List.eq_nil_or_concat later with rfl | ⟨others, event, rfl⟩
    · obtain ⟨rfl, same⟩ := List.append_inj' whole rfl
      cases same
      exact ⟨turns, [], next, machine, after, rfl, start, found⟩
    · rw [List.concat_eq_append, ← List.cons_append, ← List.append_assoc] at whole
      obtain ⟨rfl, same⟩ := List.append_inj' whole rfl
      obtain ⟨before, behind, split, rest⟩ := ih rfl
      obtain ⟨machine, after, rfl, rest⟩ := rest
      exact ⟨before, behind ++ [none], split, machine, after, by simp, rest⟩
  | @moved turns _ _ _ _ start agent found ih =>
    obtain ⟨before, behind, next, machine, after, rfl, rest⟩ := ih whole
    exact ⟨before, behind ++ [some agent], next, machine, after, by simp, rest⟩

/-- The turn of an agent is a number of steps. -/
theorem reaches_turn (flow : Flow α) (agent : Machine.Agent) (steps : Nat) (machine : Machine)
    (moved : Bool) :
    Reaches ⟨flow, machine⟩ ⟨flow, (Machine.turn agent steps (machine, moved)).1⟩ := by
  -- A turn ends early where the agent is stuck, or loads another program.
  induction steps generalizing machine moved with
  | zero => exact .refl _
  | succ steps ih =>
    unfold Machine.turn
    cases found : machine.step agent with
    | none => exact .refl _
    | some after =>
      have first : Reaches ⟨flow, machine⟩ ⟨flow, after⟩ := (Next.moved agent found).reaches
      by_cases loads : machine.loadsProgram agent = true
      · simpa [loads] using first
      · exact first.trans (by simpa [loads] using ih after true)

/-- Letting some agents act is a number of steps. -/
theorem reaches_stepAll (flow : Flow α) (agents : List Machine.Agent) (state : Machine × Bool) :
    Reaches ⟨flow, state.1⟩ ⟨flow, (Machine.stepAll agents state).1⟩ := by
  induction agents generalizing state with
  | nil => exact .refl _
  | cons agent rest ih =>
    exact (reaches_turn flow agent Machine.turnLength state.1 state.2).trans
      (ih (Machine.turn agent Machine.turnLength state))

/-- A round of everything beside the interpreter is a number of steps. -/
theorem reaches_round (flow : Flow α) {machine after : Machine}
    (found : machine.round = some after) : Reaches ⟨flow, machine⟩ ⟨flow, after⟩ := by
  have all := reaches_stepAll flow machine.agents (machine, false)
  unfold Machine.round at found
  split at found
  · rename_i stepped
    rw [stepped] at all
    cases found
    exact all
  · rename_i stepped
    rw [stepped] at all
    -- Nothing else has moved, so the clock does.
    exact all.trans (Next.moved .clock found).reaches

end Scene

end LineShell
