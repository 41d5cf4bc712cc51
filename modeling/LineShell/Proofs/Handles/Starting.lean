import LineShell.Pipeline.Launch
import LineShell.Proofs.Handles.Owning
import LineShell.Proofs.Search.Straying

/-! Starting: what becomes of a stage that is launched, and of the handles that it owns, in every
order of steps. -/

namespace LineShell

variable {α : Type}

namespace Machine

variable {machine : Machine} {owned : List Handle}

/-- A pipe that nobody else can write is read to its end, unless the interpreter owns a way to
write it. -/
theorem Owns.isSome_readHandle (owns : machine.Owns owned) {pipe : Nat}
    (unwritten : hasWriter { machine with held := owned ++ machine.kept } pipe = false)
    (limit : Nat) : (machine.readHandle (.reader pipe) limit).isSome := by
  -- What is held is what is owned or kept, in whatever order.
  have same : machine.held.any (·.writes pipe) = (owned ++ machine.kept).any (·.writes pipe) := by
    rw [Bool.eq_iff_iff, List.any_eq_true, List.any_eq_true]
    simp only [owns.mem_iff]
  have closed : machine.hasWriter pipe = false := by
    rw [← unwritten]
    simp only [hasWriter, anyHandle, same]
  unfold readHandle
  dsimp only
  split
  · rfl
  · split
    · -- An empty pipe keeps its reader waiting only as long as it can be written.
      rw [closed]
      rfl
    · rfl

end Machine

namespace Scene

variable {result : α} {machine : Machine} {history : List Event} {scene : Scene α}
  {left owned : List Handle}

/-- The request that a handle is given up by, answered. -/
def closing (handle : Handle) : Event := ⟨.close handle, ()⟩

/-- Handles that a flow ends with giving up are given up one after the other, and nothing else is
given up. -/
theorem Follows.releases
    (follows : Follows ⟨Flow.release left >>= fun _ => .done result, machine⟩ history scene)
    (owns : machine.Owns (left ++ owned)) :
    ∃ given rest, left = given ++ rest ∧ history = given.map closing ∧
      scene.flow = (Flow.release rest >>= fun _ => .done result) ∧
      scene.machine.Owns (rest ++ owned) := by
  -- After any number of steps some of the handles are given up, and the flow goes on with the rest.
  induction follows with
  | refl => exact ⟨[], left, rfl, rfl, rfl, owns⟩
  | @answered history call next asked after reply start found ih =>
    obtain ⟨given, rest, rfl, rfl, asking, owns⟩ := ih
    cases rest with
    | nil => cases asking
    | cons handle rest =>
      cases asking
      cases found
      exact ⟨given ++ [handle], rest, by simp, by simp [closing], rfl, owns.closed⟩
  | moved _ agent found ih =>
    -- What goes on beside the interpreter leaves it what it owns.
    obtain ⟨given, rest, split, told, asking, owns⟩ := ih
    exact ⟨given, rest, split, told, asking, owns.moved found⟩

/-- Giving handles up takes one request for each, which is answered at once; in the end they are
owned no more. -/
theorem Follows.releases_all
    (follows : Follows ⟨Flow.release left >>= fun _ => .done result, machine⟩ history scene)
    (owns : machine.Owns (left ++ owned)) :
    history.length ≤ left.length ∧
    (∀ call next, scene.flow = .ask call next → (scene.machine.answer call).isSome) ∧
    ∀ last, scene.flow = .done last →
      last = result ∧ history = left.map closing ∧ scene.machine.Owns owned := by
  obtain ⟨given, rest, rfl, rfl, asking, owns⟩ := follows.releases owns
  -- As long as there is a rest its first handle is asked for, and without one the flow is over.
  refine ⟨by simp, fun call next asked => ?_, fun last ended => ?_⟩
  · rw [asking] at asked
    cases rest with
    | nil => cases asked
    | cons handle rest =>
      cases asked
      rfl
  · rw [asking] at ended
    cases rest with
    | nil =>
      cases ended
      exact ⟨rfl, by simp, owns⟩
    | cons handle rest => cases ended

/-- As long as nothing is answered the flow stays as it is. -/
theorem Follows.flow_eq {first : Scene α} (follows : Follows first [] scene) :
    scene.flow = first.flow := by
  generalize none : [] = history at follows
  induction follows with
  | refl => rfl
  | answered => simp at none
  | moved _ _ _ ih => exact ih none

/-- As long as nothing is answered the interpreter owns what it has owned. -/
theorem Follows.owns {first : Scene α} (follows : Follows first [] scene)
    (owns : first.machine.Owns owned) : scene.machine.Owns owned := by
  generalize none : [] = history at follows
  induction follows with
  | refl => exact owns
  | answered => simp at none
  | moved _ agent found ih => exact (ih none).moved found

/-- A flow waits for the answer to its first request, or goes on with what that was. -/
theorem Follows.cases_of_ask {call : Call} {next : call.Reply → Flow α}
    (follows : Follows ⟨.ask call next, machine⟩ history scene) :
    history = [] ∨ ∃ asked reply after later, history = ⟨call, reply⟩ :: later ∧
      Follows ⟨.ask call next, machine⟩ [] ⟨.ask call next, asked⟩ ∧
      asked.answer call = some (reply, after) ∧ Follows ⟨next reply, after⟩ later scene := by
  cases history with
  | nil => exact .inl rfl
  | cons event later =>
    obtain ⟨first, reply⟩ := event
    have first_answered :
        Follows ⟨.ask call next, machine⟩ ([] ++ ⟨first, reply⟩ :: later) scene := follows
    -- The first event is the answer to the request that the flow has been waiting with.
    obtain ⟨rest, asked, after, before, answered, behind⟩ := first_answered.split
    cases before.flow_eq
    exact .inr ⟨asked, reply, after, later, rfl, before, answered, behind⟩

end Scene

namespace Stage

/-- How the launch of a stage goes out, by the machine in which its program is asked for: the
request that is made, if any, what comes of it, the handles that the interpreter keeps, and the
machine thereafter. -/
inductive Outcome (stage : Stage) (asked : Machine) :
    List Event → Except LineError Launched → List Handle → Machine → Prop
  /-- Without a name nothing is started, and the error tells the path of the program. -/
  | unnamed (empty : stage.arguments = []) :
    Outcome stage asked [] (.error (.spawn stage.program .noArguments)) [] asked
  /-- Nor is it with a text that the system cannot take, whether there is a program or not. -/
  | unspeakable {name : String} {rest : List String} (named : stage.arguments = name :: rest)
    (held : ∃ text ∈ stage.program :: stage.arguments, '\x00' ∈ text.toList) :
    Outcome stage asked [⟨.spawn stage.command, .error .nulInArgument⟩]
      (.error (.spawn name .nulInArgument)) [] asked
  | refused {name : String} {rest : List String} {number : Errno}
    (named : stage.arguments = name :: rest)
    (clear : ∀ text ∈ stage.program :: stage.arguments, '\x00' ∉ text.toList)
    (refused : asked.loadNamed stage.program stage.arguments = .error number) :
    Outcome stage asked [⟨.spawn stage.command, .error (.system number)⟩]
      (.error (.spawn name (.system number))) [] asked
  /-- The new process executes a file with the arguments as they were typed, and has the streams of
  the stage; those that the stage does not name are the interpreter's. -/
  | started {name : String} {rest : List String} {path : String} {behaviour : Behaviour}
    (named : stage.arguments = name :: rest)
    (clear : ∀ text ∈ stage.program :: stage.arguments, '\x00' ∉ text.toList)
    (executed : asked.executed? stage.command = some path)
    (loaded : asked.attempt stage.command path = .ok behaviour) :
    Outcome stage asked [⟨.spawn stage.command, .ok (asked.processes.length + 1)⟩]
      (.ok ⟨name, asked.processes.length + 1, stage.keptWriter⟩) stage.keptWriter.toList
      { asked with processes := asked.processes ++ [{
          handles := [(0, stage.stdin.handle?.getD asked.stdin),
            (1, stage.stdout.handle?.getD asked.stdout),
            (2, stage.stderr.handle?.getD asked.stderr)]
          directory := asked.directory
          progress := .running behaviour }] }

/-- What is kept is what goes with the process. -/
theorem Outcome.kept_eq {stage : Stage} {asked started : Machine} {starts : List Event}
    {launched : Launched} {kept : List Handle}
    (outcome : stage.Outcome asked starts (.ok launched) kept started) :
    kept = launched.writer.toList := by
  generalize same : Except.ok launched = result at outcome
  cases outcome with
  | started =>
    cases same
    rfl
  | _ => cases same

/-- What is kept is one of the handles of the stage. -/
theorem mem_handles_of_keptWriter {stage : Stage} {writer : Handle}
    (kept : stage.keptWriter = some writer) : writer ∈ stage.handles := by
  have written {sink : Sink} (piped : sink.pipe? = some writer) :
      writer ∈ sink.handle?.toList := by
    cases sink <;> simp_all [Sink.pipe?, Sink.handle?]
  -- The writer for the errors is kept, if there is one, and else that for the output.
  unfold keptWriter at kept
  cases errors : stage.stderr.pipe? with
  | some other =>
    rw [errors] at kept
    cases kept
    exact List.mem_append_right _ (written errors)
  | none =>
    rw [errors] at kept
    exact List.mem_append_left _ (List.mem_append_right _ (written kept))

/-- A stage gives up every handle once, but for the one that is kept. -/
theorem perm_released (stage : Stage) :
    (stage.released ++ stage.keptWriter.toList).Perm stage.handles := by
  unfold released
  cases kept : stage.keptWriter with
  | none => simp
  | some writer =>
    -- It is taken out once, and is put back behind the others.
    have there := mem_handles_of_keptWriter kept
    exact (List.perm_append_singleton _ _).trans (List.perm_cons_erase there).symm

/-- No stage has more than three handles. -/
theorem length_handles_le (stage : Stage) : stage.handles.length ≤ 3 := by
  -- Each stream has one handle at most.
  have single (handle? : Option Handle) : handle?.toList.length ≤ 1 := by
    cases handle? <;> simp
  have input := single stage.stdin.handle?
  have output := single stage.stdout.handle?
  have errors := single stage.stderr.handle?
  simp only [handles, List.length_append]
  omega

/-- What the system answers when the program of a stage is asked for is how its launch goes out. -/
theorem outcome_of_start {stage : Stage} {name : String} {rest : List String}
    (named : stage.arguments = name :: rest) {asked after : Machine} {reply : Except IoError Nat}
    (started : asked.start stage.command = (reply, after)) :
    (∃ cause, reply = .error cause ∧
      stage.Outcome asked [⟨.spawn stage.command, reply⟩] (.error (.spawn name cause)) [] after) ∨
    ∃ process, reply = .ok process ∧
      stage.Outcome asked [⟨.spawn stage.command, reply⟩]
        (.ok ⟨name, process, stage.keptWriter⟩) stage.keptWriter.toList after := by
  have spelled : stage.command.holdsNul = true ↔
      ∃ text ∈ stage.program :: stage.arguments, '\x00' ∈ text.toList := by
    simp [Command.holdsNul, command]
  -- The system looks at the texts first, and then for a file that it can execute.
  unfold Machine.start at started
  split at started
  · rename_i nul
    cases started
    exact .inl ⟨_, rfl, .unspeakable named (spelled.mp nul)⟩
  · rename_i clear
    have clear : ∀ text ∈ stage.program :: stage.arguments, '\x00' ∉ text.toList :=
      fun text member held => clear (spelled.mpr ⟨text, member, held⟩)
    split at started
    · rename_i number refused
      cases started
      exact .inl ⟨_, rfl, .refused named clear refused⟩
    · rename_i behaviour loaded
      cases started
      obtain ⟨path, executed, tried⟩ := Machine.executed?_of_loadNamed loaded
      exact .inr ⟨_, rfl, .started named clear executed tried⟩

/-- Once it is settled how a launch goes out, giving up handles is all that is left of it. -/
theorem accounted_of_outcome {stage : Stage} {machine asked started : Machine}
    {others given kept : List Handle} {settled : Except LineError Launched}
    {starts later : List Event} {scene : Scene (Except LineError Launched)}
    (before : Scene.Follows ⟨stage.launch, machine⟩ [] ⟨stage.launch, asked⟩)
    (outcome : stage.Outcome asked starts settled kept started) (few : starts.length ≤ 1)
    (reached : Scene.Follows ⟨stage.launch, machine⟩ starts
      ⟨Flow.release given >>= fun _ => .done settled, started⟩)
    (whole : (given ++ kept).Perm stage.handles)
    (owns : started.Owns (given ++ (kept ++ others)))
    (follows : Scene.Follows ⟨Flow.release given >>= fun _ => .done settled, started⟩ later
      scene) :
    (starts ++ later).length ≤ 4 ∧
    (∀ call next, scene.flow = .ask call next → (scene.machine.answer call).isSome) ∧
    ∀ result, scene.flow = .done result → ∃ asked begun kept started flow given,
      Scene.Follows ⟨stage.launch, machine⟩ [] ⟨stage.launch, asked⟩ ∧
      stage.Outcome asked begun result kept started ∧
      Scene.Follows ⟨stage.launch, machine⟩ begun ⟨flow, started⟩ ∧
      Scene.Follows ⟨flow, started⟩ (given.map Scene.closing) scene ∧
      starts ++ later = begun ++ given.map Scene.closing ∧
      (given ++ kept).Perm stage.handles ∧ scene.machine.Owns (kept ++ others) ∧
      ∀ pipe limit, Machine.hasWriter
        { scene.machine with held := kept ++ others ++ scene.machine.kept } pipe = false →
          (scene.machine.readHandle (.reader pipe) limit).isSome := by
  obtain ⟨short, goes_on, ends⟩ := follows.releases_all owns
  -- What is given up is part of what the stage has, so it takes three requests at most.
  have all : given.length + kept.length = stage.handles.length := by
    rw [← List.length_append]
    exact whole.length_eq
  have most := stage.length_handles_le
  refine ⟨by rw [List.length_append]; omega, goes_on, fun result ended => ?_⟩
  obtain ⟨rfl, told, owned⟩ := ends result ended
  have last : Scene.Follows ⟨Flow.release given >>= fun _ => .done result, started⟩
      (given.map Scene.closing) scene := told ▸ follows
  exact ⟨asked, starts, kept, started, _, given, before, outcome, reached, last, by rw [told],
    whole, owned, fun _ limit unwritten => owned.isSome_readHandle unwritten limit⟩

/-- Launching a stage takes four requests at most, each of which is answered at once, whatever goes
on beside the interpreter. What comes of it depends on what the stage asks for and on the machine
in which it does. In the end every handle of the stage has been given up once, but for the writer
that is kept of a stage that has been started; and a pipe that nobody else can write has come to its
end. -/
theorem launch_accounted {stage : Stage} {machine : Machine} {others : List Handle}
    (owns : machine.Owns (stage.handles ++ others)) {history : List Event}
    {scene : Scene (Except LineError Launched)}
    (follows : Scene.Follows ⟨stage.launch, machine⟩ history scene) :
    history.length ≤ 4 ∧
    (∀ call next, scene.flow = .ask call next → (scene.machine.answer call).isSome) ∧
    ∀ result, scene.flow = .done result → ∃ asked starts kept started flow given,
      Scene.Follows ⟨stage.launch, machine⟩ [] ⟨stage.launch, asked⟩ ∧
      stage.Outcome asked starts result kept started ∧
      Scene.Follows ⟨stage.launch, machine⟩ starts ⟨flow, started⟩ ∧
      Scene.Follows ⟨flow, started⟩ (given.map Scene.closing) scene ∧
      history = starts ++ given.map Scene.closing ∧ (given ++ kept).Perm stage.handles ∧
      scene.machine.Owns (kept ++ others) ∧
      ∀ pipe limit, Machine.hasWriter
        { scene.machine with held := kept ++ others ++ scene.machine.kept } pipe = false →
          (scene.machine.readHandle (.reader pipe) limit).isSome := by
  cases named : stage.arguments with
  | nil =>
    -- Nothing is asked for, and every handle is given up.
    have launch : stage.launch = (Flow.release stage.handles >>= fun _ =>
        .done (.error (.spawn stage.program .noArguments))) := by
      rw [Stage.launch, named]
      rfl
    have whole : (stage.handles ++ []).Perm stage.handles := by rw [List.append_nil]
    rw [launch] at follows
    exact accounted_of_outcome .refl (.unnamed named) (Nat.zero_le 1) (launch ▸ .refl) whole owns
      follows
  | cons name rest =>
    have launch := Stage.launch_eq named
    rw [launch] at follows
    rcases follows.cases_of_ask with
      rfl | ⟨asked, reply, after, later, rfl, before, answered, behind⟩
    · -- The program has not been asked for yet, and the answer is there at any time.
      have asking := follows.flow_eq
      refine ⟨by simp, fun call next asked => ?_, fun result ended => ?_⟩
      · cases asking.symm.trans asked
        rfl
      · cases asking.symm.trans ended
    · have owned : after.Owns (stage.handles ++ others) :=
        (before.owns owns).onward (Machine.onward_of_answered rfl answered)
      have reached := Scene.Follows.answered before answered
      rw [← launch] at before reached
      -- The answer tells how the launch goes out.
      rcases outcome_of_start named (Option.some.inj answered) with
        ⟨cause, rfl, outcome⟩ | ⟨process, rfl, outcome⟩
      · have whole : (stage.handles ++ []).Perm stage.handles := by rw [List.append_nil]
        exact accounted_of_outcome before outcome (Nat.le_refl 1) reached whole owned behind
      · have whole := stage.perm_released
        have parted : after.Owns (stage.released ++ (stage.keptWriter.toList ++ others)) := by
          rw [← List.append_assoc]
          exact owned.trans ((whole.symm.append_right others).append_right after.kept)
        exact accounted_of_outcome before outcome (Nat.le_refl 1) reached whole parted behind

/-- A stage that writes one pipe, and its errors to another. -/
def twoPiped : Stage where
  program := "/tool"
  arguments := ["tool", "x"]
  stdout := .pipe (.writer 0)
  stderr := .pipe (.writer 1)

/-- A machine with the two pipes and a program that ends at once. -/
def twoPipes : Machine where
  files := {
    names := [([], 0), (["tool"], 1)]
    files := [{ node := .directory 0o755 }, { node := .regular 0o755 [] }] }
  directory := []
  environment := []
  resolver := Search.resolve ""
  image := fun _ => some fun _ _ => .exit 0
  pipes := [{}, {}]
  held := [.writer 0, .writer 1, .reader 0]

/-- What has been launched by a flow that is at its end. -/
def launched? : Flow (Except LineError Launched) → Option Launched
  | .done (.ok launched) => some launched
  | .done (.error _) | .ask .. => none

/-- The program is started, and of the two writers the one for the errors is kept. -/
theorem launch_accounted_twoPiped : ∃ history scene,
    (⟨twoPiped.launch, twoPipes⟩ : Scene (Except LineError Launched)).play [none, none] [] =
      some (history, scene) ∧
    scene.flow = .done (.ok ⟨"tool", 1, some (.writer 1)⟩) ∧
    scene.machine.Owns [.writer 1, .reader 0] := by
  have owns : twoPipes.Owns (twoPiped.handles ++ [.reader 0]) := List.Perm.refl _
  -- Two answers lead to the end of the launch.
  have played : ((⟨twoPiped.launch, twoPipes⟩ : Scene (Except LineError Launched)).play
      [none, none] []).map (launched? ·.2.flow) = some (some ⟨"tool", 1, some (.writer 1)⟩) := by
    decide +kernel
  obtain ⟨⟨history, flow, last⟩, reached, found⟩ := Option.map_eq_some_iff.mp played
  obtain ⟨-, -, ends⟩ := launch_accounted owns (.play .refl reached)
  unfold launched? at found
  dsimp only at found
  split at found
  · cases found
    obtain ⟨_, _, kept, _, _, _, -, outcome, -, -, -, -, owned, -⟩ := ends _ rfl
    rw [outcome.kept_eq] at owned
    exact ⟨history, _, reached, rfl, owned⟩
  · cases found
  · cases found

end Stage

end LineShell
