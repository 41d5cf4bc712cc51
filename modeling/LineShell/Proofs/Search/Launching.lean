import LineShell.Pipeline.Plan
import LineShell.Proofs.Machine.Following
import LineShell.Proofs.Search.Straying
import LineShell.Session

/-! Launching: what is started has been found, and whether it is what is executed. -/

namespace LineShell

/-- What becomes of the program that was found last, by an event. Nothing else is started. -/
inductive Flow.Traces : Option String → Event → Option String → Prop
  | lookup {last : Option String} {name : String} {reply : Except LookupError String} :
      Traces last ⟨.lookup name, reply⟩ reply.toOption
  | start {command : Command} {reply : Except IoError Nat} :
      Traces (some command.program) ⟨.spawn command, reply⟩ (some command.program)
  | other {last : Option String} {event : Event} (known : event.name? = none)
      (unstarted : event.start? = none) : Traces last event last

variable {α : Type}

namespace Flow

/-- Giving up handles does not change what was found last. -/
theorem traces_release {post : Option String → α → Prop} {last : Option String}
    {next : Unit → Flow α} (handles : List Handle) (left : Keeps Traces post last (next ())) :
    Keeps Traces post last (release handles >>= next) := by
  induction handles with
  | nil => exact left
  | cons handle rest ih => exact fun _ => ⟨last, .other rfl rfl, ih⟩

/-- What was found last is what is found in the last look-up of some events. -/
theorem Leads.found {history : List Event} {program : String}
    (leads : Leads Traces none history (some program)) :
    ∃ earlier name later, history = earlier ++ ⟨.lookup name, .ok program⟩ :: later ∧
      later.filterMap Event.name? = [] := by
  generalize last : some program = found at leads
  -- The last event is the look-up itself, or it is none and leaves what was found as it is.
  induction leads with
  | refl => cases last
  | @append events event middle found start taken ih =>
    have onward (same : some program = middle) (known : event.name? = none) :
        ∃ earlier name later, events ++ [event] =
          earlier ++ ⟨.lookup name, .ok program⟩ :: later ∧ later.filterMap Event.name? = [] := by
      obtain ⟨earlier, name, later, rfl, none⟩ := ih same
      exact ⟨earlier, name, later ++ [event], by simp, by simp [none, known]⟩
    cases taken with
    | @lookup _ name reply =>
      cases reply with
      | error error => cases last
      | ok program =>
        cases last
        exact ⟨events, name, [], rfl, rfl⟩
    | start => exact onward last rfl
    | other known => exact onward last known

end Flow

namespace Builder

open LineShell.Flow (Keeps Traces)

/-- Whether the stage that a step gives is to run what was found last. -/
def Runs (last : Option String) (step : Step) : Prop :=
  ∀ stage, step.1 = .ok stage → last = some stage.program

/-- A step that fails gives no stage. -/
theorem traces_fail (error : LineError) (owned : List Handle) (rest : List Token)
    (last : Option String) : Keeps Traces Runs last (fail error owned rest) := by
  refine Flow.traces_release owned ?_
  intro stage built
  cases built

/-- Completing a stage leaves it its program. -/
theorem traces_complete (stage : Stage) (tokens : List Token) :
    Keeps Traces Runs (some stage.program) (complete stage tokens) := by
  -- Whatever is added to a stage, its program is not changed.
  induction stage, tokens using complete.induct with
  | case1 stage =>
    rintro _ ⟨⟩
    rfl
  | case2 stage word rest ih =>
    rw [complete]
    exact ih
  | case3 stage operator =>
    rw [complete]
    exact traces_fail ..
  | case4 stage path rest ih =>
    rw [complete_input]
    rintro (cause | handle)
    · exact ⟨_, .other rfl rfl, traces_fail ..⟩
    · exact ⟨_, .other rfl rfl, Flow.traces_release _ (ih handle)⟩
  | case5 stage path rest ih =>
    rw [complete_output]
    rintro (cause | handle)
    · exact ⟨_, .other rfl rfl, traces_fail ..⟩
    · exact ⟨_, .other rfl rfl, Flow.traces_release _ (ih handle)⟩
  | case6 stage command rest =>
    rw [complete_pipe]
    rintro (cause | ⟨reader, writer⟩)
    · exact ⟨_, .other rfl rfl, traces_fail ..⟩
    · refine ⟨_, .other rfl rfl, Flow.traces_release _ ?_⟩
      rintro _ ⟨⟩
      rfl

/-- A stage that is built is to run what has been found for its command. -/
theorem traces_build (pending : Pending) (tokens : List Token) (last : Option String) :
    Keeps Traces Runs last (build pending tokens) := by
  rw [build_eq]
  -- What is found now replaces what was found before.
  rintro (error | program)
  · exact ⟨_, .lookup, traces_fail ..⟩
  · exact ⟨_, .lookup, traces_complete
      { program, arguments := [pending.command.text], stdin := pending.stdin } tokens⟩

end Builder

namespace Run

open LineShell.Flow (Keeps Traces)

/-- Starting a stage starts its program. -/
theorem traces_launch (stage : Stage) :
    Keeps Traces (fun _ _ => True) (some stage.program) stage.launch := by
  -- A stage without a name is never started.
  cases named : stage.arguments with
  | nil =>
    rw [Stage.launch, named]
    exact Flow.traces_release _ trivial
  | cons name rest =>
    rw [Stage.launch_eq named]
    rintro (cause | process)
    · exact ⟨_, @Traces.start stage.command _, Flow.traces_release _ trivial⟩
    · exact ⟨_, @Traces.start stage.command _, Flow.traces_release _ trivial⟩

/-- Attending to a process starts nothing. -/
theorem traces_attend (run : Run) (number : Nat) (terminal : Bool) (launched : Launched)
    (last : Option String) :
    Keeps Traces (fun _ _ => True) last (run.attend number terminal launched) := by
  cases terminal with
  | true => exact fun reply => ⟨last, .other rfl rfl, Flow.traces_release _ trivial⟩
  | false => exact fun reply => ⟨last, .other rfl rfl, trivial⟩

/-- The stages of a line run what has been found for their commands. -/
theorem traces_stages (bound number : Nat) (builder : Builder) (run : Run)
    (last : Option String) :
    Keeps Traces (fun _ _ => True) last (stages bound number builder run) := by
  -- A run that is given up starts nothing more.
  have gives (run : Run) (number : Nat) (rest : Builder) (error : LineError)
      (last : Option String) : Keeps Traces (fun _ _ => True) last (run.giveUp number rest error) :=
    Flow.traces_release _ trivial
  induction bound generalizing number builder run last with
  | zero => trivial
  | succ bound ih =>
    cases found : builder.pending with
    | none =>
      rw [stages_of_none found]
      trivial
    | some pending =>
      rw [stages_of_pending found]
      refine Flow.keeps_bind.mpr ?_
      refine (Builder.traces_build pending builder.tokens last).mono fun last step runs => ?_
      cases built : step.1 with
      | error error => exact gives ..
      | ok stage =>
        -- The stage that has been built is the one that is started.
        rw [runs stage built]
        refine Flow.keeps_bind.mpr ((traces_launch stage).mono fun last result _ => ?_)
        cases result with
        | error error => exact gives ..
        | ok launched =>
          refine Flow.keeps_bind.mpr ?_
          exact (traces_attend run number _ launched last).mono fun last run _ => ih ..

end Run

/-- Whoever runs lines starts nothing but what has been found last. -/
theorem Session.Drives.traces {flow : Flow α} (drives : Session.Drives flow)
    (last : Option String) : Flow.Keeps Flow.Traces (fun _ _ => True) last flow := by
  -- Whatever a line has found last does not matter to the next one, which looks up its own.
  induction drives generalizing last with
  | done result => trivial
  | @aside call _ aside _ ih =>
    refine fun reply => ⟨last, ?_, ih reply last⟩
    cases call <;> first | exact .other rfl rfl | cases aside
  | run session line _ ih =>
    rw [Session.run, bind_assoc]
    exact Flow.keeps_bind.mpr <|
      (Run.traces_stages _ _ _ _ last).mono fun last result _ => ih _ last

/-- Whether programs are found along the variable as it was when the interpreter began. -/
def Machine.SearchesVariable (machine : Machine) : Prop :=
  machine.resolver = Search.resolve ((machine.environment.lookup "PATH").getD "")

/-- What is certain of a command that is about to be started, after its program has been found on
the machine `checked`. -/
structure Machine.Launches (checked now : Machine) (command : Command) : Prop where
  directory : now.directory = checked.directory
  environment : now.environment = checked.environment
  passed : Search.check checked.files checked.directory command.program = .ok ()
  /-- A process that is started executes the file that the program names, seen from the current
  directory, if and only if the search of the system does not stray. -/
  executed : ∀ process after, now.start command = (.ok process, after) →
    ∃ path behaviour state, now.executed? command = some path ∧
      now.attempt command path = .ok behaviour ∧ after.process? process = some state ∧
      state.progress = .running behaviour ∧
      (now.fileAt? path = now.fileAt? command.program ↔ ¬ now.Strays command)
  /-- That is the very file that has been checked, as long as the program still names it. -/
  unchanged : now.fileAt? command.program = checked.fileAt? command.program →
    ∀ path, now.executed? command = some path →
      (now.fileAt? path = checked.fileAt? command.program ↔ ¬ now.Strays command)
  /-- A program without a slash is not even tried if the variable is not set. -/
  unset : now.environment.lookup "PATH" = none → Search.holds command.program '/' = false →
    now.candidates command.program = ["/bin/" ++ command.program, "/usr/bin/" ++ command.program]
  /-- If the variable is set, the search strays only because the program itself is passed over, or
  because an element of the variable has come to hold such a program since the check. -/
  listed : ∀ value, now.environment.lookup "PATH" = some value → now.Strays command →
    now.PassesOver command command.program ∨ ∃ element ∈ Search.elements value,
      Search.passes checked.files checked.directory
          (Search.join element command.program) = false ∧
        (Search.holds value '\x00' = false →
          Search.passes now.files now.directory (Search.join element command.program) = true)

/-- What is found along the variable is launched as it should be, unless the search strays. -/
theorem Machine.launches_of_resolved {checked now : Machine} {name : String} {command : Command}
    (usual : checked.SearchesVariable) (outlook : checked.Outlook now)
    (resolved : checked.resolver checked.files checked.directory name = .ok command.program) :
    checked.Launches now command := by
  -- What has been found passed the check; without a slash it is the name behind an empty element.
  rw [usual] at resolved
  obtain ⟨passed, bare⟩ := Search.resolve_eq_ok resolved
  have same {path : String} (executed : now.executed? command = some path) :
      now.fileAt? path = now.fileAt? command.program ↔ ¬ now.Strays command := by
    rw [strays_iff executed, ne_eq, Classical.not_not]
  refine ⟨outlook.directory, outlook.environment, passed, ?_, ?_, ?_, ?_⟩
  · intro process after started
    obtain ⟨path, behaviour, state, executed, loaded, found, running⟩ :=
      executed?_of_start started
    exact ⟨path, behaviour, state, executed, loaded, found, running, same executed⟩
  · intro unchanged path executed
    rw [← unchanged]
    exact same executed
  · intro unset _
    exact candidates_of_unset unset _
  · intro value listed strays
    obtain ⟨rfl, before, after, split, failed⟩ := bare strays.1
    rw [← outlook.environment, listed, Option.getD_some] at split
    refine (strays.cause listed split).imp_right ?_
    rintro ⟨element, there, named, behaviour, loaded⟩
    have member : element ∈ Search.elements value := by
      rw [split]
      exact List.mem_append_left _ there
    refine ⟨element, member, failed element there, fun clear => ?_⟩
    refine passes_of_attempt named loaded (Search.not_holds_join (by decide) ?_ ?_)
    · cases held : Search.holds element '\x00' with
      | false => rfl
      | true => rw [Search.holds_of_mem_elements member held] at clear; cases clear
    · exact Search.not_holds_of_check passed

/-- Whatever a session that finds programs along the variable is about to start has been found for
the stage at hand, and is launched as it should be unless the search of the system strays. -/
theorem Session.Drives.launches {flow : Flow α} (drives : Session.Drives flow) {machine : Machine}
    (usual : machine.SearchesVariable) {history : List Event} {command : Command}
    {next : Except IoError Nat → Flow α} {now : Machine}
    (follows : Scene.Follows ⟨flow, machine⟩ history ⟨.ask (.spawn command) next, now⟩) :
    ∃ earlier name later rest checked,
      history = earlier ++ ⟨.lookup name, .ok command.program⟩ :: later ∧
      later.filterMap Event.name? = [] ∧
      Scene.Follows ⟨flow, machine⟩ earlier ⟨.ask (.lookup name) rest, checked⟩ ∧
      checked.Launches now command := by
  -- Whatever has been found last is what is about to be started.
  obtain ⟨last, leads, keeps⟩ := follows.keeps (drives.traces none)
  obtain ⟨_, taken, _⟩ := keeps (.ok 0)
  cases taken with
  | other _ unstarted => cases unstarted
  | start =>
    obtain ⟨earlier, name, later, rfl, none⟩ := leads.found
    obtain ⟨rest, checked, after, start, answered, others⟩ := follows.split
    refine ⟨earlier, name, later, rest, checked, rfl, none, start, ?_⟩
    -- The variable, the directory and the resolver have not changed since the beginning.
    have before := start.outlook
    have behind := (Machine.outlook_of_answered answered).trans others.outlook
    have resolved : checked.resolver checked.files checked.directory name = .ok command.program :=
      congrArg Prod.fst (Option.some.inj answered)
    refine Machine.launches_of_resolved ?_ behind resolved
    rw [Machine.SearchesVariable, before.resolver, before.environment]
    exact usual

/-- A machine without the variable, and with two programs of one name: one in the current directory,
and one in a directory of the system. -/
def Machine.doubled : Machine where
  files := {
    names := [([], 0), (["work"], 1), (["work", "tool"], 2), (["bin"], 3), (["bin", "tool"], 4)]
    files := [{ node := .directory 0o755 }, { node := .directory 0o755 },
      { node := .regular 0o755 [7] }, { node := .directory 0o755 },
      { node := .regular 0o755 [0] }] }
  directory := ["work"]
  environment := []
  resolver := Search.resolve ""
  image := fun content => some fun _ _ => .exit (content.headD 0)

/-- What is about to be started, the path that is executed for it, and the files behind the two. -/
def Scene.prospect? (scene : Scene α) :
    Option (String × Option String × Option Nat × Option Nat) :=
  match scene.flow with
  | .ask (.spawn command) _ =>
    let executed := scene.machine.executed? command
    some (command.program, executed, scene.machine.fileAt? command.program,
      executed.bind scene.machine.fileAt?)
  | _ => none

/-- The file in the current directory has been found and checked, and the one of the system is
executed. -/
theorem Session.Drives.launches_doubled : ∃ history command next now checked,
    (⟨Session.run {} "tool", .doubled⟩ : Scene (Run × Session)).play [none] [] =
      some (history, ⟨.ask (.spawn command) next, now⟩) ∧
    command.program = "tool" ∧ now.executed? command = some "/bin/tool" ∧
    now.Strays command ∧ Machine.Launches checked now command := by
  -- One answer, that to the look-up, leads to the start.
  have played : ((⟨Session.run {} "tool", .doubled⟩ : Scene (Run × Session)).play [none] []).map
      (·.2.prospect?) = some (some ("tool", some "/bin/tool", some 2, some 4)) := by
    decide +kernel
  obtain ⟨⟨history, flow, now⟩, reached, found⟩ := Option.map_eq_some_iff.mp played
  have drives : Session.Drives (Session.run {} "tool") := by
    rw [← bind_pure (Session.run {} "tool")]
    exact .run _ _ .done
  unfold Scene.prospect? at found
  dsimp only at found
  split at found
  · rename_i command next
    simp only [Option.some.injEq, Prod.mk.injEq] at found
    obtain ⟨program, executed, own, other⟩ := found
    rw [executed, Option.bind_some] at other
    have usual : Machine.doubled.SearchesVariable := rfl
    obtain ⟨_, _, _, _, checked, _, _, _, launches⟩ :=
      Session.Drives.launches drives usual (.play .refl reached)
    refine ⟨history, command, next, now, checked, reached, program, executed, ?_, launches⟩
    rw [Machine.strays_iff executed, other, own]
    decide
  · cases found

end LineShell
