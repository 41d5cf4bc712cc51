import LineShell.Proofs.Files.Reflecting
import LineShell.Proofs.Pipeline.Faults

/-! Dropping: what is left in the files by a line whose stages are built and never started. -/

namespace LineShell

/-- How far a plan has been carried out: from its beginning on, up to the first action that is
refused, or as a whole. -/
structure Carried (plan : List Action) (deeds : List Event) : Prop where
  order : deeds.filterMap Event.action? <+: plan
  halted : Halted deeds
  whole : (∀ event ∈ deeds, event.error? = none) → deeds.filterMap Event.action? = plan

namespace Builder

/-- The stages of a line are prepared as planned, up to the first thing that goes wrong. -/
theorem Yields.carried {readings : List Reading} {stdin : Source} {deeds : List Event}
    {steps : List (Except LineError Stage)} (yields : Yields readings stdin deeds steps)
    (line : Reading.IsLine readings) :
    Carried (readings.flatMap Reading.preparation) deeds := by
  -- A stage that is built has been prepared as a whole, so the next one follows on its plan.
  induction yields with
  | nothing => exact ⟨List.prefix_rfl, .nil, fun _ => rfl⟩
  | @stage whole others _ events later _ _ built _ ih =>
    have further := ih line.tail
    have order := built.prepared
    refine ⟨?_, .append built.granted further.halted, fun quiet => ?_⟩
    · rw [List.filterMap_append, order, List.flatMap_cons]
      exact (List.prefix_append_right_inj _).mpr further.order
    · have rest := further.whole fun event seen => quiet event (List.mem_append_right _ seen)
      rw [List.filterMap_append, order, rest, List.flatMap_cons]
  | @error whole others _ events error built =>
    refine ⟨built.order.trans (List.prefix_append _ _), built.halted, fun quiet => ?_⟩
    -- Without a refusal it is an operator that has gone wrong, at the end of the line.
    cases built with
    | dangling _ order ended =>
      rw [line.eq_nil (by simp [ended])]
      simpa using order
    | refused split _ refused _ =>
      have silent := quiet _ (split ▸ List.mem_append_right _ (List.mem_singleton_self _))
      rw [silent] at refused
      cases refused

/-- All steps of a line, with something done about each of them before the next. -/
def stepsWith (attend : Except LineError Stage → Flow Unit) (tokens : List Token) :
    Flow (List (Except LineError Stage)) :=
  collectWith attend tokens.length (ofTokens tokens)

/-- Gives up what a step owns. -/
def drop : Except LineError Stage → Flow Unit
  | .ok stage => Flow.release stage.handles
  | .error _ => .done ()

/-- Dropping gives up handles and does nothing else. -/
theorem asks_drop (step : Except LineError Stage) : (drop step).Asks Call.IsClosing := by
  cases step with
  | ok stage => exact Flow.asks_release (fun _ => rfl) stage.handles
  | error error => exact trivial

variable {attend : Except LineError Stage → Flow Unit}

/-- Building all steps asks for what each of them is built by, if handles are given up in
between. -/
theorem asks_collectWith (closing : ∀ step, (attend step).Asks Call.IsClosing) (bound : Nat)
    (builder : Builder) : (collectWith attend bound builder).Asks Call.IsForBuilding := by
  -- The induction is on the bound, as the steps are collected.
  induction bound generalizing builder with
  | zero => exact trivial
  | succ bound ih =>
    cases found : builder.pending with
    | none =>
      rw [collectWith_of_none found]
      exact trivial
    | some pending =>
      rw [collectWith_succ found]
      refine (asks_build pending builder.tokens).bind fun step => ?_
      refine ((closing step.1).mono fun _ => Call.IsClosing.isForBuilding).bind fun _ => ?_
      exact (ih step.2).bind fun _ => trivial

/-- The files after the stages of a line have been built, and dropped in one way or another. What
has been opened to be written before the first refusal is there and empty, and nothing else has been
changed; each request has been answered by what was there after the earlier ones; and the requests
are those that the line asks for, up to the first that is refused. -/
theorem stepsWith_reflects (closing : ∀ step, (attend step).Asks Call.IsClosing)
    (tokens : List Token) {machine : Machine} (tree : machine.files.IsTree) {events : List Event}
    (asked : (stepsWith attend tokens).events Machine.handler machine = events)
    (plain : ∀ event ∈ events, event.call.IsPlain machine.files machine.directory) :
    machine.files.Reflects machine.directory events
        ((stepsWith attend tokens).run Machine.handler machine).2.files ∧
      (∀ before call reply later, events = before ++ ⟨call, reply⟩ :: later →
        ∃ now next : Machine, machine.files.Reflects machine.directory before now.files ∧
          machine.Outlook now ∧ now.answer call = some (reply, next)) ∧
      Carried ((Reading.ofTokens tokens).flatMap Reading.preparation) (deeds events) := by
  subst asked
  obtain ⟨last, visible⟩ := Flow.reflects_run (asks_collectWith closing tokens.length
    (ofTokens tokens)) (.refl tree) plain
  -- The bound is enough for all stages, so they are the ones that the tokens read as.
  have yields := collectWith_yields Machine.handler closing tokens.length (ofTokens tokens) machine
    (by simpa using Reading.length_ofTokens_le tokens)
  rw [readings_ofTokens, stdin_ofTokens] at yields
  exact ⟨last, visible, yields.carried (Reading.isLine_ofTokens tokens)⟩

/-- A machine with a file, a link to it, and another file that has the set-user-ID bit. -/
def stocked : Machine where
  files := {
    names := [([], 0), (["old"], 1), (["link"], 2), (["owned"], 3)]
    files := [{ node := .directory 0o755 }, { node := .regular 0o600 [120] },
      { node := .link "old" }, { node := .regular 0o4755 [120] }] }
  directory := []
  environment := []
  resolver := fun _ _ name =>
    if name = "cat" then .ok "/bin/cat" else .error (.notFound name)
  image := fun _ => none

/-- No file of it has two names. -/
theorem isTree_stocked : stocked.files.IsTree :=
  FileSystem.isTree_of_names (by decide) (by decide)

/-- A line that writes through the link what it reads, and whose second command is not found. -/
def brokenLine : List Token :=
  [.word "cat", .operator .output, .word "link", .operator .input, .word "old", .operator .pipe,
    .word "none", .operator .output, .word "new"]

/-- The file behind the link has been emptied, and nothing else has been changed or created. -/
theorem stepsWith_reflects_broken :
    stocked.files.IsTree ∧
    ((stepsWith drop brokenLine).run Machine.handler stocked).2.files.find? ["old"] =
      some (.regular 0o600 []) ∧
    ∀ place, place ≠ ["old"] →
      ((stepsWith drop brokenLine).run Machine.handler stocked).2.files.at? place =
        stocked.files.at? place := by
  have asked : (stepsWith drop brokenLine).events Machine.handler stocked =
      [⟨.lookup "cat", .ok "/bin/cat"⟩, ⟨.openOutput "link", .ok (.file 0)⟩,
        ⟨.openInput "old", .ok (.file 1)⟩, ⟨.pipe, .ok (.reader 0, .writer 0)⟩,
        ⟨.close (.file 0), ()⟩, ⟨.close (.file 1), ()⟩, ⟨.close (.writer 0), ()⟩,
        ⟨.lookup "none", .error (.notFound "none")⟩, ⟨.close (.reader 0), ()⟩] := rfl
  -- The link and what it leads to are one place.
  have placed : stocked.files.placeToCreate stocked.directory "link" false = .ok ["old"] := rfl
  have located : stocked.files.locate stocked.directory "old" true =
      .ok (["old"], .regular 0o600 [120]) := rfl
  obtain ⟨last, -, -⟩ := stepsWith_reflects asks_drop brokenLine isTree_stocked asked (by
    simp only [List.forall_mem_cons]
    refine ⟨trivial, ?_, ?_, trivial, trivial, trivial, trivial, trivial, trivial,
      List.forall_mem_nil _⟩
    · intro place node there found
      cases placed.symm.trans there
      cases found
      rfl
    · intro place node there
      cases located.symm.trans there
      rfl)
  refine ⟨isTree_stocked, ?_, fun place apart => last.others place fun target => apart ?_⟩
  · obtain ⟨mode, emptied, found⟩ := last.targets ["old"] ⟨"link", .file 0, by simp, placed⟩
    have before : stocked.files.find? ["old"] = some (.regular 0o600 [120]) := rfl
    rw [before] at emptied
    cases emptied
    exact found
  · -- Only one file has been opened to be written.
    obtain ⟨path, handle, opened, there⟩ := target
    have sink : Sink.file path handle ∈ [Sink.file "link" (.file 0)] :=
      List.mem_filterMap.mpr ⟨_, opened, (rfl : Event.sink? _ = some (.file path handle))⟩
    cases List.mem_singleton.mp sink
    exact Except.ok.inj (there.symm.trans placed)

-- What a line has created can be read by the same stage.
example : ((stepsWith drop [.word "cat", .operator .output, .word "new", .operator .input,
    .word "new"]).events Machine.handler stocked).filterMap Event.source? =
      [.file "new" (.file 1)] := rfl

/-- A line that writes the file with the set-user-ID bit. -/
def owningLine : List Token :=
  [.word "cat", .operator .output, .word "owned"]

/-- A file that has been emptied has lost its set-user-ID bit, so it has not its old permission
bits. -/
theorem stepsWith_owned :
    stocked.files.IsTree ∧
    (∀ event ∈ (stepsWith drop owningLine).events Machine.handler stocked,
      event.call.IsPlain stocked.files stocked.directory) ∧
    ((stepsWith drop owningLine).run Machine.handler stocked).2.files.find? ["owned"] =
      some (.regular 0o755 []) ∧
    ¬ ∀ place mode content, stocked.files.find? place = some (.regular mode content) →
      stocked.files.IsTarget stocked.directory
        ((stepsWith drop owningLine).events Machine.handler stocked) place →
      ((stepsWith drop owningLine).run Machine.handler stocked).2.files.find? place =
        some (.regular mode []) := by
  -- The one file of the line has the bit before, and has lost it behind the truncation.
  have asked : (stepsWith drop owningLine).events Machine.handler stocked =
      [⟨.lookup "cat", .ok "/bin/cat"⟩, ⟨.openOutput "owned", .ok (.file 0)⟩,
        ⟨.close (.file 0), ()⟩] := rfl
  have placed : stocked.files.placeToCreate stocked.directory "owned" false = .ok ["owned"] := rfl
  have before : stocked.files.find? ["owned"] = some (.regular 0o4755 [120]) := rfl
  have after : ((stepsWith drop owningLine).run Machine.handler stocked).2.files.find? ["owned"] =
      some (.regular 0o755 []) := rfl
  rw [asked]
  refine ⟨isTree_stocked, ?_, after, fun kept => ?_⟩
  · simp only [List.forall_mem_cons]
    refine ⟨trivial, ?_, trivial, List.forall_mem_nil _⟩
    intro place node there found
    cases placed.symm.trans there
    cases before.symm.trans found
    rfl
  · have same := kept ["owned"] 0o4755 [120] before ⟨"owned", .file 0, by simp, placed⟩
    rw [after] at same
    cases same

end Builder

end LineShell
