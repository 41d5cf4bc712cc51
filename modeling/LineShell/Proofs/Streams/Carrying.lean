import LineShell.Proofs.Files.Emptying
import LineShell.Proofs.Streams.Growing
import LineShell.Proofs.Streams.Wiring

/-! Carrying: whatever the interpreter is answered for a plain line, its chain goes on carrying the
bytes of the line. -/

namespace LineShell

namespace Machine

variable {machine after : Machine}

/-- Where the first stage of a line reads: in the file that it is told, or in the one that the
interpreter itself reads. -/
inductive Feeds (machine : Machine) (source : Nat) (text : Bytes) (feed : Nat) (input : Bytes) :
    Option String → Prop
  | told {path : String} {files : FileSystem}
      (found : machine.files.openPath machine.directory path .reading heldMode machine.clock =
        .ok (source, files)) (next : feed = machine.openings.length) (whole : input = text) :
      Feeds machine source text feed input (some path)
  | inherited {opening : Opening} (own : machine.stdin = .file feed)
      (there : machine.openings[feed]? = some opening) (file : opening.file = source)
      (readable : opening.readable = true) (rest : input = text.drop opening.offset) :
      Feeds machine source text feed input none

/-- Where the last stage of a line writes: in the file that it is told, which is emptied, or at the
end of the one that the interpreter itself writes. So many other files are opened before. -/
inductive Drains (machine : Machine) (others sink drain : Nat) (before : Bytes) :
    Option String → Prop
  | told {path : String} {files : FileSystem}
      (found : machine.files.openPath machine.directory path .replacing heldMode machine.clock =
        .ok (sink, files)) (regular : (files.content? sink).isSome)
      (next : drain = machine.openings.length + others) (empty : before = []) :
      Drains machine others sink drain before (some path)
  | inherited {opening : Opening} (own : machine.stdout = .file drain)
      (there : machine.openings[drain]? = some opening) (file : opening.file = sink)
      (writable : opening.writable = true) (known : machine.files.content? sink = some before)
      (ending : opening.appending = true ∨ opening.offset = before.length) :
      Drains machine others sink drain before none

/-- Either way the first file has a number of its own, from which the input is read. -/
theorem Feeds.cases {source feed : Nat} {text input : Bytes} {given : Option String}
    (feeds : machine.Feeds source text feed input given) :
    (∃ path files, given = some path ∧
        machine.files.openPath machine.directory path .reading heldMode machine.clock =
          .ok (source, files) ∧ feed = machine.openings.length ∧ input = text) ∨
      ∃ opening, given = none ∧ machine.stdin = .file feed ∧
        machine.openings[feed]? = some opening ∧ opening.file = source ∧
        opening.readable = true ∧ input = text.drop opening.offset := by
  cases feeds with
  | told found next whole => exact .inl ⟨_, _, rfl, found, next, whole⟩
  | inherited own there file readable rest =>
    exact .inr ⟨_, rfl, own, there, file, readable, rest⟩

/-- So has the last one, at the end of which the output is written. -/
theorem Drains.cases {others sink drain : Nat} {before : Bytes} {given : Option String}
    (drains : machine.Drains others sink drain before given) :
    (∃ path files, given = some path ∧
        machine.files.openPath machine.directory path .replacing heldMode machine.clock =
          .ok (sink, files) ∧ (files.content? sink).isSome ∧
        drain = machine.openings.length + others ∧ before = []) ∨
      ∃ opening, given = none ∧ machine.stdout = .file drain ∧
        machine.openings[drain]? = some opening ∧ opening.file = sink ∧
        opening.writable = true ∧ machine.files.content? sink = some before ∧
        (opening.appending = true ∨ opening.offset = before.length) := by
  cases drains with
  | told found regular next empty => exact .inl ⟨_, _, rfl, found, regular, next, empty⟩
  | inherited own there file writable known ending =>
    exact .inr ⟨_, rfl, own, there, file, writable, known, ending⟩

section

variable {path : String} {manner : Manner} {number : Nat} {files : FileSystem} {content : Bytes}
  (found : machine.files.openPath machine.directory path manner heldMode machine.clock =
    .ok (number, files)) (regular : files.content? number = some content)

include found regular

/-- A regular file is opened by an opening of its own. -/
theorem openFile_regular :
    machine.openFile machine.directory machine.ownHandle? path manner heldMode =
      .ok ({ machine with files }.addOpening {
        file := number
        readable := manner.reads
        writable := manner.writes
        appending := manner.appends }) := by
  obtain ⟨file, mode, stored, same⟩ := FileSystem.exists_of_content? regular
  have plain : file.node.isPlain = true := by
    rw [same]
    rfl
  exact openFile_plain found stored plain

/-- The interpreter opens a regular file from its beginning on. -/
theorem openHeld_regular {handle : Handle}
    (answered : machine.openHeld path manner = some (.ok handle, after)) :
    handle = .file machine.openings.length ∧ after = { machine with
      files
      openings := machine.openings ++ [{
        file := number
        readable := manner.reads
        writable := manner.writes
        appending := manner.appends }]
      held := handle :: machine.held } := by
  -- A path that the system cannot take would have been refused.
  unfold openHeld at answered
  split at answered
  · cases answered
  · rw [openFile_regular found regular] at answered
    simp only [addOpening, isLonely, Bool.false_eq_true, if_false] at answered
    cases answered
    exact ⟨rfl, rfl⟩

/-- For a regular file it has not to wait. -/
theorem openHeld_ne_none : machine.openHeld path manner ≠ none := by
  unfold openHeld
  split
  · exact Option.some_ne_none _
  · rw [openFile_regular found regular]
    simp [addOpening, isLonely]

end

/-- What a machine has got since a line was begun, by how often everything has been done for it: the
files are as they were until the last of so many stages is built. -/
structure Grown (first : Machine) (stages : Nat) (tally : Tally) (machine : Machine) : Prop where
  processes : machine.processes.length = tally.starts
  pipes : machine.pipes.length = first.pipes.length + tally.pipes
  openings : machine.openings.length = first.openings.length + tally.inputs + tally.outputs
  clock : machine.clock = first.clock
  directory : machine.directory = first.directory
  stdin : machine.stdin = first.stdin
  stdout : machine.stdout = first.stdout
  files : tally.starts < stages → tally.outputs = 0 → machine.files = first.files

end Machine

namespace Chain

variable {chain : Chain} {wiring : Wiring} {tally : Tally} {first machine after : Machine}

/-- Whether a chain is that of a plain line, on a machine on which nothing has been started yet. -/
structure Suits (chain : Chain) (wiring : Wiring) (first : Machine) : Prop where
  plain : Reading.IsPlain wiring.readings wiring.input wiring.output
  counted : chain.filters.length = wiring.readings.length
  opening : wiring.opening = first.openings.length
  pipe : wiring.pipe = first.pipes.length
  same : chain.pipe = wiring.pipe
  alone : first.processes = []
  known : first.files.content? chain.source = some chain.text
  feeds : first.Feeds chain.source chain.text chain.feed chain.input wiring.input
  drains : first.Drains wiring.input.toList.length chain.sink chain.drain chain.before
    wiring.output

section

variable (suits : chain.Suits wiring first)

include suits

/-- There is a stage at least. -/
theorem Suits.stages_pos : 0 < wiring.readings.length :=
  List.length_pos_iff.mpr suits.plain.stages

/-- What a stage is given to read from, or else the interpreter's own, is its inlet. -/
theorem Suits.inlet_eq (place : Nat) :
    (wiring.source? place).getD first.stdin = chain.inlet place := by
  -- Behind the first stage it is a pipe; the first one reads its file, or what is inherited.
  cases place with
  | succ place => simp [Wiring.source?, inlet, suits.same]
  | zero =>
    rcases suits.feeds.cases with ⟨path, _, told, _, next, _⟩ | ⟨_, told, own, _⟩
    · simp [Wiring.source?, inlet, told, next, suits.opening]
    · simp [Wiring.source?, inlet, told, own]

/-- What a stage is given to write to, or else the interpreter's own, is its outlet. -/
theorem Suits.outlet_eq (place : Nat) :
    (wiring.sink? place).getD first.stdout = chain.outlet place := by
  -- Before the last stage it is a pipe; the last one writes its file, or what is inherited.
  rw [Wiring.sink?, outlet, suits.counted]
  by_cases last : place + 1 = wiring.readings.length
  · rw [if_pos last, if_pos last]
    rcases suits.drains.cases with ⟨path, _, told, _, _, next, _⟩ | ⟨_, told, own, _⟩
    · simp [told, next, suits.opening]
    · simp [told, own]
  · rw [if_neg last, if_neg last, suits.same]
    rfl

/-- The two files are open by different numbers. -/
theorem Suits.drain_ne_feed : chain.drain ≠ chain.feed := by
  -- What the interpreter itself has open comes before all that it opens.
  have bound {number : Nat} {opening : Opening} (there : first.openings[number]? = some opening) :
      number < first.openings.length :=
    (List.getElem?_eq_some_iff.mp there).1
  rcases suits.feeds.cases with ⟨path, _, told, _, next, _⟩ | ⟨_, told, _, there, file, _⟩
  · rcases suits.drains.cases with ⟨_, _, _, _, _, behind, _⟩ | ⟨_, _, _, there, _⟩
    · simp [behind, next, told]
    · exact next ▸ Nat.ne_of_lt (bound there)
  · rcases suits.drains.cases with ⟨_, _, _, _, _, behind, _⟩ | ⟨_, _, _, written, other, _⟩
    · have least := bound there
      omega
    · intro same
      cases there.symm.trans (same ▸ written)
      exact chain.apart (file.symm.trans other)

/-- What is read first when nothing has been opened is the whole input. -/
theorem Suits.unread_zero (unsent : Nat → Bytes) : chain.unread first unsent 0 = chain.input := by
  rcases suits.feeds.cases with ⟨path, _, _, _, next, _⟩ | ⟨opening, _, _, there, _, _, rest⟩
  · simp [Chain.unread, next]
  · rw [Chain.unread_zero there, rest]

/-- Before anything has been done, all that is to be read and written is still to be read and
written. -/
theorem Suits.passing : chain.Passing first fun place => chain.stream (place + 1) where
  few := by
    rw [suits.alone]
    exact Nat.zero_le _
  stages place filter at_place := by
    have unread : chain.unread first (fun place => chain.stream (place + 1)) place =
        chain.stream place := by
      cases place with
      | zero => exact suits.unread_zero _
      | succ place =>
        -- The pipes of the chain have still to be made.
        have empty : first.transit (chain.pipe + place) = [] := by
          rw [Machine.transit, suits.same, suits.pipe, List.getElem?_eq_none (Nat.le_add_right ..)]
          rfl
        rw [unread_succ, empty, List.nil_append]
    rw [unread, suits.alone, stream, stream, Filter.stream_succ at_place]
    exact .unstarted
  owns place process found := by simp [suits.alone] at found
  made place started := by simp [suits.alone] at started
  fed started := by simp [suits.alone] at started
  drained all := by
    rw [suits.alone, suits.counted] at all
    exact absurd all (Nat.ne_of_lt suits.stages_pos)
  -- A file that has still to be opened by the line is open by no number yet.
  ports := by
    refine ⟨suits.known, fun opening there => ?_, fun opening there => ?_⟩
    · rcases suits.feeds.cases with ⟨_, _, _, _, next, _⟩ | ⟨_, _, _, found, file, readable, _⟩
      · simp [next] at there
      · cases found.symm.trans there
        exact ⟨file, readable⟩
    · rcases suits.drains.cases with
        ⟨_, _, _, _, _, next, _⟩ | ⟨_, _, _, found, file, writable, known, ending⟩
      · simp [next] at there
      · cases found.symm.trans there
        refine ⟨file, writable, _, known, ending, ?_⟩
        rw [Nat.sub_add_cancel (suits.counted ▸ suits.stages_pos)]

/-- What holds of a plain line at every moment: its bytes are carried, and the machine has got what
has been opened, made and started. -/
structure Carries (chain : Chain) (wiring : Wiring) (first : Machine) (tally : Tally)
    (machine : Machine) : Prop where
  passing : ∃ unsent, chain.Passing machine unsent
  grown : first.Grown wiring.readings.length tally machine

/-- So it is before anything has been done. -/
theorem Suits.carries : chain.Carries wiring first {} first where
  passing := ⟨_, suits.passing⟩
  grown := ⟨by simp [suits.alone], rfl, rfl, rfl, rfl, rfl, rfl, fun _ _ => rfl⟩

variable (carries : chain.Carries wiring first tally machine)

include carries

/-- The file that the first stage is told is found as it has been before. -/
theorem Carries.findsInput {path : String}
    (due : Due wiring.readings wiring.input wiring.output tally (.openInput path)) :
    tally = { lookups := 1 } ∧ chain.feed = first.openings.length ∧ chain.input = chain.text ∧
      machine.files.openPath machine.directory path .reading Machine.heldMode machine.clock =
        .ok (chain.source, machine.files) ∧
      machine.files.content? chain.source = some chain.text := by
  cases due with
  | input told =>
    rcases suits.feeds.cases with ⟨_, files, given, found, next, whole⟩ | ⟨_, given, _⟩
    · cases told.symm.trans given
      -- Opening it to be read has changed nothing, and no file has been changed since.
      obtain rfl := FileSystem.eq_of_openPath found rfl suits.known
      have grown := carries.grown
      have same := grown.files suits.stages_pos rfl
      rw [same, grown.directory, grown.clock]
      exact ⟨rfl, next, whole, found, suits.known⟩
    · cases told.symm.trans given

/-- It becomes the beginning of the chain. -/
theorem Carries.opensInput {path : String} {handle : Handle}
    (due : Due wiring.readings wiring.input wiring.output tally (.openInput path))
    (answered : machine.openHeld path .reading = some (.ok handle, after)) :
    handle = .file (wiring.opening + tally.inputs + tally.outputs) ∧
      chain.Carries wiring first (tally.add { inputs := 1 }) after := by
  obtain ⟨rfl, next, whole, found, known⟩ := carries.findsInput suits due
  obtain ⟨⟨unsent, passing⟩, grown⟩ := carries
  obtain ⟨rfl, rfl⟩ := Machine.openHeld_regular found known answered
  have number := grown.openings
  refine ⟨by rw [number, suits.opening], ⟨unsent, ?_⟩, ?_⟩
  · exact (passing.opensFeed (next.trans number.symm) whole suits.drain_ne_feed rfl rfl
      rfl).own_same _ machine.reapers
  · exact ⟨grown.processes, grown.pipes, by simp [number, Tally.add], grown.clock,
      grown.directory, grown.stdin, grown.stdout, grown.files⟩

/-- The file that the last stage is told is found, and emptied, while the first one stays. -/
theorem Carries.findsOutput {path : String}
    (due : Due wiring.readings wiring.input wiring.output tally (.openOutput path)) :
    tally.starts + 1 = wiring.readings.length ∧
      chain.drain = first.openings.length + tally.inputs + tally.outputs ∧ chain.before = [] ∧
      ∃ files, machine.files.openPath machine.directory path .replacing Machine.heldMode
          machine.clock = .ok (chain.sink, files) ∧
        files.content? chain.source = some chain.text ∧ files.content? chain.sink = some [] := by
  cases due with
  | output told last =>
    rcases suits.drains.cases with ⟨_, files, given, found, regular, next, empty⟩ | ⟨_, given, _⟩
    · cases told.symm.trans given
      obtain ⟨content, known⟩ := Option.isSome_iff_exists.mp regular
      obtain rfl := FileSystem.eq_nil_of_openPath found rfl known
      -- The input is in another file, which keeps its content.
      have source := FileSystem.content?_other_of_openPath found chain.apart.symm suits.known
      have grown := carries.grown
      rw [grown.files (Nat.lt_of_lt_of_eq (Nat.lt_succ_self _) last) rfl, grown.directory,
        grown.clock]
      exact ⟨last, next, empty, files, found, source, known⟩
    · cases told.symm.trans given

/-- It becomes the end of the chain. -/
theorem Carries.opensOutput {path : String} {handle : Handle}
    (due : Due wiring.readings wiring.input wiring.output tally (.openOutput path))
    (answered : machine.openHeld path .replacing = some (.ok handle, after)) :
    handle = .file (wiring.opening + tally.inputs + tally.outputs) ∧
      chain.Carries wiring first (tally.add { outputs := 1 }) after := by
  obtain ⟨last, next, empty, files, found, source, sink⟩ := carries.findsOutput suits due
  obtain ⟨⟨unsent, passing⟩, grown⟩ := carries
  obtain ⟨rfl, rfl⟩ := Machine.openHeld_regular found sink answered
  have number := grown.openings
  refine ⟨by rw [number, suits.opening], ⟨unsent, ?_⟩, ?_⟩
  · exact (passing.opensDrain (next.trans number.symm) empty suits.drain_ne_feed
      (by rw [grown.processes, suits.counted]; omega) source sink rfl rfl rfl).own_same _
        machine.reapers
  · exact ⟨grown.processes, grown.pipes, by simp [number, Tally.add, Nat.add_assoc], grown.clock,
      grown.directory, grown.stdin, grown.stdout, fun _ unopened => by cases unopened⟩

/-- A pipe that is made becomes a link of the chain. -/
theorem Carries.pipes {reply : Except IoError (Handle × Handle)}
    (answered : machine.answer .pipe = some (reply, after)) :
    reply = .ok (.reader (wiring.pipe + tally.pipes), .writer (wiring.pipe + tally.pipes)) ∧
      chain.Carries wiring first (tally.add { pipes := 1 }) after := by
  obtain ⟨⟨unsent, passing⟩, grown⟩ := carries
  cases answered
  have number : machine.pipes.length = wiring.pipe + tally.pipes := by rw [grown.pipes, suits.pipe]
  refine ⟨by rw [← number], ⟨unsent, ?_⟩, ?_⟩
  · exact passing.addPipe.own_same _ machine.reapers
  · exact ⟨grown.processes, by simp [grown.pipes, Tally.add, Nat.add_assoc],
      grown.openings, grown.clock, grown.directory, grown.stdin, grown.stdout, grown.files⟩

/-- When a program is started, all that its stage reads and writes is there. -/
theorem Carries.ready {command : Command} {reply : Except IoError Nat}
    (due : wiring.IsDue tally ⟨.spawn command, reply⟩) :
    chain.feed < machine.openings.length ∧
      (tally.starts + 1 = chain.filters.length → chain.drain < machine.openings.length) ∧
      (tally.starts + 1 < chain.filters.length →
        chain.pipe + tally.starts < machine.pipes.length) := by
  -- What is started when is known from the order in which everything is done for the line.
  obtain ⟨_, inputs, planned⟩ := due.of_start rfl
  rw [carries.grown.openings, carries.grown.pipes, suits.counted, suits.same, suits.pipe, inputs]
  refine ⟨?_, fun all => ?_, fun inner => ?_⟩
  · rcases suits.feeds.cases with ⟨_, _, given, _, next, _⟩ | ⟨_, _, _, there, _⟩
    · rw [next, given]
      exact Nat.lt_of_lt_of_le (Nat.lt_succ_self _) (Nat.le_add_right ..)
    · have bound := (List.getElem?_eq_some_iff.mp there).1
      omega
  · rcases suits.drains.cases with ⟨_, _, given, _, _, next, _⟩ | ⟨_, _, _, there, _⟩
    · have outputs : tally.outputs = 1 := by
        rcases planned with ⟨inner, _⟩ | ⟨_, _, outputs⟩
        · exact absurd all (Nat.ne_of_lt inner)
        · rw [outputs, given]
          rfl
      rw [next, outputs]
      exact Nat.lt_succ_self _
    · have bound := (List.getElem?_eq_some_iff.mp there).1
      omega
  · rcases planned with ⟨_, pipes, _⟩ | ⟨last, _⟩
    · omega
    · exact absurd last (Nat.ne_of_lt inner)

/-- A program that is started with what is meant for its stage becomes that stage of the chain. -/
theorem Carries.starts {command : Command} {number : Nat}
    (due : wiring.IsDue tally ⟨.spawn command, .ok number⟩)
    (stdin : command.stdin = wiring.source? tally.starts)
    (stdout : command.stdout = wiring.sink? tally.starts) (stderr : command.stderr = none)
    (acts : ∀ filter behaviour, chain.filters[tally.starts]? = some filter →
      machine.loadNamed command.program command.arguments = .ok behaviour →
        filter.Acts (chain.stream tally.starts) behaviour)
    (answered : machine.start command = (.ok number, after)) :
    number = tally.starts + 1 ∧ chain.Carries wiring first (tally.add { starts := 1 }) after := by
  obtain ⟨fed, drained, made⟩ := carries.ready suits due
  obtain ⟨⟨unsent, passing⟩, grown⟩ := carries
  have inside : tally.starts < chain.filters.length := by
    obtain ⟨_, _, planned⟩ := due.of_start rfl
    have counted := suits.counted
    omega
  have at_place := List.getElem?_eq_getElem inside
  -- It has been started, so that its texts could be taken and its program was loaded.
  unfold Machine.start at answered
  split at answered
  · cases answered
  split at answered
  · cases answered
  rename_i behaviour loaded
  cases answered
  have inlet : command.stdin.getD machine.stdin = chain.inlet tally.starts := by
    rw [stdin, grown.stdin, suits.inlet_eq]
  have outlet : command.stdout.getD machine.stdout = chain.outlet tally.starts := by
    rw [stdout, grown.stdout, suits.outlet_eq]
  rw [inlet, outlet, stderr]
  refine ⟨by rw [grown.processes], ⟨unsent, ?_⟩, ?_⟩
  · exact passing.start grown.processes at_place ⟨rfl, rfl, rfl⟩ rfl (acts _ _ at_place loaded)
      made fed drained
  · exact ⟨by simp [grown.processes, Tally.add], grown.pipes, grown.openings, grown.clock,
      grown.directory, grown.stdin, grown.stdout, fun more => grown.files (Nat.lt_of_succ_lt more)⟩

omit suits in
/-- A process that is waited for remains what it was for the chain. -/
theorem Carries.waits {number : Nat} {reply : Except IoError WaitStatus}
    (answered : machine.answer (.wait number) = some (reply, after)) :
    chain.Carries wiring first tally after := by
  -- Only the status of a process that is over is given away.
  simp only [Machine.answer] at answered
  split at answered
  · cases answered
    exact carries
  rename_i process found
  split at answered
  any_goals cases answered
  · exact carries
  · rename_i status ended
    obtain ⟨⟨unsent, passing⟩, grown⟩ := carries
    cases number with
    | zero => cases found
    | succ place =>
      exact ⟨⟨unsent, passing.reap found ended⟩, (List.length_set ..).trans grown.processes,
        grown.pipes, grown.openings, grown.clock, grown.directory, grown.stdin, grown.stdout,
        grown.files⟩

end

/-- The handles and tasks of the interpreter are no concern of the chain. -/
theorem Carries.own_same (carries : chain.Carries wiring first tally machine) (held : List Handle)
    (reapers : List ReaperTask) :
    chain.Carries wiring first tally { machine with held, reapers } where
  passing := carries.passing.imp fun _ passing => passing.own_same held reapers
  grown := ⟨carries.grown.processes, carries.grown.pipes, carries.grown.openings,
    carries.grown.clock, carries.grown.directory, carries.grown.stdin, carries.grown.stdout,
    carries.grown.files⟩

end Chain

end LineShell
