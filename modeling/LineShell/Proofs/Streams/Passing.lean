import LineShell.Proofs.Streams.Contents
import LineShell.Proofs.Streams.Filters
import Mathlib.Logic.Function.Basic

/-! Passing: how what the stages of a line read and write gets from one to the next. -/

namespace LineShell

/-- What a stage has still to read and to write, by how far its process has come. -/
inductive Filter.Does (filter : Filter) (input : Bytes) : Bytes → Bytes → Option Progress → Prop
  | unstarted : Does filter input input (filter.apply input) none
  | gathering {unread : Bytes} {behaviour : Behaviour}
      (gathers : behaviour.Gathers (filter.apply input) filter.code unread) :
      Does filter input unread (filter.apply input) (some (.running behaviour))
  | writing {unsent : Bytes} {behaviour : Behaviour}
      (writes : behaviour.Writes filter.code unsent) :
      Does filter input [] unsent (some (.running behaviour))
  | ended : Does filter input [] [] (some (.ended (.ofCode filter.code)))
  | reaped : Does filter input [] [] (some .reaped)

/-- The bytes that are on their way through a pipe. -/
def Machine.transit (machine : Machine) (pipe : Nat) : Bytes :=
  ((machine.pipes[pipe]?).map (·.content)).getD []

/-- Filters in a row, the first of which gets its input from one file, and the last of which adds
its output to what is in another. -/
structure Chain where
  filters : List Filter
  input : Bytes
  /-- The number of the file that is read, and all that is in it. -/
  source : Nat
  text : Bytes
  /-- The number of the file that is written, and what is in it before. -/
  sink : Nat
  before : Bytes
  apart : source ≠ sink
  /-- The numbers by which the files are open. -/
  feed : Nat
  drain : Nat
  /-- The number of the first pipe. -/
  pipe : Nat

namespace Chain

variable (chain : Chain)

/-- What comes out behind so many filters. -/
abbrev stream (count : Nat) : Bytes :=
  Filter.stream chain.filters chain.input count

/-- What comes out in the end. -/
abbrev result : Bytes :=
  chain.stream chain.filters.length

/-- What a stage reads. -/
def inlet : Nat → Handle
  | 0 => .file chain.feed
  | place + 1 => .reader (chain.pipe + place)

/-- What a stage writes. -/
def outlet (place : Nat) : Handle :=
  if place + 1 = chain.filters.length then .file chain.drain else .writer (chain.pipe + place)

/-- What a stage has still to read, when those before it have still so much to write. -/
def unread (machine : Machine) (unsent : Nat → Bytes) : Nat → Bytes
  | 0 => match machine.openings[chain.feed]? with
    | some opening => chain.text.drop opening.offset
    | none => chain.input
  | place + 1 => machine.transit (chain.pipe + place) ++ unsent place

/-- A process of a stage: it has the two ends of the stage until it is over. -/
structure Owns (stderr : Handle) (place : Nat) (process : Process) : Prop where
  parent : process.parent = 0
  unlimited : process.fileLimit = none
  handles : process.handles =
    if process.alive then [(0, chain.inlet place), (1, chain.outlet place), (2, stderr)] else []

/-- The two files at the ends of the chain, as far as they are open. -/
structure Ports (files : FileSystem) (openings : List Opening) (unsent : Bytes) : Prop where
  source : files.content? chain.source = some chain.text
  feed : ∀ opening, openings[chain.feed]? = some opening →
    opening.file = chain.source ∧ opening.readable = true
  drain : ∀ opening, openings[chain.drain]? = some opening →
    opening.file = chain.sink ∧ opening.writable = true ∧
      ∃ content, files.content? chain.sink = some content ∧
        (opening.appending = true ∨ opening.offset = content.length) ∧
        content ++ unsent = chain.before ++ chain.result

/-- Every byte on its way through the chain: what each stage has still to read is what is on its way
to it and what the stage before it has still to write. -/
structure Passing (machine : Machine) (unsent : Nat → Bytes) : Prop where
  few : machine.processes.length ≤ chain.filters.length
  stages : ∀ (place : Nat) (filter : Filter), chain.filters[place]? = some filter →
    filter.Does (chain.stream place) (chain.unread machine unsent place) (unsent place)
      ((machine.processes[place]?).map (·.progress))
  owns : ∀ place process, machine.processes[place]? = some process →
    chain.Owns machine.stderr place process
  made : ∀ place, place < machine.processes.length → place + 1 < chain.filters.length →
    chain.pipe + place < machine.pipes.length
  fed : 0 < machine.processes.length → chain.feed < machine.openings.length
  drained : machine.processes.length = chain.filters.length →
    chain.drain < machine.openings.length
  ports : chain.Ports machine.files machine.openings (unsent (chain.filters.length - 1))

/-- What a step of a stage leaves as it is: only the last one writes a file. -/
structure Steady (before after : Machine) : Prop where
  processes : after.processes.length = before.processes.length
  pipes : after.pipes.length = before.pipes.length
  openings : after.openings.length = before.openings.length
  clock : after.clock = before.clock
  files : before.processes.length < chain.filters.length → after.files = before.files

end Chain

namespace Machine

variable {machine : Machine} {number : Nat} {process : Process}

/-- A process that ends is done at once. -/
theorem stepProcess_exit {code : UInt8} (found : machine.process? number = some process)
    (running : process.progress = .running (.exit code)) :
    machine.stepProcess number = some (machine.conclude number (.ofCode code)) := by
  simp [stepProcess, found, running]

/-- A process that reads goes on with what it gets. -/
theorem stepProcess_read {descriptor limit : Nat} {next : Except Errno Bytes → Behaviour}
    (found : machine.process? number = some process)
    (running : process.progress = .running (.ask (.read descriptor limit) next)) :
    machine.stepProcess number = (machine.serve number process (.read descriptor limit)).map
      fun answer => answer.2.resume number (next answer.1) := by
  simp only [stepProcess, found, running]
  cases machine.serve number process (.read descriptor limit) <;> rfl

/-- A process that writes goes on with what is taken. -/
theorem stepProcess_write {descriptor : Nat} {data : Bytes} {next : Except Errno Nat → Behaviour}
    (found : machine.process? number = some process)
    (running : process.progress = .running (.ask (.write descriptor data) next)) :
    machine.stepProcess number = (machine.serve number process (.write descriptor data)).map
      fun answer => answer.2.resume number (next answer.1) := by
  simp only [stepProcess, found, running]
  cases machine.serve number process (.write descriptor data) <;> rfl

/-- A process that is not over goes on. -/
theorem resume_of_alive (found : machine.process? number = some process)
    (alive : process.alive = true) (behaviour : Behaviour) :
    machine.resume number behaviour =
      machine.setProcess number { process with progress := .running behaviour } := by
  simp [resume, updateProcess, found, alive]

/-- A process that the interpreter has started ends without anyone being told. -/
theorem conclude_of_own (found : machine.process? number = some process)
    (alive : process.alive = true) (own : process.parent = 0) (status : WaitStatus) :
    machine.conclude number status = machine.setProcess number (process.finish status) := by
  simp [conclude, updateProcess, found, alive, own]
  simp [process?]

/-- A pipe that is changed is the only one to change. -/
theorem transit_set (machine : Machine) {number : Nat} {pipe : Pipe}
    (there : number < machine.pipes.length) (other : Nat) :
    ({ machine with pipes := machine.pipes.set number pipe } : Machine).transit other =
      if other = number then pipe.content else machine.transit other := by
  unfold transit
  by_cases same : other = number
  · subst same
    rw [if_pos rfl, List.getElem?_set_self there]
    rfl
  · rw [if_neg same, List.getElem?_set_ne (Ne.symm same)]

/-- A file is read from where its opening is. -/
theorem readHandle_file {opening : Opening} {content : Bytes}
    (found : machine.openings[number]? = some opening) (readable : opening.readable = true)
    (known : machine.files.content? opening.file = some content) (limit : Nat) :
    machine.readHandle (.file number) limit =
      some (.ok ((content.drop opening.offset).take limit), { machine with
        openings := machine.openings.set number { opening with
          offset := opening.offset + ((content.drop opening.offset).take limit).length } }) := by
  simp [readHandle, found, readable, FileSystem.readAt_of_content? known]

/-- Reading a pipe gives the end of the stream, when nothing is on its way and nobody can write, or
some of what is on its way. -/
theorem cases_of_readHandle {after : Machine} {limit : Nat} {reply : Except Errno Bytes}
    (there : number < machine.pipes.length)
    (answered : machine.readHandle (.reader number) limit = some (reply, after)) :
    (machine.transit number = [] ∧ machine.hasWriter number = false ∧ reply = .ok [] ∧
        after = machine) ∨
      (machine.transit number ≠ [] ∧ reply = .ok ((machine.transit number).take limit) ∧
        ∃ pipe : Pipe, pipe.content = (machine.transit number).drop limit ∧
          after = { machine with pipes := machine.pipes.set number pipe }) := by
  have found := List.getElem?_eq_getElem there
  have content : machine.transit number = machine.pipes[number].content := by simp [transit, found]
  -- With nothing in the pipe there is only the end of the stream to be had, or no answer.
  unfold readHandle at answered
  simp only [found] at answered
  rw [content]
  split at answered
  · rename_i empty
    split at answered
    · cases answered
    · rename_i alone
      cases answered
      exact .inl ⟨empty, by simpa using alone, rfl, rfl⟩
  · rename_i filled
    cases answered
    exact .inr ⟨filled, rfl, _, rfl, rfl⟩

/-- What is written to a pipe that somebody reads is taken as far as there is room. -/
theorem taken_of_writeHandle {after : Machine} {data : Bytes} {limit : Option Nat}
    {reply : Except Errno Nat} (there : number < machine.pipes.length)
    (reader : machine.hasReader number = true) (filled : data ≠ [])
    (answered : machine.writeHandle (.writer number) data limit = some (reply, after)) :
    ∃ count, 0 < count ∧ count ≤ data.length ∧ reply = .ok count ∧
      ∃ pipe : Pipe, pipe.content = machine.transit number ++ data.take count ∧
        after = { machine with pipes := machine.pipes.set number pipe } := by
  have found := List.getElem?_eq_getElem there
  have content : machine.transit number = machine.pipes[number].content := by simp [transit, found]
  have some_data : data.isEmpty = false := by simpa using filled
  simp only [writeHandle, found, reader, some_data, Bool.not_true, Bool.false_eq_true,
    if_false] at answered
  -- Without room, or with too little for a short piece, there is no answer.
  generalize pipeCapacity - machine.pipes[number].content.length = room at answered
  split at answered
  · cases answered
  · rename_i enough
    cases answered
    have positive : room ≠ 0 := fun none_left => enough (by simp [none_left])
    have length := List.length_pos_iff.mpr filled
    refine ⟨(data.take room).length, ?_, List.length_take_le' .., rfl, _, ?_, rfl⟩
    · rw [List.length_take]
      omega
    · rw [content, List.length_take, List.take_eq_take_min]

/-- What is written at the end of a file is taken as a whole. -/
theorem writeHandle_ending {opening : Opening} {content data : Bytes}
    (found : machine.openings[number]? = some opening) (writable : opening.writable = true)
    (known : machine.files.content? opening.file = some content)
    (ending : opening.appending = true ∨ opening.offset = content.length) (filled : data ≠ []) :
    ∃ files, machine.writeHandle (.file number) data none = some (.ok data.length, { machine with
        files
        openings := machine.openings.set number { opening with
          offset := content.length + data.length } }) ∧
      files.content? opening.file = some (content ++ data) ∧
      ∀ other, opening.file ≠ other → files.content? other = machine.files.content? other := by
  -- Whether it appends or stands at the end, the bytes go behind all that is there.
  have last : ((if opening.appending then none else some opening.offset).getD content.length) =
      content.length := by
    rcases ending with appends | offset
    · simp [appends]
    · rw [offset]
      split <;> rfl
  obtain ⟨files, written, rest⟩ :=
    FileSystem.writeAt_of_content? known last data machine.clock
  refine ⟨files, ?_, rest⟩
  have some_data : data.isEmpty = false := by simpa using filled
  have file : machine.writeHandle (.file number) data none =
      some (machine.writeFile number opening data none) := by
    simp [writeHandle, found, writable]
  rw [file]
  simp [writeFile, allowance, some_data, written]

/-- Whoever has the end of a pipe that is read can read it. -/
theorem hasReader_of_mem {pipe descriptor : Nat} (found : process ∈ machine.processes)
    (holds : (descriptor, .reader pipe) ∈ process.handles) : machine.hasReader pipe = true := by
  have any : machine.processes.any (fun process =>
      process.handles.any fun entry => entry.2.reads pipe) = true :=
    List.any_eq_true.mpr ⟨process, found, List.any_eq_true.mpr ⟨_, holds, by simp [Handle.reads]⟩⟩
  simp only [hasReader, anyHandle, any, Bool.or_true]

/-- Whoever has the end of a pipe that is written can write it. -/
theorem hasWriter_of_mem {pipe descriptor : Nat} (found : process ∈ machine.processes)
    (holds : (descriptor, .writer pipe) ∈ process.handles) : machine.hasWriter pipe = true := by
  have any : machine.processes.any (fun process =>
      process.handles.any fun entry => entry.2.writes pipe) = true :=
    List.any_eq_true.mpr ⟨process, found, List.any_eq_true.mpr ⟨_, holds, by simp [Handle.writes]⟩⟩
  simp only [hasWriter, anyHandle, any, Bool.or_true]

/-- So does the interpreter. -/
theorem hasReader_of_held {pipe : Nat} (held : .reader pipe ∈ machine.held) :
    machine.hasReader pipe = true := by
  have any : machine.held.any (·.reads pipe) = true :=
    List.any_eq_true.mpr ⟨_, held, by simp [Handle.reads]⟩
  simp [hasReader, anyHandle, any]

end Machine

/-- A stage whose process is over has nothing left to read or to write. -/
theorem Filter.Does.exhausted {filter : Filter} {input unread unsent : Bytes} {process : Process}
    (does : filter.Does input unread unsent (some process.progress))
    (gone : process.alive = false) : unread = [] ∧ unsent = [] := by
  obtain ⟨_, _, _, _, _, _, _, _, progress⟩ := process
  cases does with
  | gathering | writing => cases gone
  | ended | reaped => exact ⟨rfl, rfl⟩

/-- What a stage reads that gathers its input is no longer to be read, and with nothing to be had it
has read everything. -/
theorem Filter.Does.read {filter : Filter} {input unread data rest : Bytes} {limit : Nat}
    {next : Except Errno Bytes → Behaviour}
    (gathers : (Behaviour.ask (.read 0 limit) next).Gathers (filter.apply input) filter.code unread)
    (split : unread = data ++ rest) (within : data.length ≤ limit)
    (ended : data = [] → unread = []) :
    filter.Does input rest (filter.apply input) (some (.running (next (.ok data)))) := by
  cases gathers with
  | read asked further closing =>
    by_cases empty : data = []
    · subst empty
      have nothing := ended rfl
      obtain rfl : rest = [] := split.symm.trans nothing
      exact .writing (closing nothing)
    · exact .gathering (further data rest split empty within)

namespace Chain

variable {chain : Chain} {machine : Machine} {unsent : Nat → Bytes}

/-- One stage makes a step: what it has still to read and to write may change, and for all others
that stays. -/
theorem Passing.update (passing : chain.Passing machine unsent) {place : Nat} {filter : Filter}
    (at_place : chain.filters[place]? = some filter) {process other : Process}
    (found : machine.processes[place]? = some process) (owns : chain.Owns machine.stderr place other)
    {left : Nat → Bytes} (others : ∀ next, next ≠ place → left next = unsent next)
    {files : FileSystem} {pipes : List Pipe} {openings : List Opening}
    (files_same : machine.processes.length < chain.filters.length → files = machine.files)
    (pipes_same : pipes.length = machine.pipes.length)
    (openings_same : openings.length = machine.openings.length)
    (does : filter.Does (chain.stream place)
      (chain.unread { machine with pipes, openings } left place) (left place) (some other.progress))
    (unread : ∀ next, next < chain.filters.length → next ≠ place →
      chain.unread { machine with pipes, openings } left next = chain.unread machine unsent next)
    (ports : chain.Ports files openings (left (chain.filters.length - 1))) :
    chain.Passing ({ machine with files, pipes, openings }.setProcess (place + 1) other) left ∧
      chain.Steady machine
        ({ machine with files, pipes, openings }.setProcess (place + 1) other) := by
  have inside : place < machine.processes.length := (List.getElem?_eq_some_iff.mp found).1
  have counted : (machine.processes.set place other).length = machine.processes.length :=
    List.length_set ..
  -- Only the stage at `place` has to be looked at: what the others do, own and read is as before.
  refine ⟨⟨?_, fun next filter there => ?_, fun next process there => ?_, ?_, ?_, ?_, ports⟩,
    counted, pipes_same, openings_same, rfl, files_same⟩
  · exact counted.symm ▸ passing.few
  · change filter.Does _ (chain.unread { machine with pipes, openings } left next) (left next)
      (((machine.processes.set place other)[next]?).map (·.progress))
    by_cases same : next = place
    · subst same
      cases at_place.symm.trans there
      rw [List.getElem?_set_self inside]
      exact does
    · rw [unread next (List.getElem?_eq_some_iff.mp there).1 same,
        List.getElem?_set_ne (Ne.symm same), others next same]
      exact passing.stages next filter there
  · change (machine.processes.set place other)[next]? = some process at there
    by_cases same : next = place
    · subst same
      rw [List.getElem?_set_self inside] at there
      cases there
      exact owns
    · rw [List.getElem?_set_ne (Ne.symm same)] at there
      exact passing.owns next process there
  · intro next started inner
    exact pipes_same.symm ▸ passing.made next (counted ▸ started) inner
  · exact fun started => openings_same.symm ▸ passing.fed (counted ▸ started)
  · exact fun all => openings_same.symm ▸ passing.drained (counted ▸ all)

/-- A process of a stage that is not over reads its inlet and writes its outlet. -/
theorem Owns.handle? {stderr : Handle} {place : Nat} {process : Process}
    (owns : chain.Owns stderr place process) (alive : process.alive = true) :
    process.handle? 0 = some (chain.inlet place) ∧
      process.handle? 1 = some (chain.outlet place) := by
  rw [Process.handle?, Process.handle?, owns.handles, if_pos alive]
  exact ⟨rfl, rfl⟩

/-- A process of a stage that goes on has what it had. -/
theorem Owns.running {stderr : Handle} {place : Nat} {process : Process}
    (owns : chain.Owns stderr place process) (alive : process.alive = true)
    (behaviour : Behaviour) :
    chain.Owns stderr place { process with progress := .running behaviour } where
  parent := owns.parent
  unlimited := owns.unlimited
  handles := owns.handles.trans (if_pos alive)

/-- A process of a stage that is over has nothing. -/
theorem Owns.finish {stderr : Handle} {place : Nat} {process : Process}
    (owns : chain.Owns stderr place process) (status : WaitStatus) :
    chain.Owns stderr place (process.finish status) where
  parent := owns.parent
  unlimited := owns.unlimited
  handles := rfl

/-- What is left to be read from a pipe is what is on its way, and what has still to be written. -/
theorem unread_succ (machine : Machine) (unsent : Nat → Bytes) (place : Nat) :
    chain.unread machine unsent (place + 1) = machine.transit (chain.pipe + place) ++ unsent place :=
  rfl

/-- What is left to be read from the first file is what comes after its offset. -/
theorem unread_zero {opening : Opening} (found : machine.openings[chain.feed]? = some opening) :
    chain.unread machine unsent 0 = chain.text.drop opening.offset := by
  simp [unread, found]

/-- The two files are open by openings of their own. -/
theorem Ports.feed_ne_drain {files : FileSystem} {openings : List Opening} {rest : Bytes}
    (ports : chain.Ports files openings rest) {opening : Opening}
    (found : openings[chain.drain]? = some opening) : chain.drain ≠ chain.feed := by
  intro same
  have file := (ports.drain opening found).1
  rw [same] at found
  exact chain.apart ((ports.feed opening found).1.symm.trans file)

/-- The first file is read through an opening of its own. -/
theorem Ports.set_feed {files : FileSystem} {openings : List Opening} {rest : Bytes}
    (ports : chain.Ports files openings rest) {opening : Opening}
    (found : openings[chain.feed]? = some opening) (offset : Nat) :
    chain.Ports files (openings.set chain.feed { opening with offset }) rest where
  source := ports.source
  feed := by
    rw [List.getElem?_set_self (List.getElem?_eq_some_iff.mp found).1]
    rintro _ ⟨⟩
    exact ports.feed opening found
  drain other there := by
    by_cases same : chain.feed = chain.drain
    · rw [same] at found
      exact absurd same.symm (ports.feed_ne_drain found)
    · rw [List.getElem?_set_ne same] at there
      exact ports.drain other there

/-- The second file is written through an opening of its own. -/
theorem Ports.set_drain {before after : FileSystem} {openings : List Opening} {rest data : Bytes}
    (ports : chain.Ports before openings (data ++ rest)) {opening : Opening}
    (found : openings[chain.drain]? = some opening) {content : Bytes}
    (known : before.content? chain.sink = some content)
    (written : after.content? chain.sink = some (content ++ data))
    (others : ∀ other, chain.sink ≠ other → after.content? other = before.content? other) :
    chain.Ports after
      (openings.set chain.drain { opening with offset := content.length + data.length }) rest where
  source := (others _ (Ne.symm chain.apart)).trans ports.source
  feed := by
    rw [List.getElem?_set_ne (ports.feed_ne_drain found)]
    exact ports.feed
  drain := by
    rw [List.getElem?_set_self (List.getElem?_eq_some_iff.mp found).1]
    rintro _ ⟨⟩
    -- The opening stands behind what has been written now, where the rest will go.
    obtain ⟨file, writable, held, there, _, whole⟩ := ports.drain opening found
    cases known.symm.trans there
    refine ⟨file, writable, _, written, .inr (List.length_append ..).symm, ?_⟩
    rw [List.append_assoc, whole]

/-- A stage whose pipe nobody can write has nothing left to write. -/
theorem Passing.unsent_of_alone (passing : chain.Passing machine unsent) {place : Nat}
    (inside : place < machine.processes.length) (inner : place + 1 < chain.filters.length)
    (alone : machine.hasWriter (chain.pipe + place) = false) : unsent place = [] := by
  have found := List.getElem?_eq_getElem inside
  have filter := List.getElem?_eq_getElem (Nat.lt_of_succ_lt inner)
  have owns := passing.owns place _ found
  have does := passing.stages place _ filter
  rw [found, Option.map_some] at does
  -- As long as its process is not over, that can write the pipe.
  cases alive : machine.processes[place].alive with
  | true =>
    have holds : (1, .writer (chain.pipe + place)) ∈ machine.processes[place].handles := by
      rw [owns.handles, if_pos alive, outlet, if_neg (Nat.ne_of_lt inner)]
      simp
    rw [Machine.hasWriter_of_mem (List.getElem_mem inside) holds] at alone
    cases alone
  | false => exact (does.exhausted alive).2

/-- A pipe that a stage still writes is read: by the next stage, or for it by the interpreter. -/
theorem Passing.hasReader (passing : chain.Passing machine unsent) {place : Nat}
    (inside : place < machine.processes.length) (inner : place + 1 < chain.filters.length)
    (pending : unsent place ≠ [])
    (held : machine.processes.length = place + 1 →
      .reader (chain.pipe + place) ∈ machine.held) :
    machine.hasReader (chain.pipe + place) = true := by
  have does := passing.stages (place + 1) _ (List.getElem?_eq_getElem inner)
  rcases Nat.lt_or_ge (place + 1) machine.processes.length with there | absent
  · have reading := List.getElem?_eq_getElem there
    rw [reading, Option.map_some] at does
    cases alive : machine.processes[place + 1].alive with
    | true =>
      have holds : (0, .reader (chain.pipe + place)) ∈ machine.processes[place + 1].handles := by
        rw [(passing.owns _ _ reading).handles, if_pos alive]
        exact List.mem_cons_self
      exact Machine.hasReader_of_mem (List.getElem_mem there) holds
    | false =>
      -- A stage that is over would have read everything.
      exact absurd (List.append_eq_nil_iff.mp (does.exhausted alive).1).2 pending
  · exact Machine.hasReader_of_held (held (by omega))

section

variable (passing : chain.Passing machine unsent) {place : Nat} {filter : Filter}
  (at_place : chain.filters[place]? = some filter) {process : Process}
  (found : machine.processes[place]? = some process)

include passing at_place found

section

variable {limit : Nat} {next : Except Errno Bytes → Behaviour}
  (running : process.progress = .running (.ask (.read 0 limit) next))
  (gathers : (Behaviour.ask (.read 0 limit) next).Gathers
    (filter.apply (chain.stream place)) filter.code (chain.unread machine unsent place))
  (untouched : unsent place = filter.apply (chain.stream place))

include running gathers untouched

/-- What the process of a stage reads is what it has no longer to read. -/
theorem Passing.reads {pipes : List Pipe} {openings : List Opening} {data : Bytes}
    (pipes_same : pipes.length = machine.pipes.length)
    (openings_same : openings.length = machine.openings.length)
    (split : chain.unread machine unsent place =
      data ++ chain.unread { machine with pipes, openings } unsent place)
    (within : data.length ≤ limit) (ended : data = [] → chain.unread machine unsent place = [])
    (unread : ∀ next, next ≠ place → chain.unread { machine with pipes, openings } unsent next =
      chain.unread machine unsent next)
    (ports : chain.Ports machine.files openings (unsent (chain.filters.length - 1))) :
    chain.Passing ({ machine with pipes, openings }.resume (place + 1) (next (.ok data))) unsent ∧
      chain.Steady machine
        ({ machine with pipes, openings }.resume (place + 1) (next (.ok data))) := by
  have alive : process.alive = true := by simp [Process.alive, running]
  have known : ({ machine with pipes, openings } : Machine).process? (place + 1) = some process :=
    found
  rw [Machine.resume_of_alive known alive]
  refine passing.update at_place found
    ((passing.owns place process found).running alive (next (.ok data))) (fun _ _ => rfl)
    (fun _ => rfl) pipes_same openings_same ?_ (fun other _ => unread other) ports
  rw [untouched]
  exact .read gathers split within ended

/-- The first stage reads a file. -/
theorem Passing.readsFile (first : place = 0) (limited : 0 < limit) {after : Machine}
    (stepped : (machine.readHandle (chain.inlet place) limit).map
      (fun answer => answer.2.resume (place + 1) (next answer.1)) = some after) :
    chain.Passing after unsent ∧ chain.Steady machine after := by
  subst first
  have fed := passing.fed (List.length_pos_of_mem (List.mem_of_getElem? found))
  have opening := List.getElem?_eq_getElem fed
  obtain ⟨file, readable⟩ := passing.ports.feed _ opening
  have text := passing.ports.source
  rw [← file] at text
  simp only [inlet, Machine.readHandle_file opening readable text, Option.map_some,
    Option.some.injEq] at stepped
  subst stepped
  -- What has been read lies in front of the new offset, and no pipe changes.
  refine passing.reads at_place found running gathers untouched rfl (List.length_set ..) ?_
    (List.length_take_le ..) (fun nothing => ?_) ?_ (passing.ports.set_feed opening _)
  · rw [unread_zero opening, unread_zero (List.getElem?_set_self fed), ← List.drop_drop]
    exact (List.prefix_iff_eq_append.mp (List.take_prefix limit _)).symm
  · rw [unread_zero opening]
    exact (List.take_eq_nil_iff.mp nothing).resolve_left (Nat.ne_of_gt limited)
  · intro other apart
    cases other with
    | zero => exact absurd rfl apart
    | succ other => rfl

/-- Any other stage reads the pipe behind the one before it. -/
theorem Passing.readsPipe {before : Nat} (behind : place = before + 1) (limited : 0 < limit)
    {after : Machine} (stepped : (machine.readHandle (chain.inlet place) limit).map
      (fun answer => answer.2.resume (place + 1) (next answer.1)) = some after) :
    chain.Passing after unsent ∧ chain.Steady machine after := by
  subst behind
  have inside : before + 1 < machine.processes.length := (List.getElem?_eq_some_iff.mp found).1
  have inner : before + 1 < chain.filters.length := (List.getElem?_eq_some_iff.mp at_place).1
  have there := passing.made before (Nat.lt_of_succ_lt inside) inner
  obtain ⟨⟨reply, middle⟩, answered, same⟩ := Option.map_eq_some_iff.mp stepped
  subst same
  rcases Machine.cases_of_readHandle there answered with
    ⟨empty, alone, rfl, rfl⟩ | ⟨filled, rfl, pipe, content, rfl⟩
  · -- The end of the stream is seen only when the stage before has written everything.
    refine passing.reads at_place found running gathers untouched rfl rfl rfl (Nat.zero_le _)
      (fun _ => ?_) (fun _ _ => rfl) passing.ports
    rw [unread, empty, passing.unsent_of_alone (Nat.lt_of_succ_lt inside) inner alone]
    rfl
  · -- What is taken out of the pipe is what the stage has read, and no other pipe changes.
    have left := @Machine.transit_set machine _ pipe there
    refine passing.reads at_place found running gathers untouched (List.length_set ..) rfl ?_
      (List.length_take_le ..) (fun nothing => ?_) ?_ passing.ports
    · rw [unread, unread, left, if_pos rfl, content, ← List.append_assoc, List.take_append_drop]
    · exact absurd ((List.take_eq_nil_iff.mp nothing).resolve_left (Nat.ne_of_gt limited)) filled
    · intro other apart
      cases other with
      | zero => rfl
      | succ other =>
        rw [unread, unread, left, if_neg (by omega)]

/-- The process of a stage reads some of what it has still to read. -/
theorem Passing.read {after : Machine} (stepped : machine.stepProcess (place + 1) = some after) :
    chain.Passing after unsent ∧ chain.Steady machine after := by
  have alive : process.alive = true := by simp [Process.alive, running]
  have owns := passing.owns place process found
  have known : machine.process? (place + 1) = some process := found
  have limited : 0 < limit := by
    cases gathers with
    | read asked => exact asked
  rw [Machine.stepProcess_read known running, Machine.serve, (owns.handle? alive).1] at stepped
  cases first : place with
  | zero =>
    exact passing.readsFile at_place found running gathers untouched first limited stepped
  | succ before =>
    exact passing.readsPipe at_place found running gathers untouched first limited stepped

end

section

variable {data : Bytes} {next : Except Errno Nat → Behaviour}
  (running : process.progress = .running (.ask (.write 1 data) next))
  (writes : (Behaviour.ask (.write 1 data) next).Writes filter.code (unsent place))
  (finished : chain.unread machine unsent place = [])

include running writes finished

/-- What the process of a stage writes is what it has no longer to write. -/
theorem Passing.sends {files : FileSystem} {pipes : List Pipe} {openings : List Opening}
    {count : Nat} (positive : 0 < count) (within : count ≤ data.length) {left : Nat → Bytes}
    (left_eq : left = Function.update unsent place ((unsent place).drop count))
    (files_same : machine.processes.length < chain.filters.length → files = machine.files)
    (pipes_same : pipes.length = machine.pipes.length)
    (openings_same : openings.length = machine.openings.length)
    (unread : ∀ next, next < chain.filters.length →
      chain.unread { machine with pipes, openings } left next = chain.unread machine unsent next)
    (ports : chain.Ports files openings (left (chain.filters.length - 1))) :
    chain.Passing
        ({ machine with files, pipes, openings }.resume (place + 1) (next (.ok count))) left ∧
      chain.Steady machine
        ({ machine with files, pipes, openings }.resume (place + 1) (next (.ok count))) := by
  have alive : process.alive = true := by simp [Process.alive, running]
  have known : ({ machine with files, pipes, openings } : Machine).process? (place + 1) =
      some process :=
    found
  rw [Machine.resume_of_alive known alive]
  refine passing.update at_place found
    ((passing.owns place process found).running alive (next (.ok count)))
    (fun other apart => by rw [left_eq, Function.update_of_ne apart])
    files_same pipes_same openings_same ?_ (fun other inner _ => unread other inner) ports
  -- Of what the stage has still to write, the bytes that have been taken are dropped.
  rw [unread place (List.getElem?_eq_some_iff.mp at_place).1, finished, left_eq,
    Function.update_self]
  exact .writing (writes.offer.2.2 count positive within)

/-- The last stage writes a file. -/
theorem Passing.sendsFile (last : place + 1 = chain.filters.length) {reply : Except Errno Nat}
    {after : Machine}
    (answered : machine.writeHandle (chain.outlet place) data none = some (reply, after)) :
    ∃ count left, reply = .ok count ∧
      chain.Passing (after.resume (place + 1) (next (.ok count))) left ∧
      chain.Steady machine (after.resume (place + 1) (next (.ok count))) := by
  obtain ⟨filled, ⟨others, offered⟩, _⟩ := writes.offer
  have inside : place < machine.processes.length := (List.getElem?_eq_some_iff.mp found).1
  have all : machine.processes.length = chain.filters.length := by
    have few := passing.few
    omega
  have opening := List.getElem?_eq_getElem (passing.drained all)
  have ports := passing.ports
  obtain ⟨file, writable, content, there, ending, _⟩ := ports.drain _ opening
  rw [← file] at there
  obtain ⟨files, written, holds, untouched⟩ :=
    Machine.writeHandle_ending opening writable there ending filled
  rw [outlet, if_pos last, written] at answered
  cases answered
  have taken : (unsent place).drop data.length = others := by rw [← offered, List.drop_left]
  -- A file takes everything at once.
  refine ⟨_, _, rfl, passing.sends at_place found running writes finished
    (List.length_pos_iff.mpr filled) (Nat.le_refl _) rfl
    (fun few => absurd all (Nat.ne_of_lt few)) rfl (List.length_set ..) ?_ ?_⟩
  · intro other inner
    cases other with
    | zero =>
      unfold unread
      rw [List.getElem?_set_ne (ports.feed_ne_drain opening)]
    | succ other =>
      have apart : other ≠ place := by omega
      exact congrArg _ (Function.update_of_ne apart ..)
  · rw [← last, Nat.add_sub_cancel, ← offered] at ports
    rw [← last, Nat.add_sub_cancel, Function.update_self, taken]
    rw [file] at there holds untouched
    exact ports.set_drain opening there holds untouched

/-- Any other stage writes its pipe. -/
theorem Passing.sendsPipe (inner : place + 1 < chain.filters.length)
    (held : machine.processes.length = place + 1 → .reader (chain.pipe + place) ∈ machine.held)
    {reply : Except Errno Nat} {after : Machine}
    (answered : machine.writeHandle (chain.outlet place) data none = some (reply, after)) :
    ∃ count left, reply = .ok count ∧
      chain.Passing (after.resume (place + 1) (next (.ok count))) left ∧
      chain.Steady machine (after.resume (place + 1) (next (.ok count))) := by
  obtain ⟨filled, ⟨others, offered⟩, _⟩ := writes.offer
  have inside : place < machine.processes.length := (List.getElem?_eq_some_iff.mp found).1
  have there := passing.made place inside inner
  have pending : unsent place ≠ [] := by
    rw [← offered]
    simp [filled]
  have reader := passing.hasReader inside inner pending held
  rw [outlet, if_neg (Nat.ne_of_lt inner)] at answered
  obtain ⟨count, positive, within, rfl, pipe, content, rfl⟩ :=
    Machine.taken_of_writeHandle there reader filled answered
  refine ⟨count, _, rfl, passing.sends at_place found running writes finished positive within rfl
    (fun _ => rfl) (List.length_set ..) rfl ?_ ?_⟩
  · intro other inner
    cases other with
    | zero => rfl
    | succ other =>
      rw [unread_succ, unread_succ, Machine.transit_set machine there]
      -- What is put into the pipe is taken from what the stage has to write, in front.
      by_cases same : other = place
      · subst same
        have taken : data.take count = (unsent other).take count := by
          rw [← offered, List.take_append_of_le_length within]
        rw [if_pos rfl, Function.update_self, content, List.append_assoc, taken,
          List.take_append_drop]
      · rw [if_neg (by omega), Function.update_of_ne same]
  · rw [Function.update_of_ne (by omega)]
    exact passing.ports

/-- The process of a stage writes some of what it has still to write. -/
theorem Passing.write (held : place + 1 < chain.filters.length →
      machine.processes.length = place + 1 → .reader (chain.pipe + place) ∈ machine.held)
    {after : Machine} (stepped : machine.stepProcess (place + 1) = some after) :
    ∃ left, chain.Passing after left ∧ chain.Steady machine after := by
  have alive : process.alive = true := by simp [Process.alive, running]
  have known : machine.process? (place + 1) = some process := found
  have owns := passing.owns place process found
  have among : place < chain.filters.length := (List.getElem?_eq_some_iff.mp at_place).1
  rw [Machine.stepProcess_write known running, Machine.serve, (owns.handle? alive).2,
    owns.unlimited] at stepped
  cases answered : machine.writeHandle (chain.outlet place) data none with
  | none => simp [answered] at stepped
  | some answer =>
    obtain ⟨reply, middle⟩ := answer
    obtain ⟨count, left, rfl, passing, steady⟩ : ∃ count left, reply = .ok count ∧
        chain.Passing (middle.resume (place + 1) (next (.ok count))) left ∧
        chain.Steady machine (middle.resume (place + 1) (next (.ok count))) := by
      rcases Nat.lt_or_eq_of_le (Nat.succ_le_of_lt among) with inner | last
      · exact passing.sendsPipe at_place found running writes finished inner (held inner) answered
      · exact passing.sendsFile at_place found running writes finished last answered
    -- Whatever has been granted, no signal comes of it.
    simp only [answered, Option.map_some, Option.some.injEq] at stepped
    subst stepped
    exact ⟨left, passing, steady⟩

end

/-- A process that has ended has done all that its stage has to do. -/
theorem Passing.exit {code : UInt8} (running : process.progress = .running (.exit code))
    (writes : (Behaviour.exit code).Writes filter.code (unsent place))
    (finished : chain.unread machine unsent place = []) {after : Machine}
    (stepped : machine.stepProcess (place + 1) = some after) :
    chain.Passing after unsent ∧ chain.Steady machine after := by
  have alive : process.alive = true := by simp [Process.alive, running]
  have known : machine.process? (place + 1) = some process := found
  have owns := passing.owns place process found
  -- Nobody is told, since the process is the interpreter's own.
  rw [Machine.stepProcess_exit known running,
    Machine.conclude_of_own known alive owns.parent] at stepped
  cases stepped
  refine passing.update at_place found (owns.finish _) (fun _ _ => rfl) (fun _ => rfl) rfl rfl ?_
    (fun _ _ _ => rfl) passing.ports
  change filter.Does _ (chain.unread machine unsent place) _ _
  rw [finished]
  generalize unsent place = rest at writes
  cases writes
  exact .ended

end

/-- Every step of a process passes bytes on: none is lost, none is added and none gets out
of turn. -/
theorem Passing.stepProcess (passing : chain.Passing machine unsent)
    (held : ∀ place, place + 1 < chain.filters.length → machine.processes.length = place + 1 →
      .reader (chain.pipe + place) ∈ machine.held)
    {number : Nat} {after : Machine} (stepped : machine.stepProcess number = some after) :
    ∃ left, chain.Passing after left ∧ chain.Steady machine after := by
  cases number with
  | zero => simp [Machine.stepProcess, Machine.process?] at stepped
  | succ place =>
    cases found : machine.processes[place]? with
    | none => simp [Machine.stepProcess, Machine.process?, found] at stepped
    | some process =>
      have inside : place < machine.processes.length := (List.getElem?_eq_some_iff.mp found).1
      have at_place := List.getElem?_eq_getElem (Nat.lt_of_lt_of_le inside passing.few)
      have does := passing.stages place _ at_place
      rw [found, Option.map_some] at does
      -- The cases are those of what a stage can be doing; a filter reads before it writes.
      generalize running : process.progress = progress at does
      generalize finished : chain.unread machine unsent place = unread at does
      generalize pending : unsent place = rest at does
      cases does with
      | gathering gathers =>
        cases id gathers with
        | read =>
          exact ⟨unsent, passing.read at_place found running (finished ▸ gathers) pending stepped⟩
      | writing writes =>
        cases id writes with
        | exit =>
          exact ⟨unsent, passing.exit at_place found running (pending ▸ writes) finished stepped⟩
        | write =>
          exact passing.write at_place found running (pending ▸ writes) finished (held place) stepped
      | ended | reaped => simp [Machine.stepProcess, Machine.process?, found, running] at stepped

end Chain

end LineShell
