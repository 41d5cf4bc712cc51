import LineShell.Proofs.Search.Kinds
import LineShell.Proofs.Streams.Contents
import Mathlib.Data.List.Nodup

/-! Emptying: what is changed when a file is opened to be written from its start. -/

namespace LineShell

namespace Node

/-- Whether a node is a file with a content, or a directory. -/
def isPlain (node : Node) : Bool :=
  node.isRegular || node.isDirectory

/-- Permission bits that have been changed once are not changed again. -/
theorem changedMode_changedMode (mode : Nat) :
    changedMode (changedMode mode) = changedMode mode := by
  -- What is taken away is gone, and the bit that decides about that is spared.
  have gone (mask : Nat) : (mode ^^^ (mode &&& mask)) &&& mask = 0 := by
    apply Nat.eq_of_testBit_eq
    intro index
    simp
  have spared (mask : Nat) (apart : mask &&& 0o010 = 0) :
      (mode ^^^ (mode &&& mask)) &&& 0o010 = mode &&& 0o010 := by
    apply Nat.eq_of_testBit_eq
    intro index
    have bits := congrArg (Nat.testBit · index) apart
    simp only [Nat.testBit_and, Nat.zero_testBit] at bits
    simp only [Nat.testBit_and, Nat.testBit_xor]
    generalize mask.testBit index = masked at bits ⊢
    cases mode.testBit index <;> cases masked <;> simp_all
  -- So the second change takes the same bits away, and finds none of them.
  unfold changedMode
  split
  · rename_i clear
    rw [spared 0o4000 rfl, if_pos clear, gone, Nat.xor_zero]
  · rename_i set
    rw [spared 0o6000 rfl, if_neg set, gone, Nat.xor_zero]

/-- The permission bits that a file has when it has been created or emptied, by what was there
before. -/
inductive Emptied : Option Node → Nat → Prop
  | created : Emptied none Machine.heldMode
  | emptied (mode : Nat) (content : Bytes) :
    Emptied (some (.regular mode content)) (changedMode mode)

/-- Emptying a file twice is emptying it once. -/
theorem Emptied.again {before : Option Node} {mode : Nat} (emptied : Emptied before mode) :
    Emptied before (changedMode mode) := by
  cases emptied with
  | created => exact .created
  | emptied mode content =>
    rw [changedMode_changedMode]
    exact .emptied mode content

end Node

namespace FileSystem

/-- No file has two names, and every name is that of a file. -/
structure IsTree (files : FileSystem) : Prop where
  stored : ∀ place number, files.number? place = some number → number < files.files.length
  single : ∀ place other number, files.number? place = some number →
    files.number? other = some number → place = other

/-- A file has been created or emptied at a place, and nothing else has been changed. -/
structure Empties (files : FileSystem) (place : Location) (after : FileSystem) : Prop where
  others : ∀ other, other ≠ place → after.at? other = files.at? other
  target : ∃ mode, Node.Emptied (files.find? place) mode ∧
    after.find? place = some (.regular mode [])
  tree : after.IsTree

variable {files after : FileSystem} {place : Location}

/-- The names tell whether a file has two of them. -/
theorem isTree_of_names (stored : ∀ entry ∈ files.names, entry.2 < files.files.length)
    (single : (files.names.map (·.2)).Nodup) : files.IsTree := by
  -- What has a number at a place is among the names.
  have known {place : Location} {number : Nat} (named : files.number? place = some number) :
      (place, number) ∈ files.names := by
    obtain ⟨⟨other, _⟩, found, rfl⟩ := Option.map_eq_some_iff.mp named
    have here : other = place := by simpa using List.find?_some found
    exact here ▸ List.mem_of_find?_eq_some found
  refine ⟨fun place number named => stored _ (known named), fun place other number one two => ?_⟩
  exact congrArg Prod.fst (List.inj_on_of_nodup_map single (known one) (known two) rfl)

/-- What stands at a place is the file of its number. -/
theorem IsTree.at?_eq_none_iff (tree : files.IsTree) :
    files.at? place = none ↔ files.number? place = none := by
  rw [at?]
  cases found : files.number? place with
  | none => simp
  | some number =>
    have stored := tree.stored place number found
    simp [file?, stored]

/-- A file that is changed is changed at its own place only. -/
theorem empties_update (tree : files.IsTree) {number mode : Nat} {content : Bytes} {file : File}
    (named : files.number? place = some number) (found : files.file? number = some file)
    (regular : file.node = .regular mode content) (now : Int) :
    files.Empties place (files.update number fun file =>
      { file with node := .regular (Node.changedMode mode) [], modified := now }) := by
  refine ⟨fun other apart => ?_, ⟨Node.changedMode mode, ?_, ?_⟩, ?_, ?_⟩
  · -- Another place has another file.
    rw [at?, at?]
    change (files.number? other).bind _ = _
    cases there : files.number? other with
    | none => rfl
    | some stranger =>
      have unlike : number ≠ stranger := by
        rintro rfl
        exact apart (tree.single other place number there named)
      rw [Option.bind_some, Option.bind_some, file?_update, if_neg unlike]
  · -- The file has been a regular one, so it is emptied and not created.
    have before : files.find? place = some (.regular mode content) := by
      simp [find?, at?, named, found, regular]
    rw [before]
    exact .emptied mode content
  · rw [find?, at?]
    change ((files.number? place).bind _).map _ = _
    simp [named, file?_update, found]
  · intro other stranger there
    have stored := tree.stored other stranger there
    simpa [update] using stored
  · exact tree.single

/-- A file that is added is added at its own place only. -/
theorem empties_add (tree : files.IsTree) (missing : files.number? place = none) (now : Int) :
    files.Empties place (files.add place
      { node := .regular Machine.heldMode [], modified := now }).2 := by
  have named : (files.add place { node := .regular Machine.heldMode [], modified := now }).2.number?
      place = some files.files.length := number?_setName_same ..
  have spared {other : Location} (apart : other ≠ place) :
      (files.add place { node := .regular Machine.heldMode [], modified := now }).2.number? other =
        files.number? other := number?_setName_other apart
  refine ⟨fun other apart => ?_, ⟨Machine.heldMode, ?_, ?_⟩, ?_, ?_⟩
  · -- The new file is behind all those that have a name.
    rw [at?, at?, spared apart]
    cases there : files.number? other with
    | none => rfl
    | some number =>
      have stored := tree.stored other number there
      rw [Option.bind_some, Option.bind_some, file?_add, if_neg (Nat.ne_of_lt stored)]
  · have nothing : files.find? place = none := by simp [find?, at?, missing]
    rw [nothing]
    exact .created
  · rw [find?, at?, named, Option.bind_some, file?_add, if_pos rfl]
    rfl
  · intro other number there
    have longer : (files.add place
        { node := .regular Machine.heldMode [], modified := now }).2.files.length =
          files.files.length + 1 := by simp [add, setName]
    rw [longer]
    by_cases same : other = place
    · rw [same, named] at there
      cases there
      exact Nat.lt_succ_self _
    · rw [spared same] at there
      exact Nat.lt_succ_of_lt (tree.stored other number there)
  · intro first second number one other
    -- The number of the new file is no other's.
    have fresh {elsewhere : Location} (apart : elsewhere ≠ place) :
        (files.add place { node := .regular Machine.heldMode [], modified := now }).2.number?
          elsewhere ≠ some files.files.length := by
      rw [spared apart]
      exact fun there => Nat.lt_irrefl _ (tree.stored elsewhere _ there)
    by_cases here : first = place
    · by_cases there : second = place
      · rw [here, there]
      · rw [here, named] at one
        exact absurd (one ▸ other) (fresh there)
    · by_cases there : second = place
      · rw [there, named] at other
        exact absurd (other ▸ one) (fresh here)
      · rw [spared here] at one
        rw [spared there] at other
        exact tree.single first second number one other

/-- A regular file that is opened to be written from its start is emptied. -/
theorem empties_of_openExisting (tree : files.IsTree) {number : Nat} {file : File}
    (named : files.number? place = some number) (found : files.file? number = some file)
    (plain : file.node.isPlain = true) {now : Int}
    (opened : files.openExisting number file .replacing now = .ok after) :
    files.Empties place after := by
  -- Only a regular file can be opened so, since a directory is not written.
  cases node : file.node with
  | regular mode content =>
    have emptied := empties_update tree named found node now
    simp only [openExisting, node, Manner.replacing] at opened
    split at opened
    · cases opened
    split at opened
    · cases opened
    split at opened
    · cases opened
    · cases opened
      exact emptied
  | directory => simp [openExisting, node, Node.isDirectory, Manner.replacing] at opened
  | link | fifo | device => simp [node, Node.isPlain, Node.isRegular, Node.isDirectory] at plain

/-- No name is given or taken when a file is opened that there is. -/
theorem number?_of_openExisting {number : Nat} {file : File} {manner : Manner} {now : Int}
    (opened : files.openExisting number file manner now = .ok after) (place : Location) :
    after.number? place = files.number? place := by
  -- Whatever is checked on the way, only the content and the time of a file can change.
  unfold openExisting at opened
  split at opened
  · cases opened
  split at opened
  · cases opened
  split at opened
  · cases opened
  split at opened
  · split at opened
    · cases opened
      rfl
    · cases opened
      rfl
  · cases opened
    rfl

/-- A path that is opened to be written from its start leads to a regular file, which is created or
emptied. -/
theorem empties_of_openPath (tree : files.IsTree) {directory : Location} {path : String}
    (plain : ∀ place node, files.placeToCreate directory path false = .ok place →
      files.find? place = some node → node.isPlain = true) {number : Nat} {now : Int}
    (opened : files.openPath directory path .replacing Machine.heldMode now =
      .ok (number, after)) :
    ∃ place, files.placeToCreate directory path false = .ok place ∧ files.Empties place after ∧
      after.number? place = some number := by
  unfold openPath at opened
  simp only [Manner.replacing, if_true] at opened
  obtain ⟨place, placed, opened⟩ := Machine.exists_of_bind_ok opened
  refine ⟨place, placed, ?_⟩
  -- Either there is a file at the place, which is emptied, or one is created there.
  split at opened
  · rename_i found file named there
    simp only [Bool.false_eq_true, if_false] at opened
    obtain ⟨middle, existing, same⟩ := Machine.exists_of_bind_ok opened
    cases same
    have stored : files.file? number = some file := by simpa [at?, named] using there
    have known : file.node.isPlain = true :=
      plain place file.node placed (by rw [find?, there]; rfl)
    refine ⟨empties_of_openExisting tree named stored known existing, ?_⟩
    rw [number?_of_openExisting existing, named]
  · rename_i absent
    obtain ⟨_, _, same⟩ := Machine.exists_of_bind_ok opened
    have missing : files.number? place = none := by
      cases named : files.number? place with
      | none => rfl
      | some number =>
        cases there : files.at? place with
        | none => rw [tree.at?_eq_none_iff.mp there] at named; cases named
        | some file => exact absurd there (absent number file named)
    have added := empties_add tree missing now
    rw [Except.ok.inj same] at added
    cases same
    exact ⟨empties_add tree missing now, number?_setName_same ..⟩

end FileSystem

/-- A plain file is opened by an opening of its own, and no descriptor or pipe has to do with it. -/
theorem Machine.openFile_plain {machine : Machine} {directory : Location}
    {handle? : Nat → Option Handle} {path : String} {manner : Manner} {mode number : Nat}
    {files : FileSystem} {file : File}
    (found : machine.files.openPath directory path manner mode machine.clock = .ok (number, files))
    (stored : files.file? number = some file) (plain : file.node.isPlain = true) :
    machine.openFile directory handle? path manner mode =
      .ok ({ machine with files }.addOpening {
        file := number
        readable := manner.reads
        writable := manner.writes
        appending := manner.appends }) := by
  obtain ⟨node, own, modified⟩ := file
  cases node with
  | regular | directory =>
    simp [openFile, found, stored, bind, Except.bind, pure, Except.pure]
  | link | fifo | device => cases plain

end LineShell
