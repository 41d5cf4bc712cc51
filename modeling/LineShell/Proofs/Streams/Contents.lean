import LineShell.Proofs.Machine.Onward

/-! Contents: what is in the files of a tree, and what opening, reading and writing them does to
that. -/

namespace LineShell.FileSystem

/-- What is in a file that keeps bytes. -/
def content? (files : FileSystem) (number : Nat) : Option Bytes :=
  match files.file? number with
  | some { node := .regular _ content, .. } => some content
  | _ => none

variable {files after : FileSystem} {number other : Nat} {content : Bytes}

/-- Such a file is a regular one. -/
theorem exists_of_content? (found : files.content? number = some content) :
    ∃ file mode, files.file? number = some file ∧ file.node = .regular mode content := by
  unfold content? at found
  split at found
  · cases found
    exact ⟨_, _, by assumption, rfl⟩
  · cases found

/-- A regular file has its content. -/
theorem content?_of_regular {file : File} {mode : Nat} (found : files.file? number = some file)
    (regular : file.node = .regular mode content) : files.content? number = some content := by
  obtain ⟨node, own, modified⟩ := file
  cases regular
  simp [content?, found]

/-- Where the same file is, there is the same content. -/
theorem content?_congr (same : after.file? number = files.file? number) :
    after.content? number = files.content? number := by
  rw [content?, same, content?]

/-- A file that is changed is the only one to change. -/
theorem file?_update (files : FileSystem) (number : Nat) (change : File → File) (other : Nat) :
    (files.update number change).file? other =
      if number = other then (files.file? other).map change else files.file? other := by
  simp only [update, file?, List.getElem?_modify]
  split <;> simp

/-- A file that is added is behind all others. -/
theorem file?_add (files : FileSystem) (place : Location) (file : File) (other : Nat) :
    (files.add place file).2.file? other =
      if other = files.files.length then some file else files.file? other := by
  simp only [add, setName, file?]
  rcases Nat.lt_trichotomy other files.files.length with less | same | more
  · rw [List.getElem?_append_left less, if_neg (Nat.ne_of_lt less)]
  · simp [same]
  · rw [if_neg (Nat.ne_of_gt more), List.getElem?_eq_none (by simp; omega),
      List.getElem?_eq_none (by omega)]

/-- Reading gives what is in the file. -/
theorem readAt_of_content? (found : files.content? number = some content) (offset limit : Nat) :
    files.readAt number offset limit = .ok ((content.drop offset).take limit) := by
  obtain ⟨⟨node, own, modified⟩, mode, at_number, regular⟩ := exists_of_content? found
  cases regular
  simp [readAt, at_number]

/-- Writing over nothing from the end of a content on is writing behind it. -/
theorem overwrite_length (content data : Bytes) :
    overwrite content content.length data = content ++ data := by
  simp [overwrite]

/-- Writing at the end of a file leaves it with what it had and what has been written, and all
others as they were. -/
theorem writeAt_of_content? (found : files.content? number = some content) {offset : Option Nat}
    (ending : offset.getD content.length = content.length) (data : Bytes) (modified : Int) :
    ∃ after, files.writeAt number offset data modified =
        .ok (content.length + data.length, after) ∧
      after.content? number = some (content ++ data) ∧
      ∀ other, number ≠ other → after.content? other = files.content? other := by
  obtain ⟨⟨node, own, time⟩, mode, at_number, regular⟩ := exists_of_content? found
  cases regular
  -- With or without an offset, it comes to the same file.
  have written (after : FileSystem) (same : after = files.update number fun _ =>
      { node := .regular (Node.changedMode mode) (content ++ data), own, modified }) :
      after.content? number = some (content ++ data) ∧
        ∀ other, number ≠ other → after.content? other = files.content? other := by
    subst same
    refine ⟨?_, fun other apart => content?_congr ?_⟩
    · simp [content?, file?_update, at_number]
    · rw [file?_update, if_neg apart]
  cases offset with
  | none => exact ⟨_, by simp [writeAt, at_number], written _ rfl⟩
  | some offset =>
    obtain rfl : offset = content.length := ending
    exact ⟨_, by simp [writeAt, at_number, overwrite_length], written _ rfl⟩

/-- What is left of the content of a file when it is opened. -/
theorem content?_of_openExisting {file : File} {manner : Manner} {now : Int}
    (found : files.file? number = some file)
    (opened : files.openExisting number file manner now = .ok after) :
    (∀ other, number ≠ other → after.content? other = files.content? other) ∧
      after.content? number =
        (files.content? number).map fun content => if manner.empties then [] else content := by
  obtain ⟨node, own, time⟩ := file
  unfold openExisting at opened
  -- Only a regular file can be emptied.
  split at opened
  · cases opened
  split at opened
  · cases opened
  split at opened
  · cases opened
  split at opened
  · rename_i mode content regular
    cases regular
    split at opened
    · rename_i empties
      cases opened
      refine ⟨fun other apart => content?_congr (by rw [file?_update, if_neg apart]), ?_⟩
      simp [content?, file?_update, found, empties]
    · rename_i kept
      cases opened
      exact ⟨fun _ _ => rfl, by simp [kept]⟩
  · rename_i irregular
    cases opened
    refine ⟨fun _ _ => rfl, ?_⟩
    have none_there : files.content? number = none := by
      unfold content?
      split
      · rename_i other
        cases found.symm.trans other
        exact absurd rfl (irregular _ _)
      · rfl
    rw [none_there]
    rfl

/-- A file that is not emptied is not changed when it is opened. -/
theorem eq_of_openExisting {file : File} {manner : Manner} {now : Int}
    (keeps : manner.empties = false)
    (opened : files.openExisting number file manner now = .ok after) : after = files := by
  unfold openExisting at opened
  simp only [keeps, Bool.false_eq_true, if_false] at opened
  repeat' split at opened
  all_goals first
    | cases opened
      rfl
    | cases opened

/-- A path leads to a file that there is, or to one that is added. -/
theorem cases_of_openPath {directory : Location} {path : String} {manner : Manner} {mode : Nat}
    {now : Int} (opened : files.openPath directory path manner mode now = .ok (number, after)) :
    (∃ file, files.file? number = some file ∧
        files.openExisting number file manner now = .ok after) ∨
      ∃ place, (number, after) =
        files.add place { node := .regular mode [], modified := now } := by
  unfold openPath at opened
  -- A manner that creates files resolves the path in its own way; from there on both are alike.
  cases creates : manner.creates
  all_goals
    simp only [creates, if_true, if_false, Bool.false_eq_true] at opened
    obtain ⟨place, _, opened⟩ := Machine.exists_of_bind_ok opened
    split at opened
    · rename_i number file at_place there
      split at opened
      · cases opened
      · obtain ⟨files, existing, same⟩ := Machine.exists_of_bind_ok opened
        cases same
        rw [at?, at_place] at there
        exact .inl ⟨file, there, existing⟩
    · obtain ⟨_, _, same⟩ := Machine.exists_of_bind_ok opened
      exact .inr ⟨place, (Except.ok.inj same).symm⟩

section

variable {directory : Location} {path : String} {manner : Manner} {mode : Nat} {now : Int}
  (opened : files.openPath directory path manner mode now = .ok (number, after))

include opened

/-- Opening a file leaves all others with what is in them. -/
theorem content?_other_of_openPath (apart : number ≠ other)
    (found : files.content? other = some content) : after.content? other = some content := by
  rcases cases_of_openPath opened with ⟨file, there, existing⟩ | ⟨place, same⟩
  · rw [(content?_of_openExisting there existing).1 other apart, found]
  · cases same
    rw [← found]
    exact content?_congr ((file?_add ..).trans (if_neg (Ne.symm apart)))

/-- A file that is emptied when it is opened, or added, has nothing in it. -/
theorem eq_nil_of_openPath (empties : manner.empties = true)
    (found : after.content? number = some content) : content = [] := by
  rcases cases_of_openPath opened with ⟨file, there, existing⟩ | ⟨place, same⟩
  · rw [(content?_of_openExisting there existing).2, empties] at found
    cases held : files.content? number with
    | none => simp [held] at found
    | some before => simpa [held] using found.symm
  · -- A file that is added is empty.
    cases same
    have added : (files.add place { node := .regular mode [], modified := now }).2.content?
        files.files.length = some [] :=
      content?_of_regular (by rw [file?_add, if_pos rfl]) rfl
    exact Option.some.inj (found.symm.trans added)

/-- A file that there is already, and that is not emptied, is not changed when it is opened. -/
theorem eq_of_openPath (keeps : manner.empties = false)
    (found : files.content? number = some content) : after = files := by
  rcases cases_of_openPath opened with ⟨file, there, existing⟩ | ⟨place, same⟩
  · exact eq_of_openExisting keeps existing
  · cases same
    obtain ⟨file, _, there, _⟩ := exists_of_content? found
    simp [file?] at there

end

end LineShell.FileSystem
