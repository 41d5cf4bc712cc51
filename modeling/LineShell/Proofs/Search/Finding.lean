import LineShell.Machine.Serve
import LineShell.Proofs.Machine.Onward
import LineShell.Proofs.Text.Utf8

/-! Finding: what is known of a path that the interpreter has found, and of one that the system can
execute. -/

namespace LineShell

/-- There is always one part at least. -/
theorem splitAtEvery_ne_nil (separator : Char) (text : List Char) :
    splitAtEvery separator text ≠ [] := by
  -- A separator opens a new part, and any other character belongs to the part at hand.
  induction text with
  | nil => exact List.cons_ne_nil _ _
  | cons c rest ih =>
    rw [splitAtEvery]
    split
    · exact List.cons_ne_nil _ _
    · cases parts : splitAtEvery separator rest with
      | nil => exact absurd parts ih
      | cons head tail => exact List.cons_ne_nil _ _

/-- Texts with a separator between them fall apart one by one. -/
theorem splitAtEvery_append (separator : Char) (before after : List Char) :
    splitAtEvery separator (before ++ separator :: after) =
      splitAtEvery separator before ++ splitAtEvery separator after := by
  -- The separator between the two closes the last part of the first text.
  induction before with
  | nil => simp [splitAtEvery]
  | cons c rest ih =>
    rw [List.cons_append, splitAtEvery, splitAtEvery, ih]
    split
    · rfl
    · cases parts : splitAtEvery separator rest with
      | nil => exact absurd parts (splitAtEvery_ne_nil separator rest)
      | cons head tail => rfl

/-- The parts of a text have no other characters than it. -/
theorem mem_of_mem_splitAtEvery {separator c : Char} {text part : List Char}
    (there : part ∈ splitAtEvery separator text) (member : c ∈ part) : c ∈ text := by
  -- The first part may begin with the character at hand; the others come from the rest alone.
  induction text generalizing part with
  | nil =>
    rw [List.mem_singleton.mp there] at member
    cases member
  | cons d rest ih =>
    rw [splitAtEvery] at there
    split at there
    · rcases List.mem_cons.mp there with rfl | later
      · cases member
      · exact List.mem_cons_of_mem _ (ih later member)
    · cases parts : splitAtEvery separator rest with
      | nil => exact absurd parts (splitAtEvery_ne_nil separator rest)
      | cons head tail =>
        rw [parts] at there
        rcases List.mem_cons.mp there with rfl | later
        · rcases List.mem_cons.mp member with rfl | inside
          · exact List.mem_cons_self
          · exact List.mem_cons_of_mem _ (ih (parts ▸ List.mem_cons_self) inside)
        · exact List.mem_cons_of_mem _ (ih (parts ▸ List.mem_cons_of_mem _ later) member)

namespace Search

/-- What an element of a search path holds, the whole holds. -/
theorem holds_of_mem_elements {searchPath element : String} {c : Char}
    (there : element ∈ elements searchPath) (held : holds element c = true) :
    holds searchPath c = true := by
  obtain ⟨part, member, rfl⟩ := List.mem_map.mp there
  simp only [holds, String.toList_ofList, List.contains_iff_mem] at held ⊢
  exact mem_of_mem_splitAtEvery member held

/-- A path holds nothing but what its directory and its name hold, and slashes. -/
theorem not_holds_join {directory name : String} {c : Char} (slash : c ≠ '/')
    (first : holds directory c = false) (last : holds name c = false) :
    holds (join directory name) c = false := by
  have one : "/".toList = ['/'] := rfl
  unfold holds at *
  simp only [List.contains_eq_mem, decide_eq_false_iff_not] at *
  -- A path is the name, or the name behind the directory, with a slash between them or without.
  unfold join
  split
  · exact last
  · split <;> simp [one, first, last, slash]

/-- Nothing is put before a name in the current directory. -/
@[simp] theorem join_empty (name : String) : join "" name = name := rfl

/-- A path that leads through a directory has a slash. -/
theorem holds_join {directory : String} (named : directory.isEmpty = false) (name : String) :
    holds (join directory name) '/' = true := by
  -- The slash between the two, or the one at the end of the directory.
  unfold join holds
  rw [named]
  simp only [Bool.false_eq_true, if_false]
  split
  · rename_i slash
    have member := List.mem_of_getLast? slash
    simp [member]
  · simp

/-- Only the current directory leaves a name without a slash. -/
theorem eq_empty_of_bare {directory name : String}
    (bare : holds (join directory name) '/' = false) : directory = "" := by
  -- Any other directory would bring a slash.
  cases empty : directory.isEmpty with
  | true => simpa using empty
  | false =>
    rw [holds_join empty] at bare
    cases bare

/-- A path that passes the check passes it without an error. -/
theorem check_of_passes {files : FileSystem} {directory : Location} {path : String}
    (passed : passes files directory path = true) : check files directory path = .ok () := by
  unfold passes at passed
  split at passed
  · assumption
  · cases passed

/-- What passes the check does not hold the character that ends texts inside the system. -/
theorem not_holds_of_check {files : FileSystem} {directory : Location} {path : String}
    (checked : check files directory path = .ok ()) : holds path '\x00' = false := by
  unfold check at checked
  split at checked
  · cases checked
  · rename_i clear
    simpa using clear

/-- The first candidate that passes the check has a slash, unless it is the name itself behind an
empty element of the search path. -/
theorem bare_of_find? {elements : List String} {name path : String} {files : FileSystem}
    {directory : Location}
    (found : (elements.map (join · name)).find? (passes files directory) = some path)
    (bare : holds path '/' = false) :
    path = name ∧ ∃ before after, elements = before ++ "" :: after ∧
      ∀ element ∈ before, passes files directory (join element name) = false := by
  -- Candidates and elements fall apart at the same place.
  obtain ⟨_, _, _, split, failed⟩ := List.find?_eq_some_iff_append.mp found
  obtain ⟨before, rest, rfl, rfl, joined⟩ := List.map_eq_append_iff.mp split
  obtain ⟨element, after, rfl, rfl, rfl⟩ := List.map_eq_cons_iff.mp joined
  obtain rfl := eq_empty_of_bare bare
  refine ⟨join_empty name, before, after, rfl, fun element member => ?_⟩
  simpa using failed _ (List.mem_map_of_mem member)

/-- What is found has passed the check, and has a slash unless it is the name itself, found in the
current directory. -/
theorem resolve_eq_ok {searchPath name path : String} {files : FileSystem} {directory : Location}
    (resolved : resolve searchPath files directory name = .ok path) :
    check files directory path = .ok () ∧ (holds path '/' = false →
      path = name ∧ ∃ before after, elements searchPath = before ++ "" :: after ∧
        ∀ element ∈ before, passes files directory (join element name) = false) := by
  -- An empty name is never found, a path is checked as it is, and a bare name is searched for.
  unfold resolve at resolved
  split at resolved
  · cases resolved
  · split at resolved
    · rename_i slash
      split at resolved
      · rename_i checked
        cases resolved
        refine ⟨checked, fun bare => ?_⟩
        rw [slash] at bare
        cases bare
      · cases resolved
    · split at resolved
      · rename_i found
        cases resolved
        exact ⟨check_of_passes (List.find?_some found), bare_of_find? found⟩
      · cases resolved

end Search

namespace Path

/-- One slash more between two names does not matter. -/
theorem ofString_slash {directory : String} (slash : directory.toList.getLast? = some '/')
    (name : String) : ofString (directory ++ "/" ++ name) = ofString (directory ++ name) := by
  -- The two slashes have an empty part between them, and empty parts do not count.
  obtain ⟨before, written⟩ := List.getLast?_eq_some_iff.mp slash
  have names : ((splitAtEvery '/' (before ++ '/' :: '/' :: name.toList)).filter (!·.isEmpty)) =
      (splitAtEvery '/' (before ++ '/' :: name.toList)).filter (!·.isEmpty) := by
    rw [splitAtEvery_append, splitAtEvery_append, splitAtEvery, if_pos rfl, List.filter_append,
      List.filter_append, List.filter_cons_of_neg (by decide)]
  have one : "/".toList = ['/'] := rfl
  unfold ofString
  simp only [String.toList_append, written, one, List.append_assoc, List.singleton_append]
  congr 1
  · cases before <;> rfl
  · exact congrArg (List.map String.ofList) names
  · simp [List.getLast?_append, List.getLast?_cons]

end Path

namespace FileSystem

variable {files : FileSystem} {place : Location} {directory name : String} {follow : Bool}

/-- A walk along a path with one slash more leads to the same place. -/
theorem walk_slash (slash : directory.toList.getLast? = some '/') {arrival : Arrival}
    (walked : files.walk place (directory ++ "/" ++ name) follow = .ok arrival) :
    files.walk place (directory ++ name) follow = .ok arrival := by
  -- The shorter path is not empty either, and no longer than a path may be.
  unfold walk at walked ⊢
  split at walked
  · cases walked
  · split at walked
    · cases walked
    · rename_i small
      have full : ¬ (directory ++ name).isEmpty = true := by
        intro empty
        have nothing : directory = "" := (String.append_eq_empty_iff.mp (by simpa using empty)).1
        rw [nothing] at slash
        cases slash
      have short : ¬ (directory ++ name).utf8ByteSize > Path.longestPath := by
        simp only [String.utf8ByteSize_append] at small ⊢
        omega
      rw [if_neg full, if_neg short, ← Path.ofString_slash slash]
      exact walked

/-- What a path leads to is found by the path that the interpreter checks. -/
theorem locateFile_join {found : Location × File} (named : directory.isEmpty = false)
    (located : files.locateFile place (directory ++ "/" ++ name) follow = .ok found) :
    files.locateFile place (Search.join directory name) follow = .ok found := by
  -- The interpreter puts no second slash behind a directory that ends with one; the system does.
  unfold Search.join
  rw [named]
  simp only [Bool.false_eq_true, if_false]
  split
  · rename_i slash
    obtain ⟨arrival, walked, rest⟩ := Machine.exists_of_bind_ok located
    rw [locateFile, walk_slash slash walked]
    exact rest
  · exact located

end FileSystem

/-- What can be executed has a bit that says so. -/
theorem File.hasExecuteBit_of_allows {file : File} (allowed : file.allows .execute = true) :
    file.node.hasExecuteBit = true := by
  -- Without any execute bit, none of the three digits has its lowest bit set.
  have bit (index : Nat) (asked : Nat.testBit 0o111 index = true)
      (clear : file.node.mode &&& 0o111 = 0) : file.node.mode / 2 ^ index % 2 ≠ 1 := by
    intro set
    have both : (file.node.mode &&& 0o111).testBit index = true := by
      rw [Nat.testBit_and, asked, Nat.testBit_eq_decide_div_mod_eq, set]
      rfl
    rw [clear, Nat.zero_testBit] at both
    cases both
  simp only [File.allows, Access.bit, Nat.and_one_is_mod, bne_iff_ne] at allowed
  simp only [Node.hasExecuteBit, bne_iff_ne]
  intro clear
  have owner := bit 6 rfl clear
  have other := bit 0 rfl clear
  split at allowed <;> omega

namespace Machine

variable {machine : Machine}

/-- What is loaded is a file that can be executed. -/
theorem exists_of_loadThrough {directory : Location} {interpreters : Nat} {path : String}
    {arguments : List Bytes} {environment : Environment} {behaviour : Behaviour}
    (loaded : machine.loadThrough directory interpreters (Utf8.ofString path) arguments
      environment = .ok behaviour) :
    ∃ place file mode content, machine.files.locateFile directory path true = .ok (place, file) ∧
      file.node = .regular mode content ∧ file.allows .execute = true := by
  -- Only a regular file gets as far as the check of its bits.
  rw [loadThrough.eq_def] at loaded
  dsimp only at loaded
  obtain ⟨text, read, rest⟩ := exists_of_bind_ok loaded
  obtain ⟨⟨place, file⟩, located, found⟩ := exists_of_bind_ok rest
  rw [pathText, Utf8.toString?_ofString] at read
  cases read
  cases node : file.node with
  | regular mode content =>
    rw [node] at found
    cases allowed : file.allows .execute with
    | true => exact ⟨place, file, mode, content, located, node, allowed⟩
    | false => simp [allowed] at found
  | directory | link | fifo | device => simp [node] at found

/-- What is loaded is what a program of the machine does, through whatever interpreters. -/
theorem exists_program_of_loadThrough {directory : Location} {interpreters : Nat} {path : Bytes}
    {arguments : List Bytes} {environment : Environment} {behaviour : Behaviour}
    (loaded : machine.loadThrough directory interpreters path arguments environment =
      .ok behaviour) :
    ∃ content program words, machine.image content = some program ∧
      behaviour = program words environment := by
  -- The induction is on the scripts that may still be interpreted by scripts.
  induction interpreters generalizing path arguments with
  | zero =>
    rw [loadThrough.eq_def] at loaded
    dsimp only at loaded
    obtain ⟨text, _, rest⟩ := exists_of_bind_ok loaded
    obtain ⟨⟨place, file⟩, _, found⟩ := exists_of_bind_ok rest
    dsimp only at found
    repeat' split at found
    any_goals cases found
    exact ⟨_, _, _, by assumption, rfl⟩
  | succ interpreters ih =>
    rw [loadThrough.eq_def] at loaded
    dsimp only at loaded
    obtain ⟨text, _, rest⟩ := exists_of_bind_ok loaded
    obtain ⟨⟨place, file⟩, _, found⟩ := exists_of_bind_ok rest
    dsimp only at found
    repeat' split at found
    -- Either an interpreter is loaded instead, or the file is a program itself.
    any_goals first
      | exact ih found
      | cases found
    exact ⟨_, _, _, by assumption, rfl⟩

end Machine

end LineShell
