import LineShell.Proofs.Search.Finding

/-! Straying: which file the system executes for a program that the interpreter has found, and when
it is another one than that. -/

namespace LineShell.Machine

/-- What the system loads for a command from a path. -/
def attempt (machine : Machine) (command : Command) (path : String) : Except Errno Behaviour :=
  machine.load machine.directory (Utf8.ofString path) (command.arguments.map Utf8.ofString)
    (machine.environment.map fun (key, value) => (Utf8.ofString key, Utf8.ofString value))

/-- The path that the system tries for a program in an element of a search path. -/
def candidate (program element : String) : String :=
  if element.isEmpty then program else element ++ "/" ++ program

/-- An element of a search path as the system takes it. -/
def shorten (limit : Nat) (element : String) : String :=
  if element.utf8ByteSize ≥ limit then "" else element

/-- The paths that the system tries for a program without a slash, in order. -/
def candidates (machine : Machine) (program : String) : List String :=
  let searchPath := (machine.environment.lookup "PATH").getD defaultSearchPath
  let limit := min searchPath.utf8ByteSize Path.longestPath + 1
  (triedElements limit (Search.elements searchPath)).map (candidate program)

/-- The first of some paths from which anything is loaded; none if another fails for good before. -/
def firstLoaded? (attempt : String → Except Errno Behaviour) : List String → Option String
  | [] => none
  | path :: rest =>
    match attempt path with
    | .ok _ => some path
    | .error number => if searchesOn number then firstLoaded? attempt rest else none

/-- The path of the file that a process for a command executes. -/
def executed? (machine : Machine) (command : Command) : Option String :=
  if Search.holds command.program '/' then some command.program
  else firstLoaded? (machine.attempt command) (machine.candidates command.program)

/-- Whether a path is passed over in a search for a command. -/
def PassesOver (machine : Machine) (command : Command) (path : String) : Prop :=
  ∃ number, machine.attempt command path = .error number ∧ searchesOn number = true

/-- The number of the file that a path leads to from the current directory of the interpreter. -/
def fileAt? (machine : Machine) (path : String) : Option Nat :=
  match machine.files.locateFile machine.directory path true with
  | .ok (place, _) => machine.files.number? place
  | .error _ => none

/-- Whether the system, which looks for a program without a slash by itself, comes first upon
another file than the one of that name in the current directory. -/
def Strays (machine : Machine) (command : Command) : Prop :=
  Search.holds command.program '/' = false ∧
    ∃ before path after, machine.candidates command.program = before ++ path :: after ∧
      (∀ other ∈ before, machine.PassesOver command other) ∧
      (∃ behaviour, machine.attempt command path = .ok behaviour) ∧
      machine.fileAt? path ≠ machine.fileAt? command.program

variable {machine : Machine} {command : Command}

/-- A place in a list, with all before it of one kind, is that of the head, or one behind a head of
that kind. -/
theorem exists_split_cons {α : Type} {kind : α → Prop} {given : Prop} {head one : α}
    {rest : List α} :
    (∃ before after, head :: rest = before ++ one :: after ∧ (∀ other ∈ before, kind other) ∧
        given) ↔
      head = one ∧ given ∨ kind head ∧
        ∃ before after, rest = before ++ one :: after ∧ (∀ other ∈ before, kind other) ∧ given := by
  constructor
  · rintro ⟨before, after, split, kinds, given⟩
    -- Either nothing comes before the place, or the head does.
    cases before with
    | nil =>
      cases split
      exact .inl ⟨rfl, given⟩
    | cons first before =>
      cases split
      obtain ⟨kind, kinds⟩ := List.forall_mem_cons.mp kinds
      exact .inr ⟨kind, before, after, rfl, kinds, given⟩
  · rintro (⟨rfl, given⟩ | ⟨kind, before, after, rfl, kinds, given⟩)
    · exact ⟨[], rest, rfl, nofun, given⟩
    · exact ⟨head :: before, after, rfl, List.forall_mem_cons.mpr ⟨kind, kinds⟩, given⟩

/-- What is loaded first is loaded after all before it have been passed over. -/
theorem firstLoaded?_eq_some {paths : List String} {path : String} :
    firstLoaded? (machine.attempt command) paths = some path ↔
      ∃ before after, paths = before ++ path :: after ∧
        (∀ other ∈ before, machine.PassesOver command other) ∧
        ∃ behaviour, machine.attempt command path = .ok behaviour := by
  -- The first path is loaded, passed over, or ends the search for good.
  induction paths with
  | nil => simp [firstLoaded?]
  | cons head rest ih =>
    rw [firstLoaded?, exists_split_cons]
    cases tried : machine.attempt command head with
    | ok behaviour =>
      have loaded : ¬ machine.PassesOver command head := by
        rintro ⟨_, failed, _⟩
        cases tried.symm.trans failed
      constructor
      · rintro ⟨⟩
        exact .inl ⟨rfl, behaviour, tried⟩
      · rintro (⟨rfl, _⟩ | ⟨passed, _⟩)
        · rfl
        · exact absurd passed loaded
    | error number =>
      have unloaded :
          ¬ (head = path ∧ ∃ behaviour, machine.attempt command path = .ok behaviour) := by
        rintro ⟨rfl, _, loaded⟩
        cases tried.symm.trans loaded
      rw [or_iff_right unloaded]
      dsimp only
      split
      · rename_i goes_on
        rw [ih]
        exact (and_iff_right ⟨number, tried, goes_on⟩).symm
      · rename_i stops
        refine iff_of_false nofun ?_
        rintro ⟨⟨_, failed, goes_on⟩, _⟩
        cases tried.symm.trans failed
        exact stops goes_on

/-- What a search loads is what it loads first. -/
theorem firstLoaded?_of_loadFirst {paths : List String} {behaviour : Behaviour}
    (attempt : Bytes → Except Errno Behaviour) (last : Errno)
    (loaded : loadFirst attempt (paths.map Utf8.ofString) last = .ok behaviour) :
    ∃ path, firstLoaded? (fun path => attempt (Utf8.ofString path)) paths = some path ∧
      attempt (Utf8.ofString path) = .ok behaviour := by
  -- Both walks pass over the same paths; the last error matters to neither.
  induction paths generalizing last with
  | nil => cases loaded
  | cons head rest ih =>
    rw [List.map_cons, loadFirst] at loaded
    cases tried : attempt (Utf8.ofString head) with
    | ok found =>
      rw [tried] at loaded
      exact ⟨head, by simp only [firstLoaded?, tried], tried.trans loaded⟩
    | error number =>
      rw [tried] at loaded
      cases goes_on : searchesOn number with
      | false => simp [goes_on] at loaded
      | true =>
        simp only [goes_on, Bool.not_true, Bool.false_eq_true, if_false] at loaded
        obtain ⟨path, found, same⟩ := ih _ loaded
        exact ⟨path, by simpa only [firstLoaded?, tried, goes_on, if_true] using found, same⟩

/-- What is loaded for a program by its name is loaded from the path that is executed. -/
theorem executed?_of_loadNamed {behaviour : Behaviour}
    (loaded : machine.loadNamed command.program command.arguments = .ok behaviour) :
    ∃ path, machine.executed? command = some path ∧
      machine.attempt command path = .ok behaviour := by
  -- A name with a slash is a path; any other is searched for, unless it is too long or empty.
  unfold loadNamed at loaded
  dsimp only at loaded
  unfold executed?
  split at loaded
  · cases loaded
  · split at loaded
    · rename_i slash
      exact ⟨command.program, if_pos slash, loaded⟩
    · rename_i bare
      rw [if_neg bare]
      split at loaded
      · cases loaded
      · refine firstLoaded?_of_loadFirst (machine.load machine.directory · _ _) .noEntry ?_
        rw [candidates, List.map_map]
        exact loaded

/-- What is started under a name is what a program of the machine does. -/
theorem exists_program_of_loadNamed {behaviour : Behaviour}
    (loaded : machine.loadNamed command.program command.arguments = .ok behaviour) :
    ∃ content found words environment, machine.image content = some found ∧
      behaviour = found words environment := by
  obtain ⟨path, _, loaded⟩ := executed?_of_loadNamed loaded
  unfold attempt load at loaded
  split at loaded
  · cases loaded
  · obtain ⟨content, found, words, known, same⟩ := exists_program_of_loadThrough loaded
    exact ⟨content, found, words, _, known, same⟩

/-- A process that has been started runs what has been loaded from the path that is executed. -/
theorem executed?_of_start {process : Nat} {after : Machine}
    (started : machine.start command = (.ok process, after)) :
    ∃ path behaviour state, machine.executed? command = some path ∧
      machine.attempt command path = .ok behaviour ∧
      after.process? process = some state ∧ state.progress = .running behaviour := by
  -- The new process stands behind all others and begins with what has been loaded.
  unfold start at started
  split at started
  · cases started
  · split at started
    · cases started
    · rename_i loaded
      obtain ⟨path, executed, tried⟩ := executed?_of_loadNamed loaded
      cases started
      exact ⟨path, _, _, executed, tried, List.getElem?_concat_length, rfl⟩

/-- The file that is executed is the one that the program names, unless the search strays. -/
theorem strays_iff {path : String} (executed : machine.executed? command = some path) :
    machine.Strays command ↔ machine.fileAt? path ≠ machine.fileAt? command.program := by
  -- With a slash the program itself is executed, and without one what is loaded first.
  unfold executed? at executed
  split at executed
  · rename_i slash
    cases executed
    refine iff_of_false ?_ (not_not_intro rfl)
    rintro ⟨bare, _⟩
    rw [slash] at bare
    cases bare
  · rename_i bare
    constructor
    · rintro ⟨_, before, other, after, split, passed, loaded, apart⟩
      have found := firstLoaded?_eq_some.mpr ⟨before, after, split, passed, loaded⟩
      rw [executed] at found
      cases found
      exact apart
    · intro apart
      obtain ⟨before, after, split, passed, loaded⟩ := firstLoaded?_eq_some.mp executed
      exact ⟨by simpa using bare, before, path, after, split, passed, loaded, apart⟩

/-- The system tries the program itself, or a path that leads through the element. -/
theorem candidate_shorten (program : String) (limit : Nat) (element : String) :
    candidate program (shorten limit element) = program ∨ element.isEmpty = false ∧
      candidate program (shorten limit element) = element ++ "/" ++ program := by
  -- An element that is too long counts as the current directory.
  unfold shorten
  split
  · exact .inl rfl
  · unfold candidate
    cases element.isEmpty with
    | true => exact .inl rfl
    | false => exact .inr ⟨rfl, rfl⟩

/-- All elements of a search path are tried, but for one at the end perhaps. -/
theorem triedElements_append (limit : Nat) (before : List String) {rest : List String}
    (more : rest ≠ []) :
    triedElements limit (before ++ rest) =
      before.map (shorten limit) ++ triedElements limit rest := by
  -- Only the last element of all is treated in another way.
  induction before with
  | nil => rfl
  | cons element others ih =>
    obtain ⟨second, later, joined⟩ : ∃ second later, others ++ rest = second :: later :=
      List.exists_cons_of_ne_nil (by simp [more])
    rw [List.cons_append, joined, triedElements, ← joined, ih]
    · rfl
    · exact List.cons_ne_nil _ _

/-- An empty element of a search path is tried as the current directory. -/
theorem triedElements_empty {limit : Nat} (some_room : 0 < limit) (rest : List String) :
    triedElements limit ("" :: rest) = "" :: triedElements limit rest := by
  -- An empty element is never too long.
  have short : ¬ "".utf8ByteSize ≥ limit := Nat.not_le.mpr some_room
  cases rest with
  | nil => simp only [triedElements, short, if_false]
  | cons element rest =>
    rw [triedElements, if_neg short]
    exact List.cons_ne_nil _ _

/-- Behind the elements before it, an empty element of the variable lets the program itself be
tried. -/
theorem candidates_of_listed {value : String} {before after : List String}
    (listed : machine.environment.lookup "PATH" = some value)
    (split : Search.elements value = before ++ "" :: after) (program : String) :
    ∃ limit others, machine.candidates program =
      before.map (fun element => candidate program (shorten limit element)) ++
        program :: others := by
  -- The element stays empty as the system shortens it, and gives the program itself.
  refine ⟨min value.utf8ByteSize Path.longestPath + 1,
    (triedElements (min value.utf8ByteSize Path.longestPath + 1) after).map (candidate program), ?_⟩
  rw [candidates, listed, Option.getD_some, split, triedElements_append _ _ (List.cons_ne_nil _ _),
    triedElements_empty (Nat.succ_pos _), List.map_append, List.map_map, List.map_cons]
  rfl

/-- Where the variable has an empty element, the search strays only if the program itself is passed
over, or if anything can be loaded from an element before that. -/
theorem Strays.cause (strays : machine.Strays command) {value : String} {before after : List String}
    (listed : machine.environment.lookup "PATH" = some value)
    (split : Search.elements value = before ++ "" :: after) :
    machine.PassesOver command command.program ∨
      ∃ element ∈ before, element.isEmpty = false ∧ ∃ behaviour,
        machine.attempt command (element ++ "/" ++ command.program) = .ok behaviour := by
  obtain ⟨_, tried, path, later, found, passed, loaded, apart⟩ := strays
  obtain ⟨limit, others, all⟩ := candidates_of_listed listed split command.program
  rw [all] at found
  have itself : path ≠ command.program := fun same => apart (congrArg machine.fileAt? same)
  -- What is executed lies behind the program itself in the search, or before it.
  rcases List.append_eq_append_iff.mp found with ⟨between, rfl, rest⟩ | ⟨between, first, rest⟩
  · -- The program itself has been tried before.
    cases between with
    | nil => exact absurd (List.cons.inj rest).1.symm itself
    | cons head between =>
      obtain ⟨rfl, _⟩ := List.cons.inj rest
      exact .inl (passed _ (List.mem_append_right _ List.mem_cons_self))
  · cases between with
    | nil => exact absurd (List.cons.inj rest).1 itself
    | cons head between =>
      obtain ⟨rfl, _⟩ := List.cons.inj rest
      have member : path ∈ before.map fun element =>
          candidate command.program (shorten limit element) := by
        rw [first]
        exact List.mem_append_right _ List.mem_cons_self
      obtain ⟨element, there, rfl⟩ := List.mem_map.mp member
      rcases candidate_shorten command.program limit element with same | ⟨named, same⟩
      · exact absurd same itself
      · exact .inr ⟨element, there, named, same ▸ loaded⟩

/-- Without the variable, only the directories of the system are searched. -/
theorem candidates_of_unset (unset : machine.environment.lookup "PATH" = none) (program : String) :
    machine.candidates program = ["/bin/" ++ program, "/usr/bin/" ++ program] := by
  rw [candidates, unset]
  rfl

/-- A path that leads through an element of a search path, and from which anything is loaded, passes
the check of the interpreter. -/
theorem passes_of_attempt {element : String} {behaviour : Behaviour}
    (named : element.isEmpty = false)
    (loaded : machine.attempt command (element ++ "/" ++ command.program) = .ok behaviour)
    (clear : Search.holds (Search.join element command.program) '\x00' = false) :
    Search.passes machine.files machine.directory
      (Search.join element command.program) = true := by
  -- What can be loaded is a regular file with a bit that lets it be executed.
  unfold attempt load at loaded
  split at loaded
  · cases loaded
  · obtain ⟨place, file, mode, content, located, regular, allowed⟩ :=
      exists_of_loadThrough loaded
    have found : machine.files.locate machine.directory
        (Search.join element command.program) true = .ok (place, file.node) := by
      rw [FileSystem.locate, FileSystem.locateFile_join named located]
      rfl
    have executable := File.hasExecuteBit_of_allows allowed
    rw [regular] at found executable
    simp [Search.passes, Search.check, clear, found, executable, Node.isDirectory]

end LineShell.Machine
