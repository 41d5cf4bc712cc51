import LineShell.Proofs.Search.Finding

/-! Kinds of files: what the search takes for a program, and what a program is. -/

namespace LineShell

/-- Whether a node is a file with a content of its own. -/
def Node.isRegular : Node → Bool
  | .regular .. => true
  | _ => false

/-- A file with a content is not a directory. -/
theorem Node.isDirectory_of_isRegular {node : Node} (regular : node.isRegular = true) :
    node.isDirectory = false := by
  cases node with
  | regular => rfl
  | directory | link | fifo | device => cases regular

namespace Search

variable {files : FileSystem} {directory : Location} {path : String}

/-- What stands where a path leads, through whatever links. -/
def Leads (files : FileSystem) (directory : Location) (path : String) (node : Node) : Prop :=
  holds path '\x00' = false ∧ ∃ place, files.locate directory path true = .ok (place, node)

/-- A path leads to a regular file that may be executed. -/
def IsProgram (files : FileSystem) (directory : Location) (path : String) : Prop :=
  ∃ node, Leads files directory path node ∧ node.isRegular = true ∧ node.hasExecuteBit = true

/-- A path leads to something that is neither a regular file nor a directory, and that has an
execute bit all the same. -/
def IsImpostor (files : FileSystem) (directory : Location) (path : String) : Prop :=
  ∃ node, Leads files directory path node ∧ node.isRegular = false ∧ node.isDirectory = false ∧
    node.hasExecuteBit = true

/-- A path leads to one node only. -/
theorem Leads.determined {first second : Node} (one : Leads files directory path first)
    (other : Leads files directory path second) : first = second := by
  obtain ⟨-, place, found⟩ := one
  obtain ⟨-, other, again⟩ := other
  cases found.symm.trans again
  rfl

/-- No path leads both to a program and to something else. -/
theorem IsProgram.not_isImpostor (program : IsProgram files directory path) :
    ¬ IsImpostor files directory path := by
  rintro ⟨other, found, odd, -⟩
  obtain ⟨node, leads, regular, -⟩ := program
  cases leads.determined found
  rw [regular] at odd
  cases odd

/-- The check is passed by what is not a directory and has an execute bit. -/
theorem check_eq_ok_iff : check files directory path = .ok () ↔
    ∃ node, Leads files directory path node ∧ node.isDirectory = false ∧
      node.hasExecuteBit = true := by
  unfold check
  constructor
  · intro checked
    split at checked
    · cases checked
    · rename_i clear
      -- Each question of the check that is answered otherwise ends in an error.
      cases located : files.locate directory path true with
      | error number => simp [located] at checked
      | ok found =>
        obtain ⟨place, node⟩ := found
        simp only [located] at checked
        split at checked
        · cases checked
        · rename_i file
          split at checked
          · cases checked
          · rename_i executable
            exact ⟨node, ⟨by simpa using clear, place, located⟩, by simpa using file,
              by simpa using executable⟩
  · rintro ⟨node, ⟨clear, place, located⟩, file, executable⟩
    -- Each question is answered as the check wants it.
    simp [clear, located, file, executable]

/-- The check is passed by programs, and by impostors too. -/
theorem passes_iff : passes files directory path = true ↔
    IsProgram files directory path ∨ IsImpostor files directory path := by
  have same : passes files directory path = true ↔ check files directory path = .ok () := by
    unfold passes
    split <;> simp [*]
  rw [same, check_eq_ok_iff]
  -- What is not a directory is either regular or something else.
  constructor
  · rintro ⟨node, leads, file, executable⟩
    cases regular : node.isRegular with
    | true => exact .inl ⟨node, leads, regular, executable⟩
    | false => exact .inr ⟨node, leads, regular, file, executable⟩
  · rintro (⟨node, leads, regular, executable⟩ | ⟨node, leads, -, file, executable⟩)
    · exact ⟨node, leads, Node.isDirectory_of_isRegular regular, executable⟩
    · exact ⟨node, leads, file, executable⟩

/-- The paths that are tried for a name, in their order: a name with a slash is tried as it is. -/
def triedPaths (searchPath name : String) : List String :=
  if holds name '/' then [name] else (elements searchPath).map (join · name)

/-- The first path that is tried and passes the check is found. -/
theorem resolve_eq_ok_iff_find? {searchPath name : String} :
    resolve searchPath files directory name = .ok path ↔
      name ≠ "" ∧ (triedPaths searchPath name).find? (passes files directory) = some path := by
  unfold resolve triedPaths
  by_cases unnamed : name = ""
  · simp [unnamed]
  · have named : name.isEmpty = false := by simpa using unnamed
    rw [named]
    cases slash : holds name '/' with
    | true =>
      -- A single path is tried, which passes unless its check ends in an error.
      cases checked : check files directory name <;> simp [passes, checked, unnamed]
    | false =>
      simp only [Bool.false_eq_true, if_false, ne_eq, unnamed, not_false_eq_true, true_and]
      cases ((elements searchPath).map (join · name)).find? (passes files directory) <;> simp

/-- A path is tried for a name, and nothing that is tried before it is a program or an impostor. -/
def IsReached (searchPath name : String) (files : FileSystem) (directory : Location)
    (path : String) : Prop :=
  ∃ before after, triedPaths searchPath name = before ++ path :: after ∧
    ∀ earlier ∈ before, ¬ IsProgram files directory earlier ∧ ¬ IsImpostor files directory earlier

/-- What is found for a name is the first path that is tried and leads to a program or to an
impostor; everything else is passed by. So it is a program, unless an impostor is reached before
any program. -/
theorem resolve_eq_ok_iff (searchPath name : String) (files : FileSystem) (directory : Location)
    (path : String) :
    (resolve searchPath files directory name = .ok path ↔
      name ≠ "" ∧ IsReached searchPath name files directory path ∧
        (IsProgram files directory path ∨ IsImpostor files directory path)) ∧
    (resolve searchPath files directory name = .ok path ∧ ¬ IsProgram files directory path ↔
      name ≠ "" ∧ IsReached searchPath name files directory path ∧
        IsImpostor files directory path) := by
  -- What fails the check is neither a program nor an impostor.
  have passed_by (earlier : String) : (!passes files directory earlier) = true ↔
      ¬ IsProgram files directory earlier ∧ ¬ IsImpostor files directory earlier := by
    rw [Bool.not_eq_true', ← Bool.not_eq_true, passes_iff, not_or]
  have first : resolve searchPath files directory name = .ok path ↔
      name ≠ "" ∧ IsReached searchPath name files directory path ∧
        (IsProgram files directory path ∨ IsImpostor files directory path) := by
    rw [resolve_eq_ok_iff_find?, List.find?_eq_some_iff_append, passes_iff, IsReached]
    simp only [passed_by]
    exact and_congr_right fun _ => and_comm
  refine ⟨first, ?_⟩
  rw [first]
  constructor
  · rintro ⟨⟨named, reached, kind⟩, odd⟩
    exact ⟨named, reached, kind.resolve_left odd⟩
  · rintro ⟨named, reached, impostor⟩
    exact ⟨⟨named, reached, .inr impostor⟩, fun program => program.not_isImpostor impostor⟩

/-- A pipe with a name, which has an execute bit, in front of a program of the same name. -/
def pipedFiles : FileSystem :=
  let places := (({} : FileSystem).put ["a"] (.directory 0o755)).put ["b"] (.directory 0o755)
  (places.put ["a", "tool"] (.fifo 0o755)).put ["b", "tool"] (.regular 0o755 [])

example : resolve "a:b" pipedFiles [] "tool" = .ok "a/tool" := by
  -- The program is the second path that is tried.
  rfl

end Search

end LineShell
