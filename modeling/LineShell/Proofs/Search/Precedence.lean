import LineShell.Proofs.Search.Kinds

/-! Precedence: what the search answers for a name, whichever way it goes, and what becomes of two
search paths with a colon between them. -/

namespace LineShell

/-- The parts of a text are those of the library's own splitting. -/
theorem splitAtEvery_eq_splitOn (separator : Char) (text : List Char) :
    splitAtEvery separator text = text.splitOn separator := by
  -- Both put a character in front of the first part, or open a new part at a separator.
  induction text with
  | nil => rfl
  | cons c rest ih =>
    have grown := List.splitOnP_cons_eq_if_modifyHead (p := (· == separator)) c rest
    simp only [beq_iff_eq] at grown
    rw [splitAtEvery, ih]
    exact grown.symm

/-- No part has a separator. -/
theorem not_mem_of_mem_splitAtEvery {separator : Char} {text part : List Char}
    (there : part ∈ splitAtEvery separator text) : separator ∉ part := by
  -- A separator opens a part of its own, so that no part ever gets one in front.
  induction text generalizing part with
  | nil =>
    rw [List.mem_singleton.mp there]
    exact List.not_mem_nil
  | cons c rest ih =>
    rw [splitAtEvery] at there
    split at there
    · rcases List.mem_cons.mp there with rfl | later
      · exact List.not_mem_nil
      · exact ih later
    · rename_i other
      obtain ⟨head, tail, parts⟩ := List.exists_cons_of_ne_nil (splitAtEvery_ne_nil separator rest)
      rw [parts] at there ih
      rcases List.mem_cons.mp there with rfl | later
      · rw [List.mem_cons, not_or]
        exact ⟨Ne.symm other, ih List.mem_cons_self⟩
      · exact ih (List.mem_cons_of_mem _ later)

namespace Search

/-- Parts without a colon make up a search path, with one colon between any two of them. -/
def IsSplit (parts : List String) (searchPath : String) : Prop :=
  parts ≠ [] ∧ (∀ part ∈ parts, holds part ':' = false) ∧ ":".intercalate parts = searchPath

/-- A colon between two search paths makes one with the elements of both. -/
theorem elements_append (first second : String) :
    elements (first ++ ":" ++ second) = elements first ++ elements second := by
  have colon : ":".toList = [':'] := rfl
  simp only [elements, String.toList_append, colon, List.append_assoc, List.singleton_append,
    splitAtEvery_append, List.map_append]

/-- A search path falls apart at every colon, and in no other way. -/
theorem elements_eq_iff {searchPath : String} {parts : List String} :
    elements searchPath = parts ↔ IsSplit parts searchPath := by
  have colon : ":".toList = [':'] := rfl
  constructor
  · -- No element has a colon, and put together again they are the whole.
    rintro rfl
    refine ⟨by simpa [elements] using splitAtEvery_ne_nil ':' searchPath.toList, ?_, ?_⟩
    · intro part there
      obtain ⟨part, member, rfl⟩ := List.mem_map.mp there
      simpa [holds] using not_mem_of_mem_splitAtEvery member
    · rw [← String.toList_inj, String.toList_intercalate, colon, elements, splitAtEvery_eq_splitOn]
      simp
  · rintro ⟨some, clear, rfl⟩
    -- The parts of the whole are looked for among the characters, where none has a colon.
    have apart : (":".intercalate parts).toList.splitOn ':' = parts.map String.toList := by
      rw [String.toList_intercalate, colon]
      apply List.splitOn_intercalate
      · simpa [holds] using clear
      · simpa using some
    rw [elements, splitAtEvery_eq_splitOn, apart, List.map_map]
    simp

variable {files : FileSystem} {directory : Location} {searchPath name path : String}

/-- A path leads to something that is not a directory and that has an execute bit. -/
def IsUsable (files : FileSystem) (directory : Location) (path : String) : Prop :=
  ∃ node, Leads files directory path node ∧ node.isDirectory = false ∧ node.hasExecuteBit = true

/-- Why a path is refused. A reason counts only where none of those before it does. -/
inductive Refuses (files : FileSystem) (directory : Location) (path : String) : LookupError → Prop
  /-- No path can hold the character that ends texts inside the system. -/
  | nul (held : holds path '\x00' = true) :
    Refuses files directory path (.unreadable path .nulInPath)
  /-- The system cannot tell what stands where the path leads. -/
  | unreadable {number : Errno} (clear : holds path '\x00' = false)
    (failed : files.locate directory path true = .error number) :
    Refuses files directory path (.unreadable path (.system number))
  | directory {node : Node} (leads : Leads files directory path node)
    (opens : node.isDirectory = true) : Refuses files directory path (.isDirectory path)
  | notExecutable {node : Node} (leads : Leads files directory path node)
    (file : node.isDirectory = false) (barred : node.hasExecuteBit = false) :
    Refuses files directory path (.notExecutable path)

/-- The check is passed by what can be used. -/
theorem passes_iff_isUsable : passes files directory path = true ↔
    IsUsable files directory path := by
  rw [IsUsable, ← check_eq_ok_iff]
  exact ⟨check_of_passes, fun checked => by rw [passes, checked]⟩

/-- The check fails with the reason for which a path is refused. -/
theorem check_eq_error_iff {error : LookupError} : check files directory path = .error error ↔
    Refuses files directory path error := by
  constructor
  · -- The check asks its questions in the order of the reasons.
    intro failed
    unfold check at failed
    split at failed
    · rename_i held
      cases failed
      exact .nul held
    · rename_i free
      have clear : holds path '\x00' = false := by simpa using free
      cases located : files.locate directory path true with
      | error number =>
        simp only [located] at failed
        cases failed
        exact .unreadable clear located
      | ok found =>
        obtain ⟨place, node⟩ := found
        have leads : Leads files directory path node := ⟨clear, place, located⟩
        simp only [located] at failed
        -- What is there is a directory, or cannot be executed.
        split at failed
        · rename_i opens
          cases failed
          exact .directory leads opens
        · rename_i file
          split at failed
          · rename_i barred
            cases failed
            exact .notExecutable leads (by simpa using file) (by simpa using barred)
          · cases failed
  · -- Each reason says that those before it do not count.
    intro refused
    unfold check
    cases refused with
    | nul held => simp [held]
    | unreadable clear failed => simp [clear, failed]
    | directory leads opens =>
      obtain ⟨clear, place, located⟩ := leads
      simp [clear, located, opens]
    | notExecutable leads file barred =>
      obtain ⟨clear, place, located⟩ := leads
      simp [clear, located, file, barred]

/-- What is answered for a name. -/
inductive Answers (searchPath : String) (files : FileSystem) (directory : Location)
    (name : String) : Except LookupError String → Prop
  /-- Nothing has the empty name. -/
  | unnamed (empty : name = "") : Answers searchPath files directory name (.error (.notFound name))
  /-- A name with a slash is taken as it is. -/
  | usable (slash : holds name '/' = true) (usable : IsUsable files directory name) :
    Answers searchPath files directory name (.ok name)
  | refused {error : LookupError} (slash : holds name '/' = true)
    (refuses : Refuses files directory name error) :
    Answers searchPath files directory name (.error error)
  /-- Any other name is found in the first element of the search path that has something of that
  name to be used. -/
  | hit {before after : List String} {element : String} (named : name ≠ "")
    (bare : holds name '/' = false) (split : IsSplit (before ++ element :: after) searchPath)
    (missed : ∀ earlier ∈ before, ¬ IsUsable files directory (join earlier name))
    (usable : IsUsable files directory (join element name)) :
    Answers searchPath files directory name (.ok (join element name))
  | miss {parts : List String} (named : name ≠ "") (bare : holds name '/' = false)
    (split : IsSplit parts searchPath)
    (missed : ∀ element ∈ parts, ¬ IsUsable files directory (join element name)) :
    Answers searchPath files directory name (.error (.notFound name))

/-- The answer of a search, or that of a second one if the first has not found the name. -/
def orFurther (answer further : Except LookupError String) : Except LookupError String :=
  match answer with
  | .error (.notFound _) => further
  | .error error => .error error
  | .ok path => .ok path

/-- What fails the check cannot be used. -/
theorem not_passes_iff : passes files directory path = false ↔ ¬ IsUsable files directory path := by
  rw [← passes_iff_isUsable, Bool.not_eq_true]

/-- A name with a slash is not empty. -/
theorem ne_empty_of_slash (slash : holds name '/' = true) : name ≠ "" := by
  rintro rfl
  cases slash

/-- A name with a slash is checked, and is its own path. -/
theorem resolve_of_slash (slash : holds name '/' = true) :
    resolve searchPath files directory name = (check files directory name).map fun _ => name := by
  have named : name.isEmpty = false := by simpa using ne_empty_of_slash slash
  unfold resolve
  rw [named, slash]
  cases check files directory name <;> rfl

/-- Any other name is looked for in one element of the search path after the other. -/
theorem resolve_of_bare (named : name ≠ "") (bare : holds name '/' = false) :
    resolve searchPath files directory name =
      (((elements searchPath).map (join · name)).find? (passes files directory)).elim
        (.error (.notFound name)) .ok := by
  have full : name.isEmpty = false := by simpa using named
  unfold resolve
  rw [full, bare]
  simp only [Bool.false_eq_true, if_false]
  cases ((elements searchPath).map (join · name)).find? (passes files directory) <;> rfl

/-- What the search comes to is what is answered for the name. -/
theorem answers_resolve (searchPath : String) (files : FileSystem) (directory : Location)
    (name : String) :
    Answers searchPath files directory name (resolve searchPath files directory name) := by
  -- The cases are those of the search: no name, a name with a slash, and any other.
  by_cases unnamed : name = ""
  · subst unnamed
    exact .unnamed rfl
  · cases slash : holds name '/' with
    | true =>
      rw [resolve_of_slash slash]
      cases checked : check files directory name with
      | ok => exact .usable slash (check_eq_ok_iff.mp checked)
      | error error => exact .refused slash (check_eq_error_iff.mp checked)
    | false =>
      rw [resolve_of_bare unnamed slash]
      have parted : IsSplit (elements searchPath) searchPath := elements_eq_iff.mp rfl
      cases found : ((elements searchPath).map (join · name)).find? (passes files directory) with
      | none =>
        -- No candidate has passed, so no element has anything to be used.
        refine .miss unnamed slash parted fun element member => not_passes_iff.mp ?_
        simpa using List.find?_eq_none.mp found _ (List.mem_map_of_mem member)
      | some path =>
        -- The candidates fall apart where their elements do.
        obtain ⟨passed, _, _, apart, failed⟩ := List.find?_eq_some_iff_append.mp found
        obtain ⟨before, rest, split, rfl, joined⟩ := List.map_eq_append_iff.mp apart
        obtain ⟨element, after, rfl, rfl, rfl⟩ := List.map_eq_cons_iff.mp joined
        refine .hit unnamed slash (split ▸ parted) (fun earlier member => not_passes_iff.mp ?_)
          (passes_iff_isUsable.mp passed)
        simpa using failed _ (List.mem_map_of_mem member)

/-- There is one answer only for a name. -/
theorem resolve_of_answers {answer : Except LookupError String}
    (answers : Answers searchPath files directory name answer) :
    resolve searchPath files directory name = answer := by
  -- The search is carried out in each case of the answer.
  cases answers with
  | unnamed empty =>
    subst empty
    rfl
  | usable slash usable =>
    rw [resolve_of_slash slash, check_eq_ok_iff.mpr usable]
    rfl
  | refused slash refuses =>
    rw [resolve_of_slash slash, check_eq_error_iff.mpr refuses]
    rfl
  | @hit before after element named bare split missed usable =>
    have failed (earlier : String) (member : earlier ∈ before) :
        ¬ passes files directory (join earlier name) = true :=
      fun passed => missed earlier member (passes_iff_isUsable.mp passed)
    -- The candidates of the elements before fail, and the next one passes.
    have none : (before.map (join · name)).find? (passes files directory) = none := by
      simpa using failed
    rw [resolve_of_bare named bare, elements_eq_iff.mpr split, List.map_append, List.find?_append,
      none, List.map_cons, List.find?_cons_of_pos (passes_iff_isUsable.mpr usable)]
    rfl
  | @miss parts named bare split missed =>
    have failed (element : String) (member : element ∈ parts) :
        ¬ passes files directory (join element name) = true :=
      fun passed => missed element member (passes_iff_isUsable.mp passed)
    have none : (parts.map (join · name)).find? (passes files directory) = none := by
      simpa using failed
    rw [resolve_of_bare named bare, elements_eq_iff.mpr split, none]
    rfl

/-- A colon between two search paths makes one in which the second counts only where the first has
nothing. -/
theorem resolve_append (first second : String) (files : FileSystem) (directory : Location)
    (name : String) :
    resolve (first ++ ":" ++ second) files directory name =
      orFurther (resolve first files directory name) (resolve second files directory name) := by
  by_cases unnamed : name = ""
  · subst unnamed
    rfl
  · cases slash : holds name '/' with
    | true =>
      -- Neither search path is looked at, and a refusal is final.
      rw [resolve_of_slash slash, resolve_of_slash slash, resolve_of_slash slash]
      cases checked : check files directory name with
      | ok => rfl
      | error error => cases check_eq_error_iff.mp checked <;> rfl
    | false =>
      rw [resolve_of_bare unnamed slash, resolve_of_bare unnamed slash,
        resolve_of_bare unnamed slash, elements_append, List.map_append, List.find?_append]
      -- Only the candidates of the first can keep those of the second from being tried.
      cases ((elements first).map (join · name)).find? (passes files directory) <;> rfl

/-- A name with a slash is taken as it is, whatever the search path, and is refused for the first
reason that counts. Any other name is found in the first element of the search path where something
of that name can be used, or is not found at all: what cannot be used never stands in the way. So
two search paths with a colon between them answer as the first, and as the second where the first
has not found the name. -/
theorem resolve_eq_iff_answers (searchPath further : String) (files : FileSystem)
    (directory : Location) (name : String) :
    (∀ answer, resolve searchPath files directory name = answer ↔
      Answers searchPath files directory name answer) ∧
    (holds name '/' = true →
      resolve searchPath files directory name = resolve further files directory name) ∧
    resolve (searchPath ++ ":" ++ further) files directory name =
      orFurther (resolve searchPath files directory name)
        (resolve further files directory name) := by
  refine ⟨fun answer => ⟨?_, resolve_of_answers⟩, ?_, resolve_append searchPath further _ _ name⟩
  · rintro rfl
    exact answers_resolve searchPath files directory name
  · intro slash
    rw [resolve_of_slash slash, resolve_of_slash slash]

/-- A directory, a file without an execute bit and a link to nothing, in front of a program of the
same name. -/
def layeredFiles : FileSystem :=
  let places := ["a", "b", "c", "d"].foldl (fun files name => files.put [name] (.directory 0o755))
    ({} : FileSystem)
  (((places.put ["a", "tool"] (.directory 0o755)).put ["b", "tool"] (.regular 0o644 [])).put
    ["c", "tool"] (.link "nothing")).put ["d", "tool"] (.regular 0o755 [])

/-- The program is found behind all that cannot be used, and under its path without any search. -/
theorem resolve_layeredFiles :
    (resolve "a:b:c::d" layeredFiles [] "tool" = .ok "d/tool" ∧
      Answers "a:b:c::d" layeredFiles [] "tool" (.ok "d/tool")) ∧
    (holds "b/tool" '/' = true ∧ resolve "a:b:c::d" layeredFiles [] "b/tool" =
      .error (.notExecutable "b/tool") ∧ resolve "a:b:c::d" layeredFiles [] "b/tool" =
      resolve "" layeredFiles [] "b/tool") ∧
    resolve "a:b:c:" layeredFiles [] "tool" = .error (.notFound "tool") ∧
    resolve ("a:b:c:" ++ ":" ++ "d") layeredFiles [] "tool" =
      orFurther (resolve "a:b:c:" layeredFiles [] "tool") (resolve "d" layeredFiles [] "tool") := by
  have found : resolve "a:b:c::d" layeredFiles [] "tool" = .ok "d/tool" := rfl
  have slash : holds "b/tool" '/' = true := rfl
  have bare := resolve_eq_iff_answers "a:b:c::d" "" layeredFiles [] "tool"
  have direct := resolve_eq_iff_answers "a:b:c::d" "" layeredFiles [] "b/tool"
  exact ⟨⟨found, (bare.1 _).mp found⟩, ⟨slash, rfl, direct.2.1 slash⟩, rfl,
    (resolve_eq_iff_answers "a:b:c:" "d" layeredFiles [] "tool").2.2⟩

end Search

end LineShell
