import LineShell.Proofs.Search.Kinds

/-! Walks: where paths lead in two trees, one of which has new files and other contents. -/

namespace LineShell

/-- How far a walk without links comes in a tree, and in one that has files where there was
nothing. -/
inductive Leg.Resembles : Leg → Leg → Prop
  | same (leg : Leg) : Resembles leg leg
  | failed (first second : Errno) : Resembles (.failed first) (.failed second)
  /-- There is a file now where only the last name was missing. -/
  | filled (place : Location) : Resembles (.absent place) (.arrived place)

namespace FileSystem

/-- Wherever the second tree differs from the first it has a regular file, and the first has one
there as well or nothing at all. -/
def Resembles (files later : FileSystem) : Prop :=
  ∀ place, later.at? place = files.at? place ∨
    (∃ file, later.at? place = some file ∧ file.node.isRegular = true) ∧
      ∀ file, files.at? place = some file → file.node.isRegular = true

/-- How far a walk comes in two such trees. -/
inductive ArrivesAlike : Except Errno Arrival → Except Errno Arrival → Prop
  | same (result : Except Errno Arrival) : ArrivesAlike result result
  | failed (first second : Errno) : ArrivesAlike (.error first) (.error second)
  | filled (place : Location) (slash : Bool) :
    ArrivesAlike (.ok ⟨place, true, slash⟩) (.ok ⟨place, false, slash⟩)

variable {files later : FileSystem} (resembles : files.Resembles later)

/-- A regular file has bits and a content. -/
theorem exists_of_isRegular {file : File} (regular : file.node.isRegular = true) :
    ∃ mode content, file.node = .regular mode content := by
  cases node : file.node with
  | regular mode content => exact ⟨mode, content, rfl⟩
  | directory | link | fifo | device => simp [node, Node.isRegular] at regular

/-- A walk that needs a directory does not get on at a regular file. -/
theorem leg_of_isRegular {follow : Bool} {place : Location} {file : File}
    (found : files.at? place = some file) (regular : file.node.isRegular = true) (name : String)
    (rest : List String) : files.leg follow place (name :: rest) = .failed .notDirectory := by
  simp [leg, found, Node.isDirectory_of_isRegular regular]

include resembles

/-- A walk without links comes equally far in both trees. -/
theorem leg_resembles (follow : Bool) (place : Location) (names : List String) :
    (files.leg follow place names).Resembles (later.leg follow place names) := by
  -- The induction takes one name after the other, as the walk does.
  induction names generalizing place with
  | nil => exact .same _
  | cons name rest ih =>
    rcases resembles place with same | ⟨⟨file, found, regular⟩, before⟩
    · cases here : files.at? place with
      | none =>
        rw [leg, leg, same, here]
        exact .same _
      | some directory =>
        -- The walk stops at a file, and at a directory that is not to be gone through; a dot and
        -- two dots lead on from where it is.
        rw [leg, leg, same, here]
        dsimp only
        split
        · exact .same _
        split
        · exact .same _
        split
        · exact ih place
        split
        · exact ih place.dropLast
        split
        · exact .same _
        -- What stands under the name is the same, or there is a file now.
        rcases resembles (place ++ [name]) with same | ⟨⟨file, found, regular⟩, before⟩
        · have known : later.find? (place ++ [name]) = files.find? (place ++ [name]) := by
            rw [find?, find?, same]
          rw [known]
          split
          · exact .same _
          · exact .same _
          · exact ih (place ++ [name])
        · obtain ⟨mode, content, node⟩ := exists_of_isRegular regular
          have now : later.find? (place ++ [name]) = some (.regular mode content) := by
            rw [find?, found, Option.map_some, node]
          rw [now]
          cases there : files.at? (place ++ [name]) with
          | none =>
            have nothing : files.find? (place ++ [name]) = none := by rw [find?, there]; rfl
            rw [nothing]
            dsimp only
            cases rest with
            | nil => exact .filled _
            | cons next rest =>
              rw [leg_of_isRegular found regular]
              exact .failed _ _
          | some other =>
            -- With a file before and now, the walk goes on in both, if only to stop there.
            obtain ⟨mode, content, node⟩ := exists_of_isRegular (before other there)
            have then_too : files.find? (place ++ [name]) = some (.regular mode content) := by
              rw [find?, there, Option.map_some, node]
            rw [then_too]
            exact ih (place ++ [name])
    · -- No walk gets through a file, and none gets on where there is nothing.
      rw [leg_of_isRegular found regular]
      cases there : files.at? place with
      | none =>
        rw [leg, there]
        exact .failed _ _
      | some other =>
        rw [leg_of_isRegular there (before other there)]
        exact .same _

omit resembles in
/-- A walk that ends with a dot ends in something that there is, and so does the rest of it behind
a link. -/
theorem leg_dot {follow : Bool} {place : Location} {names : List String}
    (dot : names.getLast? = some ".") :
    (∀ missing, files.leg follow place names ≠ .absent missing) ∧
    ∀ start target rest, files.leg follow place names = .detour start target rest →
      rest.getLast? = some "." := by
  -- The dot is the last name, so it stays the last one as long as there are names before it.
  induction names generalizing place with
  | nil => cases dot
  | cons name rest ih =>
    cases rest with
    | nil =>
      -- The dot itself leads to where the walk has come to.
      obtain rfl : name = "." := by simpa using dot
      rw [leg]
      split
      · simp
      · split
        · simp
        · split <;> simp [leg]
    | cons next rest =>
      have further (place : Location) := @ih place (by simpa using dot)
      rw [leg]
      split
      · simp
      · split
        · simp
        split
        · simp
        split
        · exact further place
        split
        · exact further place.dropLast
        split
        · simp
        split
        · simp
        · -- A link that is met has the dot among the names behind it.
          simp only [List.isEmpty_cons, Bool.false_and, Bool.false_eq_true, if_false]
          refine ⟨nofun, ?_⟩
          rintro _ _ _ ⟨⟩
          simpa using dot
        · exact further (place ++ [name])

omit resembles in
/-- A path that ends with a dot leads to something that there is, or nowhere. -/
theorem walkFrom_dot {follow : Bool} {links : Nat} {place : Location} {names : List String}
    {slash : Bool} {arrival : Arrival} (dot : names.getLast? = some ".")
    (walked : files.walkFrom follow links place names slash = .ok arrival) :
    arrival.missing = false := by
  -- The induction is on the links; behind each of them the names still end with the dot.
  induction links generalizing place names slash with
  | zero =>
    obtain ⟨present, -⟩ := @leg_dot files (follow || slash) place names dot
    rw [walkFrom] at walked
    split at walked
    · cases walked
      rfl
    · rename_i absent
      exact absurd absent (present _)
    · cases walked
    · cases walked
  | succ links ih =>
    obtain ⟨present, further⟩ := @leg_dot files (follow || slash) place names dot
    rw [walkFrom] at walked
    split at walked
    · cases walked
      rfl
    · rename_i absent
      exact absurd absent (present _)
    · cases walked
    · rename_i start target rest met
      dsimp only at walked
      split at walked
      · cases walked
      · exact ih (by rw [List.getLast?_append, further _ _ _ met]; rfl) walked

/-- A walk through at most so many links comes equally far in both trees. -/
theorem walkFrom_alike (follow : Bool) (links : Nat) (place : Location) (names : List String)
    (slash : Bool) : ArrivesAlike (files.walkFrom follow links place names slash)
      (later.walkFrom follow links place names slash) := by
  -- The legs are alike, and where both meet a link it is the same one with the same names to go.
  induction links generalizing place names slash with
  | zero =>
    have step := leg_resembles resembles (follow || slash) place names
    rw [walkFrom, walkFrom]
    generalize files.leg (follow || slash) place names = first at step ⊢
    generalize later.leg (follow || slash) place names = second at step ⊢
    cases step with
    | same => exact .same _
    | failed => exact .failed _ _
    | filled => exact .filled _ _
  | succ links ih =>
    have step := leg_resembles resembles (follow || slash) place names
    rw [walkFrom, walkFrom]
    generalize files.leg (follow || slash) place names = first at step ⊢
    generalize later.leg (follow || slash) place names = second at step ⊢
    cases step with
    | same =>
      cases first with
      | arrived | absent | failed => exact .same _
      | detour start target rest =>
        dsimp only
        split
        · exact .same _
        · exact ih ..
    | failed => exact .failed _ _
    | filled => exact .filled _ _

/-- A path leads equally far in both trees. -/
theorem walk_alike (directory : Location) (text : String) (follow : Bool) :
    ArrivesAlike (files.walk directory text follow) (later.walk directory text follow) := by
  rw [walk, walk]
  split
  · exact .same _
  split
  · exact .same _
  · exact walkFrom_alike resembles ..

/-- What is found by a path now is a regular file, or what has been found by it before. -/
theorem cases_of_locateFile {directory : Location} {text : String} {follow : Bool}
    {place : Location} {file : File}
    (located : later.locateFile directory text follow = .ok (place, file)) :
    file.node.isRegular = true ∨ files.locateFile directory text follow = .ok (place, file) := by
  have step := walk_alike resembles directory text follow
  obtain ⟨arrival, walked, found⟩ := Machine.exists_of_bind_ok located
  -- Where the path has led before, if anywhere, it still leads.
  obtain ⟨missing, before⟩ : ∃ missing, files.walk directory text follow =
      .ok { arrival with missing } := by
    rw [walked] at step
    generalize files.walk directory text follow = first at step ⊢
    cases step with
    | same => exact ⟨_, rfl⟩
    | filled => exact ⟨_, rfl⟩
  rcases resembles arrival.place with same | ⟨⟨other, there, regular⟩, -⟩
  · right
    rw [locateFile, before]
    rw [same] at found
    exact found
  · left
    rw [there] at found
    dsimp only at found
    split at found
    · cases found
    · cases found
      exact regular

/-- The directory of a path is the same in both trees, or none in either. -/
theorem parentOf_toOption (directory : Location) (path : Path) :
    (later.parentOf directory path).toOption = (files.parentOf directory path).toOption := by
  have step := walkFrom_alike resembles true Path.mostLinks (path.start directory)
    (path.names.dropLast ++ ["."]) false
  -- The dot behind the names lets no walk end at a file that is not there.
  have present (arrival : Arrival) := @walkFrom_dot files true Path.mostLinks
    (path.start directory) (path.names.dropLast ++ ["."]) false arrival (by simp)
  rw [parentOf, parentOf]
  generalize files.walkFrom true Path.mostLinks (path.start directory)
    (path.names.dropLast ++ ["."]) false = first at step present ⊢
  generalize later.walkFrom true Path.mostLinks (path.start directory)
    (path.names.dropLast ++ ["."]) false = second at step ⊢
  cases step with
  | same => rfl
  | failed => rfl
  | filled =>
    cases present _ rfl

/-- Links are the same in both trees. -/
theorem link?_eq (place : Location) :
    later.find? place = files.find? place ∨
      (∀ target, later.find? place ≠ some (.link target)) ∧
        ∀ target, files.find? place ≠ some (.link target) := by
  rcases resembles place with same | ⟨⟨file, found, regular⟩, before⟩
  · left
    rw [find?, find?, same]
  · -- Where the trees differ there are regular files, which are no links.
    right
    refine ⟨fun target linked => ?_, fun target linked => ?_⟩
    · rw [find?, found, Option.map_some] at linked
      rw [Option.some.inj linked] at regular
      cases regular
    · obtain ⟨other, there, linked⟩ := Option.map_eq_some_iff.mp linked
      have regular := before other there
      rw [linked] at regular
      cases regular

/-- The place for a file under a path is the same in both trees, or none in either, if links lead
to the same places. -/
theorem placeUnder_toOption (fresh : Bool)
    {first second : Location → String → Except Errno Location}
    (alike : ∀ parent target, (second parent target).toOption = (first parent target).toOption)
    (directory : Location) (path : Path) :
    (later.placeUnder fresh second directory path).toOption =
      (files.placeUnder fresh first directory path).toOption := by
  have same := parentOf_toOption resembles directory path
  unfold placeUnder
  cases path.names.getLast? with
  | none => rfl
  | some name =>
    dsimp only
    generalize later.parentOf directory path = now at same ⊢
    generalize files.parentOf directory path = before at same ⊢
    cases now with
    | error =>
      cases before with
      | error => rfl
      | ok => cases same
    | ok parent =>
      cases before with
      | error => cases same
      | ok other =>
        -- The directory is the same, and so are the reasons to go no further.
        obtain rfl : parent = other := Option.some.inj same
        simp only [bind, Except.bind]
        split
        · rfl
        split
        · rfl
        split
        · rfl
        split
        · rfl
        rcases link?_eq resembles (parent ++ [name]) with known | ⟨other, before⟩
        · rw [known]
          split
          · split
            · rfl
            · exact alike ..
          · rfl
        · -- Neither tree has a link there, so the walk ends.
          split
          · exact absurd ‹_› (other _)
          · rfl

/-- So it is after following at most so many links. -/
theorem placeWithin_toOption (fresh : Bool) (links : Nat) (directory : Location) (path : Path) :
    (later.placeWithin fresh links directory path).toOption =
      (files.placeWithin fresh links directory path).toOption := by
  -- A link leads on from the same directory, with one link less still allowed.
  induction links generalizing directory path with
  | zero => exact placeUnder_toOption resembles fresh (fun _ _ => rfl) directory path
  | succ links ih =>
    rw [placeWithin, placeWithin]
    refine placeUnder_toOption resembles fresh (fun parent target => ?_) directory path
    split
    · rfl
    · exact ih ..

/-- The place to create a file at is the same in both trees, or none in either. -/
theorem placeToCreate_eq_ok_iff {directory : Location} {text : String} {fresh : Bool}
    {place : Location} : later.placeToCreate directory text fresh = .ok place ↔
      files.placeToCreate directory text fresh = .ok place := by
  have same : (later.placeToCreate directory text fresh).toOption =
      (files.placeToCreate directory text fresh).toOption := by
    unfold placeToCreate
    split
    · rfl
    split
    · rfl
    · exact placeWithin_toOption resembles ..
  generalize later.placeToCreate directory text fresh = now at same ⊢
  generalize files.placeToCreate directory text fresh = before at same ⊢
  cases now <;> cases before <;> simp_all [Except.toOption]

end FileSystem

end LineShell
