import LineShell.Script.Name

/-! Variables: what a script stores under names, and the order in which they are listed. -/

namespace LineShell.Script

/-- A table of what is stored under names, in the order in which the names came in. -/
abbrev Table (α : Type) := List (Bytes × α)

namespace Table

variable {α : Type}

/-- What is stored under a name. -/
def find? (table : Table α) (name : Bytes) : Option α :=
  table.lookup name

/-- Changes what is stored under a name, or stores something under a new name. -/
def put (table : Table α) (name : Bytes) (entry : α) : Table α :=
  if table.any fun stored => stored.1 = name then
    table.map fun stored => if stored.1 = name then (name, entry) else stored
  else table ++ [(name, entry)]

/-- The table without a name. -/
def drop (table : Table α) (name : Bytes) : Table α :=
  table.filter fun stored => stored.1 ≠ name

/-- The number by which a name is sorted into one of some rows. -/
def row (rows : Nat) (name : Bytes) : Nat :=
  let start := (name.headD 0).toNat * 16
  (name.foldl (fun sum byte => sum + byte.toNat) start) % rows

/-- The table row after row. -/
def byRows (rows : Nat) (table : Table α) : Table α :=
  (List.range rows).flatMap fun number => table.filter fun stored => row rows stored.1 = number

/-- The table by name. -/
def sorted (table : Table α) : Table α :=
  table.mergeSort fun first second => !(second.1.lex first.1 fun a b => decide (a < b))

/-- What was put under a name is found there. -/
@[simp] theorem find?_put_same (table : Table α) (name : Bytes) (entry : α) :
    (table.put name entry).find? name = some entry := by
  unfold put find?
  by_cases present : table.any (fun stored => decide (stored.1 = name)) = true
  · simp only [present, if_true]
    induction table with
    | nil => simp at present
    | cons first rest ih =>
      obtain ⟨key, old⟩ := first
      by_cases same : key = name
      · simp [same]
      · have different : ¬ name = key := fun equal => same equal.symm
        have inRest : rest.any (fun stored => decide (stored.1 = name)) = true := by
          simpa [same] using present
        have found := ih inRest
        have unequal : (name == key) = false := by simpa using different
        simp only [List.map_cons, same, if_false, List.lookup_cons, unequal]
        exact found
  · have absent : table.lookup name = none := by
      rw [List.lookup_eq_none_iff]
      intro stored mem
      simp only [List.any_eq_true, not_exists, not_and] at present
      have different := present stored mem
      simp only [decide_eq_true_eq] at different
      simpa [beq_eq_false_iff_ne] using fun same => different same.symm
    simp only [present]
    simp [List.lookup_append, absent]

/-- Nothing is found under a name that was dropped. -/
@[simp] theorem find?_drop_same (table : Table α) (name : Bytes) :
    (table.drop name).find? name = none := by
  unfold drop find?
  rw [List.lookup_eq_none_iff]
  intro stored mem
  have different := (List.mem_filter.1 mem).2
  simp only [ne_eq, decide_not, Bool.not_eq_eq_eq_not, Bool.not_true, decide_eq_false_iff_not]
    at different
  simpa [beq_eq_false_iff_ne] using fun same => different same.symm

end Table

/-- A variable. -/
structure Variable where
  /-- There is none as long as nothing has been assigned. -/
  value : Option Bytes := none
  /-- Programs are started with the variable. -/
  exported : Bool := false
  /-- The value cannot be changed. -/
  fixed : Bool := false
  /-- The variable stays when it is forgotten. -/
  lasting : Bool := false
  deriving DecidableEq, Repr, Inhabited

/-- How many rows the variables are sorted into. -/
def variableRows : Nat := 39

/-- The variables that programs are started with. -/
def environmentOf (table : Table Variable) : Environment :=
  (table.byRows variableRows).filterMap fun (name, entry) =>
    if entry.exported then entry.value.map (name, ·) else none

end LineShell.Script
