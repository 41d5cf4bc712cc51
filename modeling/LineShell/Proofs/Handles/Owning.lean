import LineShell.Proofs.Machine.Following

/-! Owning: what the interpreter holds beside what its tasks keep, in every order of steps. -/

namespace LineShell

/-- A list in which one element is replaced keeps what the others give. -/
theorem perm_filterMap_set {β γ : Type} {list : List β} {index : Nat} {old : β}
    (found : list[index]? = some old) (new : β) (give : β → Option γ) :
    ((give new).toList ++ list.filterMap give).Perm
      ((give old).toList ++ (list.set index new).filterMap give) := by
  -- Each element stands in front of what the rest gives.
  have cons (head : β) (tail : List β) :
      (head :: tail).filterMap give = (give head).toList ++ tail.filterMap give := by
    rw [List.filterMap_cons]
    cases give head <;> rfl
  -- The induction goes down the list to the element that is replaced.
  induction list generalizing index with
  | nil => cases found
  | cons head tail ih =>
    cases index with
    | zero =>
      cases found
      rw [List.set_cons_zero, cons, cons]
      exact List.perm_append_comm_assoc ..
    | succ index =>
      rw [List.set_cons_succ, cons, cons]
      exact (List.perm_append_comm_assoc ..).trans <|
        ((ih found).append_left _).trans (List.perm_append_comm_assoc ..)

namespace ReaperTask

/-- The handle that a task has not given up yet. -/
def held? (task : ReaperTask) : Option Handle :=
  match task.progress with
  | .waiting | .closing _ => task.keeps
  | .finished _ => none

/-- The handle that a task has given up. -/
def released? (task : ReaperTask) : Option Handle :=
  match task.progress with
  | .waiting | .closing _ => none
  | .finished _ => task.keeps

end ReaperTask

namespace Machine

variable {machine after : Machine} {owned : List Handle}

/-- The handles that the tasks of the interpreter have not given up yet. -/
def kept (machine : Machine) : List Handle :=
  machine.reapers.filterMap ReaperTask.held?

/-- The handles that the interpreter owns, beside those that its tasks have not given up yet. -/
def Owns (machine : Machine) (owned : List Handle) : Prop :=
  machine.held.Perm (owned ++ machine.kept)

/-- Whatever leaves the handles and the tasks of the interpreter alone leaves it what it owns. -/
theorem Owns.onward (owns : machine.Owns owned) (onward : machine.Onward after) :
    after.Owns owned := by
  rw [Owns, kept, onward.held, onward.reapers]
  exact owns

/-- A task that has changed without giving anything up leaves the interpreter what it owns. -/
theorem Owns.kept_set (owns : machine.Owns owned) {index : Nat} {task : ReaperTask}
    (found : machine.reapers[index]? = some task) {changed : ReaperTask}
    (same : changed.held? = task.held?) :
    Owns { machine with reapers := machine.reapers.set index changed } owned := by
  -- What the task holds stands on both sides, and falls away.
  have moved := perm_filterMap_set found changed ReaperTask.held?
  rw [same, List.perm_append_left_iff] at moved
  exact owns.trans (moved.append_left owned)

/-- A task takes what it gives up from nobody else. -/
theorem Owns.stepReaper (owns : machine.Owns owned) {index : Nat}
    (stepped : machine.stepReaper index = some after) : after.Owns owned := by
  obtain ⟨task, status, found, ⟨waiting, middle, onward, -, rfl⟩ | ⟨closing, rfl⟩⟩ :=
    stepped_of_stepReaper stepped
  · -- It has only noted that its process is over, and holds what it has held.
    have there : middle.reapers[index]? = some task := by rw [onward.reapers, found]
    rw [← onward.reapers]
    exact (owns.onward onward).kept_set there (by simp [ReaperTask.held?, waiting])
  · -- It is finished, so that its handle is no longer among those that are kept.
    have moved := perm_filterMap_set found { task with progress := .finished status }
      ReaperTask.held?
    have before : task.held? = task.keeps := by simp [ReaperTask.held?, closing]
    have after : ReaperTask.held? { task with progress := .finished status } = none := rfl
    rw [before, after] at moved
    have whole := owns.trans (moved.append_left owned)
    cases keeps : task.keeps with
    | none =>
      rw [keeps] at whole
      exact whole
    | some handle =>
      rw [keeps] at whole
      -- It is one of those that are held, and is taken out once.
      have given := (whole.trans List.perm_middle).erase handle
      rw [List.erase_cons_head] at given
      exact given

/-- Whoever makes a step beside the interpreter leaves it what it owns. -/
theorem Owns.moved (owns : machine.Owns owned) {agent : Agent}
    (stepped : machine.step agent = some after) : after.Owns owned := by
  cases agent with
  | process number => exact owns.onward (beside_of_stepProcess stepped).toOnward
  | reaper index => exact owns.stepReaper stepped
  | clock => exact owns.onward (beside_of_stepClock stepped).toOnward

/-- A handle that is closed is owned once less. -/
theorem Owns.closed {handle : Handle} (owns : machine.Owns (handle :: owned)) :
    Owns { machine with held := machine.held.erase handle } owned := by
  have given := List.Perm.erase handle owns
  rw [List.cons_append, List.erase_cons_head] at given
  exact given

end Machine

end LineShell
