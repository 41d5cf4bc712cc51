import LineShell.Proofs.Pipeline.Agreement
import LineShell.Proofs.Waiting.Errands
import Mathlib.Data.List.Induction

/-! Plans of plain lines: a file is read by the first stage only and one is written by the last
stage only, and all between them goes through pipes. -/

namespace LineShell

/-- Whether a line has stages, of which only the first is told what file to read and only the last
what file to write. -/
structure Reading.IsPlain (readings : List Reading) (input output : Option String) : Prop where
  stages : readings ≠ []
  closing : ∀ index reading, readings[index]? = some reading →
    reading.closing = if index + 1 = readings.length then .finish else .pipe
  files : ∀ index reading, readings[index]? = some reading →
    reading.items.filterMap Item.action? =
      (if index = 0 then input.toList.map Action.openInput else []) ++
        if index + 1 = readings.length then output.toList.map Action.openOutput else []

/-- How often something of each kind has been done for a line. -/
structure Tally where
  lookups : Nat := 0
  starts : Nat := 0
  pipes : Nat := 0
  inputs : Nat := 0
  outputs : Nat := 0
  deriving DecidableEq, Repr, Inhabited

namespace Tally

/-- Both taken together. -/
def add (first second : Tally) : Tally :=
  ⟨first.lookups + second.lookups, first.starts + second.starts, first.pipes + second.pipes,
    first.inputs + second.inputs, first.outputs + second.outputs⟩

/-- What one action counts for. -/
def ofAction : Action → Tally
  | .lookup _ => { lookups := 1 }
  | .openInput _ => { inputs := 1 }
  | .openOutput _ => { outputs := 1 }
  | .pipe => { pipes := 1 }
  | .spawn _ => { starts := 1 }

/-- What some actions count for. -/
def ofActions (actions : List Action) : Tally :=
  actions.foldr (fun action => (ofAction action).add) {}

@[simp] theorem ofActions_nil : ofActions [] = {} :=
  rfl

@[simp] theorem ofActions_cons (action : Action) (rest : List Action) :
    ofActions (action :: rest) = (ofAction action).add (ofActions rest) :=
  rfl

theorem add_assoc (first second third : Tally) :
    (first.add second).add third = first.add (second.add third) := by
  simp [add, Nat.add_assoc]

/-- Actions are counted part by part. -/
theorem ofActions_append (first second : List Action) :
    ofActions (first ++ second) = (ofActions first).add (ofActions second) := by
  induction first with
  | nil => simp [add]
  | cons action rest ih =>
    rw [List.cons_append, ofActions_cons, ofActions_cons, ih, add_assoc]

end Tally

/-- What can be done next for a plain line, by what has been done for it. -/
inductive Due (readings : List Reading) (input output : Option String) : Tally → Action → Prop
  | lookup {starts : Nat} {reading : Reading} (found : readings[starts]? = some reading) :
      Due readings input output
        ⟨starts, starts, starts, if starts = 0 then 0 else input.toList.length, 0⟩
        (.lookup reading.command.text)
  | input {path : String} (told : input = some path) :
      Due readings input output { lookups := 1 } (.openInput path)
  | output {starts : Nat} {path : String} (told : output = some path)
      (last : starts + 1 = readings.length) :
      Due readings input output ⟨starts + 1, starts, starts, input.toList.length, 0⟩
        (.openOutput path)
  | pipe {starts : Nat} (inner : starts + 1 < readings.length) :
      Due readings input output ⟨starts + 1, starts, starts, input.toList.length, 0⟩ .pipe
  | inner {starts : Nat} {reading : Reading} (found : readings[starts]? = some reading)
      (inner : starts + 1 < readings.length) :
      Due readings input output ⟨starts + 1, starts, starts + 1, input.toList.length, 0⟩
        (.spawn reading.arguments)
  | last {starts : Nat} {reading : Reading} (found : readings[starts]? = some reading)
      (last : starts + 1 = readings.length) :
      Due readings input output
        ⟨starts + 1, starts, starts, input.toList.length, output.toList.length⟩
        (.spawn reading.arguments)

/-- What comes next in two lists in a row comes next in the first, or in the second behind all of
the first. -/
theorem isPrefix_append_cases {β : Type} {past first second : List β} {next : β}
    (planned : past ++ [next] <+: first ++ second) :
    past ++ [next] <+: first ∨ ∃ part, past = first ++ part ∧ part ++ [next] <+: second := by
  -- Either it all lies in the first part, or the first part lies in it.
  rcases List.prefix_or_prefix_of_prefix planned (List.prefix_append first second) with
    within | ⟨part, split⟩
  · exact .inl within
  · rcases List.eq_nil_or_concat part with rfl | ⟨part, last, rfl⟩
    · rw [List.append_nil] at split
      exact .inl ⟨[], by rw [List.append_nil, split]⟩
    · rw [List.concat_eq_append, ← List.append_assoc] at split
      obtain ⟨rfl, same⟩ := List.append_inj' split rfl
      cases same
      rw [List.append_assoc] at planned
      exact .inr ⟨part, rfl, (List.prefix_append_right_inj first).mp planned⟩

/-- What comes next in a list of one thing at most is that thing. -/
theorem isPrefix_option_cases {β γ : Type} {past : List γ} {given : Option β} {make : β → γ}
    {next : γ} (planned : past ++ [next] <+: given.toList.map make) :
    past = [] ∧ ∃ value, given = some value ∧ next = make value := by
  cases given with
  | none => simp at planned
  | some value =>
    obtain ⟨rest, split⟩ := planned
    cases past with
    | nil => simpa using (show next = make value ∧ rest = [] by simpa using split).1
    | cons head tail => simp at split

namespace Reading

/-- What is done next for a line is done for one of its stages, behind all that is done for those
before it. -/
theorem exists_stage {readings : List Reading} {past : List Action} {action : Action}
    (planned : past ++ [action] <+: readings.flatMap actions) :
    ∃ front reading back part, readings = front ++ reading :: back ∧
      past = front.flatMap actions ++ part ∧ part ++ [action] <+: reading.actions := by
  induction readings generalizing past with
  | nil => simp at planned
  | cons reading rest ih =>
    rw [List.flatMap_cons] at planned
    -- What lies behind the first stage is looked for in the later ones.
    rcases isPrefix_append_cases planned with within | ⟨part, rfl, behind⟩
    · exact ⟨[], reading, rest, past, rfl, rfl, within⟩
    · obtain ⟨front, other, back, part, rfl, rfl, within⟩ := ih behind
      exact ⟨reading :: front, other, back, part, rfl,
        by rw [List.flatMap_cons, List.append_assoc], within⟩

namespace IsPlain

variable {readings front back : List Reading} {reading : Reading} {input output : Option String}

/-- What is done for a stage of a plain line, one after another. -/
theorem actions_eq (plain : IsPlain readings input output) {index : Nat}
    (found : readings[index]? = some reading) :
    reading.actions = [.lookup reading.command.text] ++
      ((if index = 0 then input.toList.map .openInput else []) ++
      ((if index + 1 = readings.length then output.toList.map .openOutput else []) ++
      ((if index + 1 = readings.length then [] else [.pipe]) ++ [.spawn reading.arguments]))) := by
  have closing := plain.closing index reading found
  have closed : reading.isDangling = false := by
    rw [isDangling, closing]
    by_cases last : index + 1 = readings.length <;> simp [last]
  rw [actions, preparation, closed, plain.files index reading found, closing]
  by_cases last : index + 1 = readings.length <;> simp [last]

/-- What the stages before another one count for. -/
theorem tally_front (plain : IsPlain readings input output)
    (split : readings = front ++ reading :: back) :
    Tally.ofActions (front.flatMap actions) =
      ⟨front.length, front.length, front.length,
        if front.length = 0 then 0 else input.toList.length, 0⟩ := by
  induction front using List.reverseRecOn generalizing reading back with
  | nil => rfl
  | append_singleton front last ih =>
    rw [List.append_assoc, List.singleton_append] at split
    have found : readings[front.length]? = some last := by simp [split]
    have inner : front.length + 1 ≠ readings.length := by simp [split]
    rw [List.flatMap_append, Tally.ofActions_append, ih split, List.flatMap_singleton,
      plain.actions_eq found, if_neg inner, if_neg inner]
    cases front <;> cases input <;> simp [Tally.ofAction, Tally.add]

/-- What a plain line counts for. -/
theorem tally_all (plain : IsPlain readings input output) :
    Tally.ofActions (readings.flatMap actions) =
      ⟨readings.length, readings.length, readings.length - 1, input.toList.length,
        output.toList.length⟩ := by
  obtain rfl | ⟨front, last, rfl⟩ := List.eq_nil_or_concat readings
  · exact absurd rfl plain.stages
  · rw [List.concat_eq_append] at plain ⊢
    have found : (front ++ [last])[front.length]? = some last := by simp
    have final : front.length + 1 = (front ++ [last]).length := by simp
    rw [List.flatMap_append, Tally.ofActions_append, plain.tally_front rfl, List.flatMap_singleton,
      plain.actions_eq found, if_pos final, if_pos final]
    cases front <;> cases input <;> cases output <;> simp [Tally.ofAction, Tally.add]

/-- Whatever is done next for a plain line is due. -/
theorem due (plain : IsPlain readings input output) {past : List Action} {action : Action}
    (planned : past ++ [action] <+: readings.flatMap actions) :
    Due readings input output (Tally.ofActions past) action := by
  obtain ⟨front, reading, back, part, split, rfl, within⟩ := exists_stage planned
  have found : readings[front.length]? = some reading := by simp [split]
  rw [plain.actions_eq found] at within
  rw [Tally.ofActions_append, plain.tally_front split]
  -- The stage is prepared in five steps, of which some are left out.
  rcases isPrefix_append_cases within with first | ⟨part, rfl, afterLookup⟩
  · obtain ⟨rest, same⟩ := first
    cases part with
    | nil =>
      cases same
      exact .lookup found
    | cons head tail => simp at same
  rcases isPrefix_append_cases afterLookup with first | ⟨part, rfl, afterInput⟩
  · cases front with
    | cons => simp at first
    | nil =>
      obtain ⟨rfl, path, told, rfl⟩ := isPrefix_option_cases first
      exact .input told
  -- Behind the look-up and the input, the name has been counted, and the input file if there is
  -- one.
  have opened : Tally.add ⟨front.length, front.length, front.length,
        if front.length = 0 then 0 else input.toList.length, 0⟩
      (Tally.ofActions ([.lookup reading.command.text] ++
        if front.length = 0 then input.toList.map Action.openInput else [])) =
      ⟨front.length + 1, front.length, front.length, input.toList.length, 0⟩ := by
    cases front <;> cases input <;> simp [Tally.ofAction, Tally.add]
  rw [← List.append_assoc, Tally.ofActions_append, ← Tally.add_assoc, opened]
  rcases isPrefix_append_cases afterInput with first | ⟨part, rfl, afterOutput⟩
  · -- Only the last stage has an output file.
    by_cases last : front.length + 1 = readings.length
    · rw [if_pos last] at first
      obtain ⟨rfl, path, told, rfl⟩ := isPrefix_option_cases first
      exact .output told last
    · simp [last] at first
  -- It is started right behind that, and any other stage behind its pipe.
  by_cases last : front.length + 1 = readings.length
  · rw [if_pos last, List.nil_append] at afterOutput
    rw [if_pos last]
    cases part with
    | cons head tail => simp at afterOutput
    | nil =>
      obtain rfl : action = .spawn reading.arguments := by simpa using afterOutput
      have written : Tally.add
          ⟨front.length + 1, front.length, front.length, input.toList.length, 0⟩
          (Tally.ofActions (output.toList.map Action.openOutput ++ [])) =
          ⟨front.length + 1, front.length, front.length, input.toList.length,
            output.toList.length⟩ := by
        cases output <;> simp [Tally.ofAction, Tally.add]
      rw [written]
      exact .last found last
  · have inner : front.length + 1 < readings.length := by
      have within := (List.getElem?_eq_some_iff.mp found).1
      omega
    rw [if_neg last] at afterOutput
    rw [if_neg last, List.nil_append]
    rcases isPrefix_append_cases afterOutput with first | ⟨part, rfl, afterPipe⟩
    · cases part with
      | cons head tail => simp at first
      | nil =>
        obtain rfl : action = .pipe := by simpa using first
        exact .pipe inner
    · cases part with
      | cons head tail => simp at afterPipe
      | nil =>
        obtain rfl : action = .spawn reading.arguments := by simpa using afterPipe
        exact .inner found inner

end IsPlain

end Reading

end LineShell
