import LineShell.Proofs.Pipeline.Order

/-! Agreement: what comes of a line is settled by what is granted and what is refused to it. -/

namespace LineShell

variable {β : Type}

/-- Whether two lists agree as far as both of them go. -/
def Agree (first second : List β) : Prop :=
  ∀ (index : Nat) (one other : β),
    first[index]? = some one → second[index]? = some other → one = other

namespace Agree

variable {first second third fourth : List β}

theorem symm (agree : Agree first second) : Agree second first :=
  fun index one other found there => (agree index other one there found).symm

/-- Lists that agree do so in their first parts. -/
theorem mono (agree : Agree first second) (earlier : third <+: first) (before : fourth <+: second) :
    Agree third fourth := by
  obtain ⟨later, rfl⟩ := earlier
  obtain ⟨rest, rfl⟩ := before
  intro index one other found there
  have within := (List.getElem?_eq_some_iff.mp found).1
  have inside := (List.getElem?_eq_some_iff.mp there).1
  exact agree index one other (by rwa [List.getElem?_append_left within])
    (by rwa [List.getElem?_append_left inside])

/-- Behind parts of one length the rests agree. -/
theorem right (agree : Agree (first ++ third) (second ++ fourth))
    (same : first.length = second.length) : Agree third fourth := by
  intro index one other found there
  refine agree (first.length + index) one other ?_ ?_
  · rwa [List.getElem?_append_right (Nat.le_add_right ..), Nat.add_sub_cancel_left]
  · rwa [same, List.getElem?_append_right (Nat.le_add_right ..), Nat.add_sub_cancel_left]

/-- Where both of them go on, they go on alike. -/
theorem head {one other : β} (agree : Agree (one :: third) (other :: fourth)) : one = other :=
  agree 0 one other rfl rfl

theorem tail {one other : β} (agree : Agree (one :: third) (other :: fourth)) :
    Agree third fourth :=
  fun index => agree (index + 1)

end Agree

/-- What has been granted and what has been refused by some events, one after another. -/
def verdicts (events : List Event) : List (Option LineError) :=
  events.map Event.error?

theorem verdicts_append (first second : List Event) :
    verdicts (first ++ second) = verdicts first ++ verdicts second :=
  List.map_append

theorem verdicts_isPrefix (first second : List Event) :
    verdicts first <+: verdicts (first ++ second) :=
  verdicts_append first second ▸ List.prefix_append ..

/-- As many actions as deeds. -/
theorem length_actions {events : List Event} (deeds : ∀ event ∈ events, event.action?.isSome) :
    (events.filterMap Event.action?).length = events.length := by
  induction events with
  | nil => rfl
  | cons event rest ih =>
    obtain ⟨action, found⟩ := Option.isSome_iff_exists.mp (deeds event List.mem_cons_self)
    simp [found, ih fun other member => deeds other (List.mem_cons_of_mem _ member)]

namespace Reading

/-- How a stage has been built as far as that does not depend on handles: whether it has been, and
the error if not. -/
abbrev verdict (result : Except LineError Stage) : Except LineError Unit :=
  result.map fun _ => ()

/-- How far the building of a stage has come: through its whole preparation, without a refusal, or
up to the refusal that has ended it. -/
theorem Built.cases_of_deeds {reading : Reading} {stdin : Source} {events : List Event}
    {result : Except LineError Stage} (built : reading.Built stdin events result)
    (deeds : ∀ event ∈ events, event.action?.isSome) :
    ((∀ event ∈ events, event.error? = none) ∧ events.length = reading.preparation.length ∧
      verdict result = match reading.closing with
        | .dangling operator => .error (.missingOperand operator)
        | .finish | .pipe => .ok ()) ∨
    ∃ before last error, events = before ++ [last] ∧ (∀ event ∈ before, event.error? = none) ∧
      last.error? = some error ∧ result = .error error ∧
      events.length ≤ reading.preparation.length := by
  have counted := length_actions deeds
  cases built with
  | complete granted order ended =>
    refine .inl ⟨granted, by rw [← counted, order], ?_⟩
    cases closing : reading.closing with
    | finish | pipe => rfl
    | dangling => simp [isDangling, closing] at ended
  | dangling granted order ended =>
    exact .inl ⟨granted, by rw [← counted, order], by rw [ended]; rfl⟩
  | @refused before last error split granted refused order =>
    exact .inr ⟨before, last, error, split, granted, refused, rfl, counted ▸ order.length_le⟩

/-- Events without a refusal do not agree with some that come to one on their way. -/
theorem granted_ne {granted before : List Event} {last : Event} {error : LineError}
    (all : ∀ event ∈ granted, event.error? = none) (refused : last.error? = some error)
    (within : before.length < granted.length)
    (agree : Agree (verdicts granted) (verdicts (before ++ [last]))) : False := by
  have none_there := all granted[before.length] (List.getElem_mem _)
  have same := agree before.length none (some error) (by simp [verdicts, within, none_there])
    (by simp [verdicts, refused])
  cases same

/-- Whether a stage is built, and after how many deeds, is settled by the verdicts. -/
theorem Built.determined {reading : Reading} {stdin source : Source}
    {events others : List Event} {result other : Except LineError Stage}
    (first : reading.Built stdin events result) (second : reading.Built source others other)
    (firstDeeds : ∀ event ∈ events, event.action?.isSome)
    (secondDeeds : ∀ event ∈ others, event.action?.isSome)
    (agree : Agree (verdicts events) (verdicts others)) :
    events.length = others.length ∧ verdict result = verdict other := by
  -- Whoever comes to a refusal does so before the other is through, or both do so together.
  rcases first.cases_of_deeds firstDeeds with
    ⟨granted, length, same⟩ | ⟨before, last, error, rfl, granted, refused, rfl, length⟩ <;>
  rcases second.cases_of_deeds secondDeeds with
    ⟨granted', length', same'⟩ | ⟨before', last', error', rfl, granted', refused', rfl, length'⟩
  · exact ⟨length.trans length'.symm, same.trans same'.symm⟩
  · refine (granted_ne granted refused' ?_ agree).elim
    simp only [List.length_append, List.length_singleton] at length'
    omega
  · refine (granted_ne granted' refused ?_ agree.symm).elim
    simp only [List.length_append, List.length_singleton] at length
    omega
  · rcases Nat.lt_trichotomy before.length before'.length with less | same | more
    · exact (granted_ne granted' refused less
        (agree.symm.mono (verdicts_isPrefix before' [last']) List.prefix_rfl)).elim
    · refine ⟨by simp [same], ?_⟩
      -- The two refusals stand at the same place.
      rw [verdicts_append, verdicts_append] at agree
      have told := (agree.right (by simp [verdicts, same])).head
      cases refused.symm.trans (told.trans refused')
      rfl
    · exact (granted_ne granted refused' more
        (agree.mono (verdicts_isPrefix before [last]) List.prefix_rfl)).elim

end Reading

/-- All of some events are deeds. -/
abbrev AreDeeds (events : List Event) : Prop :=
  ∀ event ∈ events, event.action?.isSome

namespace Course

variable {readings others : List Reading} {whole : Reading} {stdin source : Source}
  {events : List Event} {started alike : List Reaper} {error other : Option LineError}

/-- What becomes of the first stage of a line, behind the deeds that have built it. -/
inductive Behind (others : List Reading) (next : Source) :
    Except LineError Stage → List Event → List Reaper → Option LineError → Prop
  | unbuilt (error : LineError) : Behind others next (.error error) [] [] (some error)
  | unstarted {stage : Stage} {event : Event} {error : LineError}
      (refused : event.error? = some error) : Behind others next (.ok stage) [event] [] (some error)
  | started {stage : Stage} {event : Event} {later : List Event} {reaper : Reaper}
      {started : List Reaper} {error : Option LineError} (granted : event.error? = none)
      (rest : Course others next later started error) :
      Behind others next (.ok stage) (event :: later) (reaper :: started) error

/-- The course of a line begins with the building of its first stage. -/
theorem exists_behind (course : Course (whole :: others) stdin events started error) :
    ∃ first later result, events = first ++ later ∧ whole.Built stdin first result ∧
      Behind others (Reading.inherited first) result later started error := by
  cases course with
  | started built rest => exact ⟨_, _, _, rfl, built, .started rfl rest⟩
  | unstarted cause built => exact ⟨_, _, _, rfl, built, .unstarted rfl⟩
  | unbuilt built => exact ⟨_, [], _, (List.append_nil _).symm, built, .unbuilt _⟩

/-- How many stages are started, and by which error a line ends, is settled by the verdicts. -/
theorem determined {behaved : List Event} (first : Course readings stdin events started error)
    (second : Course readings source behaved alike other) (firstDeeds : AreDeeds events)
    (secondDeeds : AreDeeds behaved) (agree : Agree (verdicts events) (verdicts behaved)) :
    events.length = behaved.length ∧ started.length = alike.length ∧ error = other := by
  -- Stage by stage both are built alike, and then what comes behind is the same.
  induction readings generalizing stdin source events behaved started alike with
  | nil =>
    cases first
    cases second
    exact ⟨rfl, rfl, rfl⟩
  | cons whole others ih =>
    obtain ⟨own, later, result, rfl, built, behind⟩ := first.exists_behind
    obtain ⟨own', later', result', rfl, built', behind'⟩ := second.exists_behind
    obtain ⟨ownDeeds, laterDeeds⟩ := List.forall_mem_append.mp firstDeeds
    obtain ⟨ownDeeds', laterDeeds'⟩ := List.forall_mem_append.mp secondDeeds
    rw [verdicts_append, verdicts_append] at agree
    obtain ⟨length, verdict⟩ := built.determined built' ownDeeds ownDeeds'
      (agree.mono (List.prefix_append ..) (List.prefix_append ..))
    have further := agree.right (by simp [verdicts, length])
    rw [List.length_append, List.length_append, length]
    cases behind with
    | unbuilt error =>
      cases behind' with
      | unbuilt error' =>
        cases verdict
        exact ⟨rfl, rfl, rfl⟩
      | unstarted | started => cases verdict
    | unstarted refused =>
      cases behind' with
      | unbuilt => cases verdict
      | unstarted refused' =>
        have same := further.head
        rw [refused, refused'] at same
        exact ⟨rfl, rfl, same⟩
      | started granted =>
        have same := further.head
        rw [refused, granted] at same
        cases same
    | started granted rest =>
      cases behind' with
      | unbuilt => cases verdict
      | unstarted refused =>
        have same := further.head
        rw [refused, granted] at same
        cases same
      | started granted' rest' =>
        obtain ⟨lengths, counts, errors⟩ := ih rest rest' (List.forall_mem_cons.mp laterDeeds).2
          (List.forall_mem_cons.mp laterDeeds').2 further.tail
        exact ⟨by simp only [List.length_cons]; omega, by simp only [List.length_cons, counts],
          errors⟩

end Course

end LineShell
