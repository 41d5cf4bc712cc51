import LineShell.Machine.Behaviour

/-! Filters: programs that read all of their input before they write anything. -/

namespace LineShell

namespace Behaviour

/-- Whether a behaviour writes some bytes to the standard output and then ends with a code, however
few of them are taken at a time. -/
inductive Writes (code : UInt8) : Bytes → Behaviour → Prop
  | exit : Writes code [] (.exit code)
  | write {unsent data : Bytes} {next : Except Errno Nat → Behaviour} (filled : data ≠ [])
      (offered : data <+: unsent)
      (further : ∀ count, 0 < count → count ≤ data.length →
        Writes code (unsent.drop count) (next (.ok count))) :
      Writes code unsent (.ask (.write 1 data) next)

/-- What a behaviour offers that writes some bytes. -/
theorem Writes.offer {code : UInt8} {unsent data : Bytes} {next : Except Errno Nat → Behaviour}
    (writes : (Behaviour.ask (.write 1 data) next).Writes code unsent) :
    data ≠ [] ∧ data <+: unsent ∧ ∀ count, 0 < count → count ≤ data.length →
      (next (.ok count)).Writes code (unsent.drop count) := by
  cases writes with
  | write filled offered further => exact ⟨filled, offered, further⟩

/-- Whether a behaviour reads what is left of the standard input, in whatever blocks that comes, and
writes its output when there is nothing left. -/
inductive Gathers (output : Bytes) (code : UInt8) : Bytes → Behaviour → Prop
  | read {unread : Bytes} {limit : Nat} {next : Except Errno Bytes → Behaviour} (asked : 0 < limit)
      (further : ∀ data rest, unread = data ++ rest → data ≠ [] → data.length ≤ limit →
        Gathers output code rest (next (.ok data)))
      (ended : unread = [] → Writes code output (next (.ok []))) :
      Gathers output code unread (.ask (.read 0 limit) next)

end Behaviour

/-- What a program makes of its whole input, and the code that it ends with. -/
structure Filter where
  apply : Bytes → Bytes
  code : UInt8

namespace Filter

/-- Whether a behaviour does with an input what a filter does. -/
abbrev Acts (filter : Filter) (input : Bytes) (behaviour : Behaviour) : Prop :=
  behaviour.Gathers (filter.apply input) filter.code input

/-- What comes out behind the first of some filters, each of which gets what the one before it makes
of its own input. -/
def stream (filters : List Filter) (input : Bytes) (count : Nat) : Bytes :=
  (filters.take count).foldl (fun data filter => filter.apply data) input

/-- Before the first filter there is the input itself. -/
@[simp] theorem stream_zero (filters : List Filter) (input : Bytes) : stream filters input 0 = input :=
  rfl

/-- Behind one more filter there is what that makes of what is before it. -/
theorem stream_succ {filters : List Filter} {input : Bytes} {count : Nat} {filter : Filter}
    (found : filters[count]? = some filter) :
    stream filters input (count + 1) = filter.apply (stream filters input count) := by
  simp [stream, List.take_add_one, found]

/-- The plainest program for a filter. -/
def task (filter : Filter) : Task UInt8 := do
  match ← Task.readAll 0 with
  | .error _ => pure 1
  | .ok input =>
    discard (Task.writeAll 1 (filter.apply input))
    pure filter.code

end Filter

namespace Task

/-- A round more is one step, and then the rounds before it. -/
theorem repeatFor_succ {α σ : Type} (step : σ → Task (σ ⊕ α)) (rounds : Nat) (state : σ)
    (next : α → Behaviour) : repeatFor step (rounds + 1) state next =
      step state (Sum.elim (fun state => repeatFor step rounds state next) next) := by
  rw [repeatFor]
  refine congrArg (step state) (funext fun reply => ?_)
  cases reply <;> rfl

/-- Whoever writes what is left in each round, and goes on with what has not been taken, writes
everything, as long as there is a round for each byte. -/
theorem writes_repeatFor {code : UInt8} {step : Bytes → Task (Bytes ⊕ Except Errno Unit)}
    (stops : ∀ next, step [] next = next (.inr (.ok ())))
    (writes : ∀ byte rest next, ∃ further, step (byte :: rest) next =
      .ask (.write 1 (byte :: rest)) further ∧
        ∀ count, further (.ok count) = next (.inl ((byte :: rest).drop count)))
    {last : Except Errno Unit → Behaviour} (ended : (last (.ok ())).Writes code []) (rounds : Nat)
    (data : Bytes) (enough : data.length < rounds) :
    (repeatFor step rounds data last).Writes code data := by
  -- Each round takes a byte at least, so the rounds stay more than the bytes that are left.
  induction rounds generalizing data with
  | zero => exact absurd enough (Nat.not_lt_zero _)
  | succ rounds ih =>
    rw [repeatFor_succ]
    cases data with
    | nil =>
      rw [stops]
      exact ended
    | cons byte rest =>
      obtain ⟨further, asks, goes_on⟩ := writes byte rest
        (Sum.elim (fun state => repeatFor step rounds state last) last)
      rw [asks]
      refine .write (List.cons_ne_nil _ _) List.prefix_rfl fun count some within => ?_
      rw [goes_on]
      refine ih _ ?_
      rw [List.length_drop]
      omega

/-- Whoever reads a block in each round, and goes on until there is none, reads everything, as long
as there is a round for each byte. -/
theorem gathers_repeatFor {output : Bytes} {code : UInt8}
    {step : List Bytes → Task (List Bytes ⊕ Except Errno Bytes)} {limit : Nat} (asked : 0 < limit)
    (reads : ∀ blocks next, ∃ further, step blocks next = .ask (.read 0 limit) further ∧
      further (.ok []) = next (.inr (.ok blocks.reverse.flatten)) ∧
        ∀ byte rest, further (.ok (byte :: rest)) = next (.inl ((byte :: rest) :: blocks)))
    {last : Except Errno Bytes → Behaviour} {input : Bytes}
    (ended : (last (.ok input)).Writes code output) (rounds : Nat) (blocks : List Bytes)
    (unread : Bytes) (whole : blocks.reverse.flatten ++ unread = input)
    (enough : unread.length < rounds) :
    (repeatFor step rounds blocks last).Gathers output code unread := by
  -- What has been read, the last block first, and what is left are the input in every round.
  induction rounds generalizing blocks unread with
  | zero => exact absurd enough (Nat.not_lt_zero _)
  | succ rounds ih =>
    rw [repeatFor_succ]
    obtain ⟨further, asks, finds_end, goes_on⟩ := reads blocks
      (Sum.elim (fun state => repeatFor step rounds state last) last)
    rw [asks]
    refine .read asked (fun data rest split filled _ => ?_) fun empty => ?_
    · cases data with
      | nil => exact absurd rfl filled
      | cons byte others =>
        subst split
        rw [goes_on]
        refine ih _ _ (by simpa using whole) ?_
        rw [List.length_append, List.length_cons] at enough
        omega
    · -- With nothing left, what has been read is the input.
      subst empty
      obtain rfl : blocks.reverse.flatten = input := by simpa using whole
      rw [finds_end]
      exact ended

/-- All of some bytes are written. -/
theorem writes_writeAll {code : UInt8} {last : Except Errno Unit → Behaviour}
    (ended : (last (.ok ())).Writes code []) {data : Bytes} (short : data.length < mostRounds) :
    (writeAll 1 data last).Writes code data := by
  -- What is offered in a round is all that is left, and what is not taken is left for the next.
  unfold writeAll iterate
  exact writes_repeatFor (fun _ => rfl) (fun byte rest next => ⟨_, rfl, fun _ => rfl⟩) ended _ _
    short

/-- All that there is to read is read. -/
theorem gathers_readAll {output : Bytes} {code : UInt8} {last : Except Errno Bytes → Behaviour}
    {input : Bytes} (ended : (last (.ok input)).Writes code output)
    (short : input.length < mostRounds) : (readAll 0 last).Gathers output code input := by
  -- Before the first round nothing has been read.
  unfold readAll iterate
  exact gathers_repeatFor (Nat.zero_lt_succ _) (fun blocks next => ⟨_, rfl, rfl, fun _ _ => rfl⟩)
    ended _ [] input rfl short

end Task

/-- The plainest program for a filter does what the filter does, unless there is more to read or to
write than it has rounds. -/
theorem Filter.acts_task (filter : Filter) {input : Bytes} (short : input.length < Task.mostRounds)
    (brief : (filter.apply input).length < Task.mostRounds) :
    filter.Acts input filter.task.toBehaviour :=
  Task.gathers_readAll (Task.writes_writeAll .exit brief) short

end LineShell
