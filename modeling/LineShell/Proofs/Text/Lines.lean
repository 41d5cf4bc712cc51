import LineShell.Text.Lines

/-! Lines of an input: where it is cut, and which lines it has. -/

namespace LineShell.Lines

/-- A text without a line feed has no whole line. -/
theorem cut?_of_notMem {text : Bytes} (unended : lineFeed ∉ text) : cut? text = none := by
  induction text with
  | nil => rfl
  | cons byte rest ih =>
    have other : byte ≠ lineFeed := fun same => unended (by simp [same])
    have others : lineFeed ∉ rest := fun later => unended (List.mem_cons_of_mem _ later)
    simp [cut?, other, ih others]

/-- The first line ends at the first line feed. -/
theorem cut?_line {body : Bytes} (unended : lineFeed ∉ body) (rest : Bytes) :
    cut? (body ++ lineFeed :: rest) = some (body, rest) := by
  induction body with
  | nil => simp [cut?]
  | cons byte body ih =>
    have other : byte ≠ lineFeed := fun same => unended (by simp [same])
    have others : lineFeed ∉ body := fun later => unended (List.mem_cons_of_mem _ later)
    simp [cut?, other, ih others]

/-- A text has no line feed, or it has a first one. -/
theorem cases_of_lineFeed (text : Bytes) :
    lineFeed ∉ text ∨
      ∃ body rest, lineFeed ∉ body ∧ text = body ++ lineFeed :: rest := by
  by_cases found : lineFeed ∈ text
  · obtain ⟨body, rest, rfl, unended⟩ := List.eq_append_cons_of_mem found
    exact .inr ⟨body, rest, unended, rfl⟩
  · exact .inl found

/-- A line that a line feed ends comes first, without its carriage return. -/
theorem ofInput_line {body : Bytes} (unended : lineFeed ∉ body) (rest : Bytes) :
    ofInput (body ++ lineFeed :: rest) = trim body :: ofInput rest := by
  -- A carriage return is dropped if the very next byte is the line feed, so the last byte of the
  -- body is a case of its own.
  induction body with
  | nil => simp [ofInput, trim]
  | cons byte body ih =>
    have other : byte ≠ lineFeed := fun same => unended (by simp [same])
    have others : lineFeed ∉ body := fun later => unended (List.mem_cons_of_mem _ later)
    have tail := ih others
    cases body with
    | nil =>
      simp only [List.nil_append, List.cons_append] at tail ⊢
      rw [ofInput, if_neg other]
      by_cases dropped : byte = carriageReturn
      · simp [dropped, tail, trim]
      · simp [dropped, tail, trim]
    | cons next body =>
      have unfed : next ≠ lineFeed := fun same => others (by simp [same])
      have kept : trim (byte :: next :: body) = byte :: trim (next :: body) := by
        simp only [trim, List.getLast?_cons_cons, List.dropLast_cons_cons]
        split <;> rfl
      simp only [List.cons_append] at tail ⊢
      rw [ofInput, if_neg other]
      simp [unfed, tail, kept]

/-- What no line feed ends is a line as it is. -/
theorem ofInput_last {body : Bytes} (given : body ≠ []) (unended : lineFeed ∉ body) :
    ofInput body = [body] := by
  -- Without a line feed, every byte goes to the same line.
  induction body with
  | nil => exact absurd rfl given
  | cons byte body ih =>
    have other : byte ≠ lineFeed := fun same => unended (by simp [same])
    have others : lineFeed ∉ body := fun later => unended (List.mem_cons_of_mem _ later)
    cases body with
    | nil => simp [ofInput, other]
    | cons next body =>
      have unfed : next ≠ lineFeed := fun same => others (by simp [same])
      rw [ofInput, if_neg other]
      simp [unfed, ih (List.cons_ne_nil _ _) others]

/-- There are no more lines than bytes. -/
theorem length_ofInput_le (input : Bytes) : (ofInput input).length ≤ input.length := by
  fun_induction ofInput input with
  | case1 => exact Nat.le_refl _
  | case2 rest ih => simpa using ih
  | case3 byte other => simp
  | case4 byte next rest other dropped ih => exact Nat.le_succ_of_le ih
  | case5 byte next rest other kept ih =>
    rw [List.length_modifyHead]
    exact Nat.le_succ_of_le ih

/-- An input falls apart into segments that line feeds end, and what comes behind the last of
them. -/
structure Splits (input : Bytes) (segments : List Bytes) (last : Bytes) : Prop where
  whole : input = segments.flatMap (· ++ [lineFeed]) ++ last
  segments : ∀ segment ∈ segments, lineFeed ∉ segment
  last : lineFeed ∉ last

/-- Every input falls apart so. -/
theorem exists_splits (input : Bytes) : ∃ segments last, Splits input segments last := by
  -- The first line is taken off as long as there is a line feed.
  rcases cases_of_lineFeed input with unended | ⟨body, rest, unended, same⟩
  · exact ⟨[], input, rfl, by simp, unended⟩
  · have shorter : rest.length < input.length := by
      rw [same]
      simp
      omega
    obtain ⟨segments, last, splits⟩ := exists_splits rest
    refine ⟨body :: segments, last, ?_, ?_, splits.last⟩
    · rw [same, splits.whole]
      simp
    · simpa using ⟨unended, splits.segments⟩
termination_by input.length

/-- The lines of an input are its segments, each without its carriage return, and what comes behind
them, if there is anything. -/
theorem ofInput_of_splits {input : Bytes} {segments : List Bytes} {last : Bytes}
    (splits : Splits input segments last) :
    ofInput input = segments.map trim ++ if last.isEmpty then [] else [last] := by
  obtain ⟨rfl, unended, open_end⟩ := splits
  -- Each segment is a line that is ended, so it is taken off in front.
  induction segments with
  | nil =>
    cases last with
    | nil => rfl
    | cons byte last => simpa using ofInput_last (List.cons_ne_nil _ _) open_end
  | cons segment segments ih =>
    have first := unended segment List.mem_cons_self
    have others := ih fun other later => unended other (List.mem_cons_of_mem _ later)
    simp only [List.flatMap_cons, List.append_assoc, List.map_cons, List.cons_append]
    rw [ofInput_line first, List.nil_append, others]

end LineShell.Lines
