import LineShell.Proofs.Repl.Retelling
import LineShell.Proofs.Text.Utf8
import LineShell.Proofs.Token.Spacing

/-! Terminators: what the lines of the standard input end with does not matter. -/

namespace LineShell

namespace Lines

/-- An input with a carriage return before each of its line feeds. -/
def withReturns (input : Bytes) : Bytes :=
  input.flatMap fun byte => if byte = lineFeed then [carriageReturn, lineFeed] else [byte]

/-- Two inputs with the same lines, which do not all end alike. -/
inductive EndsOtherwise : Bytes → Bytes → Prop
  /-- In the second, there is one carriage return more before each line feed. -/
  | returned (input : Bytes) : EndsOtherwise input (withReturns input)
  /-- In the second, a line feed ends the last line. -/
  | ended {input : Bytes} (given : input ≠ []) (unended : input.getLast? ≠ some lineFeed) :
      EndsOtherwise input (input ++ [lineFeed])

/-- Nothing changes in a text without line feeds. -/
theorem withReturns_of_notMem {text : Bytes} (unended : lineFeed ∉ text) :
    withReturns text = text := by
  induction text with
  | nil => rfl
  | cons byte rest ih =>
    obtain ⟨other, others⟩ := List.ne_and_not_mem_of_not_mem_cons unended
    rw [withReturns, List.flatMap_cons, if_neg other.symm, ← withReturns, ih others,
      List.singleton_append]

/-- Each segment gets a carriage return, and what comes behind the last line feed stays as it is. -/
theorem Splits.withReturns {input : Bytes} {segments : List Bytes} {last : Bytes}
    (splits : Splits input segments last) :
    Splits (withReturns input) (segments.map (· ++ [carriageReturn])) last := by
  obtain ⟨rfl, unended, open_end⟩ := splits
  refine ⟨?_, ?_, open_end⟩
  · -- A carriage return is put in front of each line feed, and there is one behind each segment.
    induction segments with
    | nil => simpa using withReturns_of_notMem open_end
    | cons segment segments ih =>
      have first := withReturns_of_notMem (unended segment List.mem_cons_self)
      have others := ih fun other later => unended other (List.mem_cons_of_mem _ later)
      simp only [Lines.withReturns] at first others ⊢
      simp [List.flatMap_append, first, others]
  · intro segment member
    obtain ⟨body, found, rfl⟩ := List.mem_map.mp member
    simpa [carriageReturn, lineFeed] using unended body found

/-- A line feed at the end makes one segment more of what came behind the others. -/
theorem Splits.ended {input : Bytes} {segments : List Bytes} {last : Bytes}
    (splits : Splits input segments last) :
    Splits (input ++ [lineFeed]) (segments ++ [last]) [] := by
  obtain ⟨rfl, unended, open_end⟩ := splits
  refine ⟨by simp, ?_, by simp⟩
  simpa [List.forall_mem_append, or_imp, forall_and] using ⟨unended, open_end⟩

end Lines

namespace Token

/-- A blank behind a line is in none of its tokens. -/
theorem scan_concat {blank : Char} (white : Text.isBlank blank = true) (text : List Char) :
    scan (String.ofList (text ++ [blank])) = scan (String.ofList text) := by
  have respaced := Text.Respaced.back (Text.isGap_singleton white) text
  rw [scan, scan, String.toList_ofList, String.toList_ofList, respaced.words_eq]

/-- With its carriage return or without it, a line has the same tokens. -/
theorem alike_trim (line : Bytes) : Alike (Lines.trim line) line := by
  by_cases returned : line.getLast? = some Lines.carriageReturn
  · -- The carriage return is a character, whatever comes before it, and it is blank.
    obtain ⟨body, rfl⟩ := List.getLast?_eq_some_iff.mp returned
    have small : Lines.carriageReturn < 0x80 := by decide
    rw [Lines.trim, if_pos returned, List.dropLast_concat, Alike, Utf8.toString?, Utf8.toString?,
      Utf8.decode?_concat small]
    cases Utf8.decode? body with
    | none => rfl
    | some text => exact congrArg some (scan_concat (by decide) text).symm
  · rw [Lines.trim, if_neg returned]
    rfl

/-- Inputs whose lines do not end alike have lines that are alike, one by one. -/
theorem forall₂_ofInput {input other : Bytes} (ends : Lines.EndsOtherwise input other) :
    List.Forall₂ Alike (Lines.ofInput input) (Lines.ofInput other) := by
  obtain ⟨segments, last, splits⟩ := Lines.exists_splits input
  have same (lines : List Bytes) : List.Forall₂ Alike lines lines :=
    List.forall₂_same.mpr fun _ _ => rfl
  have trimmed : List.Forall₂ Alike (segments.map Lines.trim) segments := by
    simpa [List.forall₂_map_left_iff, List.forall₂_same] using fun line _ => alike_trim line
  rw [Lines.ofInput_of_splits splits]
  cases ends with
  | returned =>
    -- In the second input, it is the added carriage returns that are dropped.
    rw [Lines.ofInput_of_splits splits.withReturns, List.map_map]
    have kept : segments.map (Lines.trim ∘ (· ++ [Lines.carriageReturn])) = segments := by
      simp [Function.comp_def, Lines.trim]
    rw [kept]
    exact List.rel_append trimmed (same _)
  | ended given unended =>
    -- What comes behind the last line feed is something, and in the second input it is trimmed.
    have filled : last ≠ [] := by
      rintro rfl
      obtain ⟨rfl, -, -⟩ := splits
      rcases List.eq_nil_or_concat segments with rfl | ⟨others, segment, rfl⟩
      · exact given rfl
      · exact unended (by simp)
    rw [Lines.ofInput_of_splits splits.ended, List.map_append, List.isEmpty_nil, if_pos rfl,
      List.append_nil, if_neg (by simpa using filled)]
    exact List.rel_append (same _) (.cons (alike_trim last).symm .nil)

end Token

namespace Repl

/-- Inputs that are given beforehand are all that states differ in. -/
theorem twins_fedInput {σ : Type} (handler : Handler σ) (content other : Bytes) :
    (fedInput handler content).Twins (fedInput handler other) fun left right =>
      left.1 <:+ content ∧ right.1 <:+ other ∧ left.2 = right.2 := by
  refine ⟨fun alike => ⟨alike.1, alike.2.1⟩, ?_, ?_, ?_⟩
  · rintro ⟨input, system⟩ ⟨another, _⟩ ⟨rest, beyond, rfl⟩ call unread
    cases call <;> first | exact ⟨rfl, rest, beyond, rfl⟩ | cases unread
  · intro left right alike limit
    exact ⟨(List.drop_suffix _ _).trans alike.1, alike.2⟩
  · intro left right alike limit
    exact ⟨alike.1, (List.drop_suffix _ _).trans alike.2.1, alike.2.2⟩

/-- Where nobody else reads from the standard input, it does not matter what its lines end with.
With one more carriage return before each line feed, and with a line feed behind an unfinished last
line, the program runs the same tokens after the same exit codes, in order, it asks for and is
answered the same but for the reads, and it ends with the same exit code. -/
theorem retell_eq_of_endsOtherwise {σ : Type} {handler : Handler σ} {first second : handler.Input}
    {same : σ → σ → Prop} (twins : first.Twins second same) (own : first.IsOwn)
    (another : second.IsOwn) {left right : σ} (alike : same left right)
    (ends : Lines.EndsOtherwise (first.unread left) (second.unread right))
    (settings : Settings) (onTerminal : Bool) {bound : Nat}
    (readable : first.content.length < bound) (legible : second.content.length < bound) :
    (start settings onTerminal bound =
      retell settings onTerminal bound >>= fun told => .done told.2) ∧
    ((retell settings onTerminal bound).run handler left).1 =
      ((retell settings onTerminal bound).run handler right).1 ∧
    observed ((start settings onTerminal bound).events handler left) =
      observed ((start settings onTerminal bound).events handler right) ∧
    ((start settings onTerminal bound).run handler left).1 =
      ((start settings onTerminal bound).run handler right).1 := by
  obtain ⟨seen, ended⟩ := alongside_retell twins own another settings onTerminal readable legible
    alike (Token.forall₂_ofInput ends)
  rw [start_eq_retell]
  refine ⟨rfl, ended.result, ?_, ?_⟩
  · simpa using seen
  · simpa using congrArg Prod.snd ended.result

/-- It holds of lines that run, one that is no text, one whose command is not found and that has a
carriage return already, an empty one, and one that no line feed ends. -/
theorem retell_eq_of_endsOtherwise_mixed :
    let content := Utf8.ofString "yes\n" ++ 255 :: Utf8.ofString "\nno\r\n\nyes $?"
    let others := [Lines.withReturns content, content ++ [Lines.lineFeed]]
    let handler := (oneProgram "yes" 3).fed
    content.length < 40 ∧ (fedInput (oneProgram "yes" 3) content).IsOwn ∧
      ∀ other ∈ others, other.length < 40 ∧ (fedInput (oneProgram "yes" 3) other).IsOwn ∧
        Lines.EndsOtherwise content other ∧
        ((retell {} false 40).run handler (content, ())).1 =
          ((retell {} false 40).run handler (other, ())).1 ∧
        observed ((start {} false 40).events handler (content, ())) =
          observed ((start {} false 40).events handler (other, ())) ∧
        ((start {} false 40).run handler (content, ())).1 =
          ((start {} false 40).run handler (other, ())).1 := by
  intro content others handler
  have own (content : Bytes) := isOwn_fedInput (oneProgram "yes" 3) content
  have unread (content : Bytes) :
      (fedInput (oneProgram "yes" 3) content).unread (content, ()) = content := by
    simp [Handler.Input.unread, fedInput]
  -- One of the others has a carriage return on every line, the other one a last line that is ended.
  have ends : ∀ other ∈ others, Lines.EndsOtherwise content other := by
    have closed : content.getLast? ≠ some Lines.lineFeed := by decide
    simpa [others] using ⟨Lines.EndsOtherwise.returned content, .ended (by decide) closed⟩
  have short : ∀ other ∈ others, other.length < 40 := by decide
  refine ⟨by decide, own content, fun other member => ⟨short other member, own other,
    ends other member, ?_⟩⟩
  have twins := twins_fedInput (oneProgram "yes" 3) content other
  have ended : Lines.EndsOtherwise
      ((fedInput (oneProgram "yes" 3) content).unread (content, ()))
      ((fedInput (oneProgram "yes" 3) other).unread (other, ())) := by
    rw [unread, unread]
    exact ends other member
  refine (retell_eq_of_endsOtherwise twins (own content) (own other) ?_ ended {} false (by decide)
    (short other member)).2
  exact ⟨List.suffix_refl _, List.suffix_refl _, rfl⟩

end Repl

end LineShell
