import LineShell.Proofs.Text.Words
import LineShell.Token

/-! Spacing: a line falls apart at every run of blanks, and nothing else about its blanks counts. -/

namespace LineShell

namespace Text

/-- A run of blanks, one at least. -/
structure IsGap (text : List Char) : Prop where
  filled : text ≠ []
  white : ∀ c ∈ text, isBlank c = true

/-- Blanks in front of a text are skipped. -/
theorem words_blanks {blanks : List Char} (white : ∀ c ∈ blanks, isBlank c = true)
    (rest : List Char) : words (blanks ++ rest) = words rest := by
  induction blanks with
  | nil => rfl
  | cons blank blanks ih =>
    obtain ⟨first, others⟩ := List.forall_mem_cons.mp white
    rw [List.cons_append, words_blank first, ih others]

/-- A text falls apart at a run of blanks, wherever it stands and whatever stands around it. -/
theorem words_append_gap {gap : List Char} (run : IsGap gap) (before after : List Char) :
    words (before ++ gap ++ after) = words before ++ words after := by
  -- The first blank parts the text, and the others are skipped.
  obtain ⟨blank, blanks, rfl⟩ := List.exists_cons_of_ne_nil run.filled
  obtain ⟨first, others⟩ := List.forall_mem_cons.mp run.white
  rw [List.append_assoc, List.cons_append, words_append_blank first, words_blanks others]

/-- Two texts of which one becomes the other as runs of blanks are put in the place of others, in
front of it and behind it too, where there may also be none. -/
inductive Respaced : List Char → List Char → Prop
  | refl (text : List Char) : Respaced text text
  | symm {first second : List Char} (other : Respaced first second) : Respaced second first
  | trans {first second third : List Char} (start : Respaced first second)
      (rest : Respaced second third) : Respaced first third
  | between {gap other : List Char} (before after : List Char) (run : IsGap gap)
      (another : IsGap other) : Respaced (before ++ gap ++ after) (before ++ other ++ after)
  | front {gap : List Char} (run : IsGap gap) (text : List Char) : Respaced (gap ++ text) text
  | back {gap : List Char} (run : IsGap gap) (text : List Char) : Respaced (text ++ gap) text

/-- No change of the blanks changes a word. -/
theorem Respaced.words_eq {first second : List Char} (respaced : Respaced first second) :
    words first = words second := by
  induction respaced with
  | refl => rfl
  | symm _ ih => exact ih.symm
  | trans _ _ first second => exact first.trans second
  | between before after run another => rw [words_append_gap run, words_append_gap another]
  | front run text => exact words_blanks run.white text
  | back run text =>
    -- Nothing comes behind the blanks at the end, so there is no further word.
    have split := words_append_gap run text []
    rwa [List.append_nil, words, List.append_nil] at split

/-- Blanks can be changed behind a run of blanks as they can in a whole text: those in front of it
belong to that run. -/
theorem Respaced.behind {first second : List Char} (respaced : Respaced first second)
    (before : List Char) {gap : List Char} (run : IsGap gap) :
    Respaced (before ++ gap ++ first) (before ++ gap ++ second) := by
  induction respaced with
  | refl => exact .refl _
  | symm _ ih => exact .symm ih
  | trans _ _ start rest => exact .trans start rest
  | between inner after one another =>
    simpa only [List.append_assoc] using
      Respaced.between (before ++ gap ++ inner) after one another
  | @front blanks one text =>
    -- Blanks at the front of the text make the run longer, and have something before them now.
    have longer : IsGap (gap ++ blanks) :=
      ⟨by simp [run.filled], List.forall_mem_append.mpr ⟨run.white, one.white⟩⟩
    simpa only [List.append_assoc] using Respaced.between before text longer run
  | back one text => simpa only [List.append_assoc] using Respaced.back one (before ++ gap ++ text)

/-- Words with a blank behind each of them. -/
def spaced (words : List (List Char)) : List Char :=
  words.flatMap (· ++ [' '])

/-- A single blank is a run of blanks. -/
theorem isGap_singleton {blank : Char} (white : isBlank blank = true) : IsGap [blank] :=
  ⟨List.cons_ne_nil _ _, by simpa using white⟩

/-- A text that begins with a word can be changed so that one blank stands behind that word, and
then what comes behind its next blank. -/
theorem respaced_word {word : List Char} (whole : IsWord word) {rest : List Char}
    (others : ∀ later, later.length < rest.length → Respaced later (spaced (words later))) :
    Respaced (word ++ rest) (spaced (words (word ++ rest))) := by
  have space : IsGap [' '] := isGap_singleton rfl
  -- The word grows until there is a blank behind it, or nothing.
  induction rest generalizing word with
  | nil =>
    rw [List.append_nil, whole.words_eq]
    exact .symm (by simpa [spaced] using Respaced.back space word)
  | cons c rest ih =>
    by_cases gap : isBlank c = true
    · have parted := words_append_gap (isGap_singleton gap) word rest
      have single := Respaced.between word rest (isGap_singleton gap) space
      have behind := (others rest (by simp)).behind word space
      rw [whole.words_eq] at parted
      simp only [List.append_assoc, List.cons_append, List.nil_append] at parted single behind
      rw [parted]
      simpa [spaced] using single.trans behind
    · have longer : IsWord (word ++ [c]) :=
        ⟨by simp, List.forall_mem_append.mpr ⟨whole.solid, by simpa using gap⟩⟩
      have grown := ih longer fun later short => others later (Nat.lt_succ_of_lt short)
      simpa using grown

/-- Every text can be changed into its words, with a blank behind each of them. -/
theorem respaced_spaced (text : List Char) : Respaced text (spaced (words text)) := by
  -- Either a blank stands in front, which can be taken away, or a word begins there.
  induction size : text.length using Nat.strongRecOn generalizing text with
  | ind size ih =>
    subst size
    cases text with
    | nil => exact .refl []
    | cons c rest =>
      have later (text : List Char) (short : text.length < rest.length + 1) :
          Respaced text (spaced (words text)) := ih _ short text rfl
      by_cases gap : isBlank c = true
      · rw [words_blank gap]
        exact (Respaced.front (isGap_singleton gap) rest).trans (later rest (Nat.lt_succ_self _))
      · have word : IsWord [c] := .cons (by simpa using gap) (List.forall_mem_nil _)
        exact respaced_word word fun text short => later text (Nat.lt_succ_of_lt short)

/-- Two texts have the same words just if one becomes the other as its blanks are changed. -/
theorem respaced_iff {first second : List Char} :
    Respaced first second ↔ words first = words second := by
  refine ⟨Respaced.words_eq, fun same => ?_⟩
  have other := respaced_spaced second
  rw [← same] at other
  exact (respaced_spaced first).trans other.symm

end Text

namespace Token

/-- A line falls apart into its tokens at a run of blanks, for each word is read on its own. -/
theorem ofLine_append_gap {gap : String} (run : Text.IsGap gap.toList) (before after : String)
    (code : Int) :
    ofLine (before ++ gap ++ after) code = ofLine before code ++ ofLine after code := by
  simp only [ofLine, scan, String.toList_append, Text.words_append_gap run, List.flatMap_append,
    List.map_append]

/-- A line with a run of blanks in it, at any place, has the tokens of what comes before the blanks
and then those of what comes behind them, whatever the exit code of the last line was. So all lines
that differ in nothing but their runs of blanks have the same tokens, and these are all the lines
with the same words. -/
theorem ofLine_spacing (code : Int) :
    (∀ before gap after : String, Text.IsGap gap.toList →
      ofLine (before ++ gap ++ after) code = ofLine before code ++ ofLine after code) ∧
    (∀ first second : String, Text.Respaced first.toList second.toList →
      ofLine first code = ofLine second code) ∧
    ∀ first second : List Char,
      Text.Respaced first second ↔ Text.words first = Text.words second := by
  refine ⟨fun before gap after run => ofLine_append_gap run before after code,
    fun first second respaced => ?_, fun _ _ => Text.respaced_iff⟩
  rw [ofLine, ofLine, scan, scan, respaced.words_eq]

/-- The blanks between an operator and its word do count, for they part the two. -/
theorem ofLine_spacing_parted :
    (Text.IsGap "\t\u3000".toList ∧
      ofLine ("a <" ++ "\t\u3000" ++ "<$? ") 7 = ofLine "a <" 7 ++ ofLine "<$? " 7) ∧
    Text.Respaced " a <\t<$?".toList "a\n< <$? ".toList ∧
      ofLine " a <\t<$?" 7 = ofLine "a\n< <$? " 7 := by
  have gap : Text.IsGap "\t\u3000".toList :=
    ⟨by decide, List.all_eq_true.mp (by decide)⟩
  have respaced : Text.Respaced " a <\t<$?".toList "a\n< <$? ".toList :=
    (ofLine_spacing 7).2.2 _ _ |>.mpr (by decide)
  exact ⟨⟨gap, (ofLine_spacing 7).1 _ _ _ gap⟩, respaced, (ofLine_spacing 7).2.1 _ _ respaced⟩

end Token

end LineShell
