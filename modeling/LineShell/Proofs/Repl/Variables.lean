import LineShell.Settings

/-! Variables: what the environment makes of the settings, and on which of its pairs and on whose
order they depend. -/

namespace LineShell.Settings

/-- Whether a pair is for one of the two variables that settings depend on. -/
def isHeeded (entry : String × String) : Bool :=
  entry.1 = promptVariable || entry.1 = noColorVariable

/-- The pairs that give a prompt, in their order. -/
def promptEntries (entries : List (String × String)) : List (String × String) :=
  entries.filter fun entry => entry.1 = promptVariable

/-- What settings are under variables: the last prompt that is given counts, any value but the empty
one turns colour off, and nothing else changes. -/
structure Heeds (settings : Settings) (entries : List (String × String)) : Prop where
  prompt : settings.prompt =
    ((promptEntries entries).getLast?.map Prod.snd).getD ({} : Settings).prompt
  color : settings.color = false ↔ ∃ value, (noColorVariable, value) ∈ entries ∧ value ≠ ""
  banner : settings.banner = ({} : Settings).banner

variable {settings : Settings} {entries others : List (String × String)}

/-! ### One variable -/

/-- A value for the prompt becomes the prompt. -/
theorem apply_prompt (settings : Settings) (value : String) :
    settings.apply (promptVariable, value) = { settings with prompt := value } :=
  rfl

/-- Colour stays as it is only with an empty value. -/
theorem apply_noColor (settings : Settings) (value : String) :
    settings.apply (noColorVariable, value) =
      { settings with color := settings.color && value.isEmpty } :=
  rfl

/-- No other variable changes anything. -/
theorem apply_other (settings : Settings) {entry : String × String}
    (unheeded : isHeeded entry = false) : settings.apply entry = settings := by
  have others : entry.1 ≠ promptVariable ∧ entry.1 ≠ noColorVariable := by
    simpa [isHeeded] using unheeded
  rw [Settings.apply, if_neg others.1, if_neg others.2]

/-- The prompts of two lists are those of one and then those of the other. -/
theorem promptEntries_append (entries others : List (String × String)) :
    promptEntries (entries ++ others) = promptEntries entries ++ promptEntries others :=
  List.filter_append ..

/-- A pair for another variable gives no prompt. -/
theorem promptEntries_singleton {entry : String × String} (other : entry.1 ≠ promptVariable) :
    promptEntries [entry] = [] := by
  simp [promptEntries, other]

/-- One more pair is heeded by what it changes. -/
theorem Heeds.apply (heeds : settings.Heeds entries) (entry : String × String) :
    (settings.apply entry).Heeds (entries ++ [entry]) := by
  obtain ⟨key, value⟩ := entry
  by_cases known : isHeeded (key, value) = true
  · simp only [isHeeded, Bool.or_eq_true, decide_eq_true_eq] at known
    rcases known with rfl | rfl
    · -- It is the last pair for the prompt now, and it is none for the colour.
      have last : promptEntries [(promptVariable, value)] = [(promptVariable, value)] := rfl
      have apart : noColorVariable ≠ promptVariable := by decide
      rw [apply_prompt]
      refine ⟨?_, ?_, heeds.banner⟩
      · simp [promptEntries_append, last]
      · simpa [apart] using heeds.color
    · -- Colour is off if it has been off, or if this value turns it off.
      have none : promptEntries [(noColorVariable, value)] = [] := rfl
      rw [apply_noColor]
      refine ⟨?_, ?_, heeds.banner⟩
      · simpa [promptEntries_append, none] using heeds.prompt
      · rw [Bool.and_eq_false_iff, heeds.color]
        simp [or_and_right, exists_or]
  · have unheeded : isHeeded (key, value) = false := by simpa using known
    have others : key ≠ promptVariable ∧ key ≠ noColorVariable := by
      simpa [isHeeded] using unheeded
    rw [apply_other settings unheeded]
    refine ⟨?_, ?_, heeds.banner⟩
    · simpa [promptEntries_append, promptEntries_singleton, others.1] using heeds.prompt
    · simpa [others.2.symm] using heeds.color

/-! ### All variables -/

/-- Settings that heed some variables heed all those that are taken after them as well. -/
theorem Heeds.foldl (heeds : settings.Heeds entries) (others : List (String × String)) :
    (others.foldl Settings.apply settings).Heeds (entries ++ others) := by
  -- What has been taken so far grows by one pair with each of them.
  induction others generalizing settings entries with
  | nil => rwa [List.append_nil]
  | cons entry others ih =>
    rw [List.append_cons]
    exact ih (heeds.apply entry)

/-- So the settings under a list of variables heed it. -/
theorem heeds_ofVariables (entries : List (String × String)) :
    (ofVariables entries).Heeds entries := by
  have start : ({} : Settings).Heeds [] := ⟨rfl, by simp, rfl⟩
  exact start.foldl entries

/-- Settings are the same where the same prompts are given in the same order, and the same values
for colour in any. -/
theorem Heeds.eq {first second : Settings} (one : first.Heeds entries)
    (other : second.Heeds others) (prompts : promptEntries entries = promptEntries others)
    (colors : ∀ value, (noColorVariable, value) ∈ entries ↔ (noColorVariable, value) ∈ others) :
    first = second := by
  have prompt : first.prompt = second.prompt := by
    rw [one.prompt, other.prompt, prompts]
  -- Either has no color just if the variable is there with anything in it.
  have color : first.color = second.color := by
    rw [← Bool.not_inj_iff, Bool.eq_iff_iff, Bool.not_eq_true', Bool.not_eq_true', one.color,
      other.color]
    simp only [colors]
  have banner : first.banner = second.banner := one.banner.trans other.banner.symm
  cases first
  cases second
  simp_all only

/-- The pairs that give a prompt are among those that are heeded. -/
theorem promptEntries_filter (entries : List (String × String)) :
    promptEntries (entries.filter isHeeded) = promptEntries entries := by
  rw [promptEntries, List.filter_filter]
  refine List.filter_congr fun entry _ => ?_
  by_cases prompts : entry.1 = promptVariable <;> simp [isHeeded, prompts]

/-- So are those that give a value for colour. -/
theorem mem_filter_noColor {value : String} :
    (noColorVariable, value) ∈ entries.filter isHeeded ↔ (noColorVariable, value) ∈ entries := by
  simp [isHeeded]

/-- The prompt is what the last pair for it gives, even if that is nothing, and the default without
such a pair. Colour is off just if some pair for it has a value that is not empty, wherever it
stands and whatever follows. The banner is that of the defaults. So the order of the pairs does not
matter but for those that give a prompt, and pairs for other variables do not matter at all. -/
theorem ofVariables_heeds (entries : List (String × String)) :
    (ofVariables entries).Heeds entries ∧
    (∀ others, entries.Perm others → promptEntries entries = promptEntries others →
      ofVariables entries = ofVariables others) ∧
    (∀ others, entries.filter isHeeded = others.filter isHeeded →
      ofVariables entries = ofVariables others) := by
  have heeds := heeds_ofVariables entries
  refine ⟨heeds, ?_, ?_⟩
  · -- The values for colour are the same ones, wherever they stand.
    intro others reordered prompts
    exact heeds.eq (heeds_ofVariables others) prompts fun _ => reordered.mem_iff
  · -- What is not heeded is taken out of both lists.
    intro others same
    refine heeds.eq (heeds_ofVariables others) ?_ fun value => ?_
    · rw [← promptEntries_filter entries, same, promptEntries_filter]
    · rw [← mem_filter_noColor, same, mem_filter_noColor]

/-- A colour that is turned off and a prompt that is given, each with an empty value after it. -/
def emptiedVariables : List (String × String) :=
  [("NO_COLOR", "1"), ("PIPESH_PROMPT", "$ "), ("NO_COLOR", ""), ("PIPESH_PROMPT", "")]

/-- The same pairs, with the colour turned off by the last of them. -/
def reorderedVariables : List (String × String) :=
  [("PIPESH_PROMPT", "$ "), ("NO_COLOR", ""), ("PIPESH_PROMPT", ""), ("NO_COLOR", "1")]

/-- The same pairs among others. -/
def crowdedVariables : List (String × String) :=
  ("HOME", "/root") :: emptiedVariables ++ [("no_color", "1"), ("PIPESH_PROMPT_", ">")]

/-- The empty prompt counts, and the empty value for colour does not. -/
theorem ofVariables_heeds_emptied :
    emptiedVariables.Perm reorderedVariables ∧
    promptEntries emptiedVariables = promptEntries reorderedVariables ∧
    emptiedVariables.filter isHeeded = crowdedVariables.filter isHeeded ∧
    ofVariables emptiedVariables = ofVariables reorderedVariables ∧
    ofVariables emptiedVariables = ofVariables crowdedVariables ∧
    ofVariables emptiedVariables = { prompt := "", color := false } := by
  obtain ⟨-, reordered, crowded⟩ := ofVariables_heeds emptiedVariables
  have same : emptiedVariables.Perm reorderedVariables := by decide
  have prompts : promptEntries emptiedVariables = promptEntries reorderedVariables := by decide
  have among : emptiedVariables.filter isHeeded = crowdedVariables.filter isHeeded := by decide
  exact ⟨same, prompts, among, reordered _ same prompts, crowded _ among, by decide⟩

end LineShell.Settings
