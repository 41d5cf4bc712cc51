import LineShell.Error
import LineShell.Proofs.Text.Lines
import LineShell.Proofs.Text.Quoted
import LineShell.Proofs.Text.Utf8

/-! Texts of one line: which texts have no line feed in them. -/

namespace LineShell

namespace Text

/-- Whether a text stays on one line. -/
def IsOneLine (text : String) : Prop :=
  '\n' ∉ text.toList

instance (text : String) : Decidable (IsOneLine text) :=
  inferInstanceAs (Decidable ('\n' ∉ text.toList))

/-- A text stays on one line if none of its characters is a line feed. -/
theorem isOneLine_ofList {text : List Char} (none : '\n' ∉ text) :
    IsOneLine (String.ofList text) := by
  rwa [IsOneLine, String.toList_ofList]

/-- Two texts of one line make one. -/
theorem IsOneLine.append {first second : String} (one : IsOneLine first)
    (other : IsOneLine second) : IsOneLine (first ++ second) := by
  rw [IsOneLine, String.toList_append, List.mem_append, not_or]
  exact ⟨one, other⟩

/-- So do a subject and what is told about it. -/
theorem IsOneLine.about {subject detail : String} (one : IsOneLine subject)
    (other : IsOneLine detail) : IsOneLine (subject ++ ": " ++ detail) :=
  (one.append (by decide)).append other

/-- A number stays on one line. -/
theorem isOneLine_decimal (n : Int) : IsOneLine (decimal n) := by
  have digits (n : Nat) : '\n' ∉ Nat.toDigits 10 n :=
    notMem_toDigits (by decide) (fun _ => Nat.digitChar_ne '\n' (by decide)) n
  refine isOneLine_ofList ?_
  cases n with
  | ofNat n => exact digits n
  | negSucc n =>
    rw [decimalDigits, List.mem_cons, not_or]
    exact ⟨by decide, digits (n + 1)⟩

/-- Between quotes, every text stays on one line: a line feed is written as an escape. -/
theorem isOneLine_quoteString (text : String) : IsOneLine (quoteString text) := by
  refine isOneLine_ofList fun member => ?_
  -- A line feed is a control character, and there is none between the quotes.
  have inside : '\n' ∈ text.toList.flatMap quoteChar := by simpa [quote] using member
  exact (spells_quote text.toList).not_isControl inside (by decide)

end Text

open Text (IsOneLine)

/-- What the system says about its errors stays on one line. -/
theorem Errno.isOneLine_text (number : Errno) : IsOneLine number.text := by
  -- Each text is given as its characters: to take them from its bytes would be slow.
  have described : ∀ row ∈ descriptions, IsOneLine row.2 := by
    simp only [descriptions, List.forall_mem_cons]
    and_intros <;> first | exact Text.isOneLine_ofList (by decide) | exact List.forall_mem_nil _
  unfold Errno.text
  split
  · decide
  · split
    · rename_i row found
      exact described row (List.mem_of_find?_eq_some found)
    · exact .append (by decide) (Text.isOneLine_decimal _)

/-- So does an error of the system, with its number. -/
theorem IoError.isOneLine_message (number : Errno) :
    IsOneLine (IoError.system number).message := by
  have opening : IsOneLine " (os error " := by decide
  have closing : IsOneLine ")" := by decide
  exact ((number.isOneLine_text.append opening).append
    (Text.isOneLine_decimal number.code)).append closing

namespace Utf8

/-- Only a line feed is encoded with the byte of one. -/
theorem lineFeed_notMem_encodeChar {c : Char} (other : c ≠ '\n') :
    Lines.lineFeed ∉ String.utf8EncodeChar c := by
  have feed : Lines.lineFeed.toNat = 10 := rfl
  -- The bytes of a character that has several are all larger.
  have larger (code : Nat) (least : 0x80 ≤ code) (most : code < 0x100) :
      Lines.lineFeed ≠ .ofNat code := by
    intro same
    have value := congrArg UInt8.toNat same
    rw [toNat_ofNat most] at value
    omega
  fun_cases String.utf8EncodeChar c with
  | case1 v small =>
    intro member
    have value := congrArg UInt8.toNat (List.mem_singleton.mp member)
    rw [toNat_ofNat (by omega), feed] at value
    exact other (Char.toNat_inj.mp value.symm)
  | case2 v | case3 v | case4 v =>
    simp only [List.mem_cons, List.not_mem_nil, or_false, not_or]
    and_intros <;> exact larger _ (by omega) (by omega)

/-- A text of one line has no byte that ends a line. -/
theorem lineFeed_notMem_ofString {text : String} (one : IsOneLine text) :
    Lines.lineFeed ∉ ofString text := by
  intro member
  obtain ⟨c, there, byte⟩ := List.mem_flatMap.mp member
  refine lineFeed_notMem_encodeChar ?_ byte
  rintro rfl
  exact one there

/-- With a line feed behind it, it is one line and no more. -/
theorem splits_ofString {text : String} (one : IsOneLine text) :
    Lines.Splits (ofString (text ++ "\n")) [ofString text] [] := by
  have ended : ofString (text ++ "\n") = ofString text ++ [Lines.lineFeed] := by
    rw [ofString, String.toList_append, encode, List.flatMap_append]
    rfl
  refine ⟨by simp [ended], ?_, List.not_mem_nil⟩
  simpa using lineFeed_notMem_ofString one

end Utf8

end LineShell
