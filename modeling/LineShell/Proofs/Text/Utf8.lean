import LineShell.Text.Utf8

/-! What is encoded in UTF-8 is decoded as it was. -/

namespace LineShell.Utf8

/-- A byte is the number that it is made of. -/
theorem toNat_ofNat {code : Nat} (small : code < 256) : (UInt8.ofNat code).toNat = code := by
  rw [UInt8.toNat_ofNat', Nat.mod_eq_of_lt small]

/-- Six bits are read back from a continuation byte. -/
theorem tail?_of_lt {value : Nat} (small : value < 64) :
    tail? (.ofNat (value + 0x80)) = some value := by
  -- Such a byte lies between the two limits of continuation bytes.
  have size : (UInt8.ofNat (value + 0x80)).toNat = value + 0x80 := toNat_ofNat (by omega)
  have least : (0x80 : UInt8) ≤ .ofNat (value + 0x80) := by
    rw [UInt8.le_iff_toNat_le, size]
    exact Nat.le_add_left ..
  have most : .ofNat (value + 0x80) < (0xC0 : UInt8) := by
    rw [UInt8.lt_iff_toNat_lt, size]
    exact Nat.add_lt_add_right small 0x80
  rw [tail?, decide_eq_true least, decide_eq_true most, size]
  exact congrArg some (Nat.add_sub_cancel value 0x80)

/-- A character is read back from its code. -/
theorem scalar?_of_eq {c : Char} {least code : Nat} (large : least ≤ c.toNat)
    (same : code = c.toNat) : scalar? least code = some c := by
  -- The code of a character is valid, and here it needs as many bytes as were read.
  have valid : Nat.isValidChar c.toNat := c.valid
  subst same
  simp only [scalar?, large, valid, Char.ofNat_toNat, decide_true, Bool.and_self, if_true]

/-- One byte is read as a character. -/
theorem decode?_one {first : UInt8} {c : Char} (size : first.toNat = c.toNat)
    (small : first.toNat < 0x80) (rest : Bytes) :
    decode? (first :: rest) = (decode? rest).map (c :: ·) := by
  -- The first byte tells how many belong to the character.
  rw [decode?.eq_def]
  simp only [UInt8.lt_iff_toNat_lt, UInt8.reduceToNat]
  rw [if_pos small, size, Char.ofNat_toNat]

/-- Two bytes are read as a character. -/
theorem decode?_two {first second : UInt8} {low : Nat} {c : Char} (least : 0xC2 ≤ first.toNat)
    (most : first.toNat < 0xE0) (tail : tail? second = some low)
    (code : scalar? 0x80 ((first.toNat - 0xC0) * 64 + low) = some c) (rest : Bytes) :
    decode? (first :: second :: rest) = (decode? rest).map (c :: ·) := by
  rw [decode?.eq_def]
  simp only [UInt8.lt_iff_toNat_lt, UInt8.reduceToNat]
  rw [if_neg (by omega), if_neg (by omega), if_pos most, tail]
  simp only [Option.bind_eq_bind, Option.bind_some, code]

/-- Three bytes are read as a character. -/
theorem decode?_three {first second third : UInt8} {middle low : Nat} {c : Char}
    (least : 0xE0 ≤ first.toNat) (most : first.toNat < 0xF0) (tail : tail? second = some middle)
    (last : tail? third = some low)
    (code : scalar? 0x800 (((first.toNat - 0xE0) * 64 + middle) * 64 + low) = some c)
    (rest : Bytes) : decode? (first :: second :: third :: rest) = (decode? rest).map (c :: ·) := by
  rw [decode?.eq_def]
  simp only [UInt8.lt_iff_toNat_lt, UInt8.reduceToNat]
  rw [if_neg (by omega), if_neg (by omega), if_neg (by omega), if_pos most, tail, last]
  simp only [Option.bind_eq_bind, Option.bind_some, code]

/-- Four bytes are read as a character. -/
theorem decode?_four {first second third fourth : UInt8} {high middle low : Nat} {c : Char}
    (least : 0xF0 ≤ first.toNat) (most : first.toNat < 0xF5) (tail : tail? second = some high)
    (next : tail? third = some middle) (last : tail? fourth = some low)
    (code : scalar? 0x10000 (((((first.toNat - 0xF0) * 64 + high) * 64 + middle) * 64) + low) =
      some c) (rest : Bytes) :
    decode? (first :: second :: third :: fourth :: rest) = (decode? rest).map (c :: ·) := by
  rw [decode?.eq_def]
  simp only [UInt8.lt_iff_toNat_lt, UInt8.reduceToNat]
  rw [if_neg (by omega), if_neg (by omega), if_neg (by omega), if_neg (by omega), if_pos most,
    tail, next, last]
  simp only [Option.bind_eq_bind, Option.bind_some, code]

/-- A character is read back from its bytes. -/
theorem decode?_encodeChar (c : Char) (rest : Bytes) :
    decode? (String.utf8EncodeChar c ++ rest) = (decode? rest).map (c :: ·) := by
  have bound : c.val.toNat < 0x110000 := by
    have valid : Nat.isValidChar c.val.toNat := c.valid
    unfold Nat.isValidChar at valid
    omega
  have tail (value : Nat) : tail? (.ofNat (value % 0x40 + 0x80)) = some (value % 0x40) :=
    tail?_of_lt (Nat.mod_lt _ (by decide))
  -- The more bytes there are, the larger is the first of them.
  fun_cases String.utf8EncodeChar c with
  | case1 v small =>
    have size := toNat_ofNat (show v < 256 by omega)
    exact decode?_one size (by omega) rest
  | case2 v =>
    have size := toNat_ofNat (show v / 64 % 0x20 + 0xc0 < 256 by omega)
    refine decode?_two (by omega) (by omega) (tail _) (scalar?_of_eq ?_ ?_) rest
    · show 0x80 ≤ v
      omega
    · show _ = v
      omega
  | case3 v =>
    have size := toNat_ofNat (show v / 4096 % 0x10 + 0xe0 < 256 by omega)
    refine decode?_three (by omega) (by omega) (tail _) (tail _) (scalar?_of_eq ?_ ?_) rest
    · show 0x800 ≤ v
      omega
    · show _ = v
      omega
  | case4 v =>
    have size := toNat_ofNat (show v / 262144 % 0x08 + 0xf0 < 256 by omega)
    refine decode?_four (by omega) (by omega) (tail _) (tail _) (tail _) (scalar?_of_eq ?_ ?_) rest
    · show 0x10000 ≤ v
      omega
    · show _ = v
      omega

/-- A text is read back from its bytes. -/
theorem decode?_encode (text : List Char) : decode? (encode text) = some text := by
  -- Each character is read off the front, whatever comes behind it.
  induction text with
  | nil => rfl
  | cons c rest ih =>
    rw [encode, List.flatMap_cons, decode?_encodeChar, ← encode, ih]
    rfl

/-- A string is read back from its bytes. -/
@[simp] theorem toString?_ofString (text : String) : toString? (ofString text) = some text := by
  rw [toString?, ofString, decode?_encode, Option.map_some, String.ofList_toList]

/-- A byte of seven bits is a character of its own, whatever comes before it. -/
theorem decode?_concat {byte : UInt8} (small : byte < 0x80) (before : Bytes) :
    decode? (before ++ [byte]) = (decode? before).map (· ++ [Char.ofNat byte.toNat]) := by
  -- It does not continue a character that has begun.
  have unjoined : tail? byte = none := by
    have apart : ¬ (0x80 : UInt8) ≤ byte := by simpa [UInt8.not_le] using small
    simp [tail?, apart]
  -- The first byte tells how many belong to its character, and they may be too few.
  fun_induction decode? before with
  | case1 =>
    rw [List.nil_append, decode?.eq_def]
    simp [small, decode?]
  | case2 first rest one ih =>
    rw [List.cons_append, decode?.eq_def]
    simp [one, ih, Function.comp_def]
  | case3 first many =>
    rw [List.cons_append, decode?.eq_def]
    simp [many, unjoined]
  | case4 first many second rest low =>
    rw [List.cons_append, decode?.eq_def]
    simp [many, low]
  | case5 first many second rest high two ih =>
    rw [List.cons_append, decode?.eq_def]
    simp [many, high, two, ih, Function.comp_def, Option.map_bind]
  | case6 first many second high more =>
    rw [List.cons_append, decode?.eq_def]
    simp [many, high, more, unjoined]
  | case7 first many second high more third rest three ih =>
    rw [List.cons_append, decode?.eq_def]
    simp [many, high, more, three, ih, Function.comp_def, Option.map_bind]
  | case8 first many second high more third most =>
    rw [List.cons_append, decode?.eq_def]
    simp [many, high, more, most, unjoined]
  | case9 first many second high more third most fourth rest four ih =>
    rw [List.cons_append, decode?.eq_def]
    simp [many, high, more, most, four, ih, Function.comp_def, Option.map_bind]
  | case10 first many second high more third most fourth rest beyond =>
    rw [List.cons_append, decode?.eq_def]
    simp [many, high, more, most, beyond]

end LineShell.Utf8
