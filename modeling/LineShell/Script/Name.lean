import LineShell.Programs.Basic

/-! Names: what variables and functions can be called. -/

namespace LineShell.Script

/-- The bytes that a name can begin with. -/
def startsName (byte : UInt8) : Bool :=
  (97 ≤ byte && byte ≤ 122) || (65 ≤ byte && byte ≤ 90) || byte == 95

/-- The decimal digits. -/
def isDigit (byte : UInt8) : Bool :=
  48 ≤ byte && byte ≤ 57

/-- The bytes that a name can hold. -/
def inName (byte : UInt8) : Bool :=
  startsName byte || isDigit byte

/-- The name that a text begins with; it is empty if there is none. -/
def leadingName (text : Bytes) : Bytes :=
  match text with
  | [] => []
  | first :: _ => if startsName first then text.takeWhile inName else []

/-- Whether a text is a name. -/
def isName (text : Bytes) : Bool :=
  !text.isEmpty && (leadingName text).length = text.length

/-- Whether a text is a name with an equals sign behind it, whatever follows. -/
def isAssignment (text : Bytes) : Bool :=
  let name := leadingName text
  !name.isEmpty && (text.drop name.length).head? = some 61

/-- The bytes that name a special parameter. -/
def isSpecialParameter (byte : UInt8) : Bool :=
  isDigit byte || (bytes "@*#?-$!").contains byte

/-- The text in front of an equals sign, and the text behind it if there is one. -/
def splitAssignment (text : Bytes) : Bytes × Option Bytes :=
  let name := text.takeWhile (· != 61)
  (name, if name.length = text.length then none else some (text.drop (name.length + 1)))

/-- The builtins whose failures end a script and whose assignments last. -/
def specialBuiltins : List String :=
  [".", ":", "break", "continue", "eval", "exec", "exit", "export", "readonly", "return", "set",
    "shift", "times", "trap", "unset"]

/-- A text without an equals sign gives no value. -/
theorem splitAssignment_of_not_mem {text : Bytes} (absent : 61 ∉ text) :
    splitAssignment text = (text, none) := by
  have all : text.takeWhile (· != 61) = text := by
    induction text with
    | nil => rfl
    | cons byte rest ih =>
      have first : byte ≠ 61 := fun same => absent (by simp [same])
      have others : 61 ∉ rest := fun mem => absent (List.mem_cons_of_mem _ mem)
      simp [first, ih others]
  simp [splitAssignment, all]

end LineShell.Script
