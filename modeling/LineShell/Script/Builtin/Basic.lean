import LineShell.Script.Shell

/-! Builtins: the commands that a script carries out by itself. -/

namespace LineShell.Script

/-- What a builtin does with its arguments, and the exit code it gives. -/
abbrev Builtin := List Bytes → Action Nat

namespace Builtin

open LineShell.Script.Action

/-- What becomes of an option among those that a builtin knows. -/
inductive Kind
  | unknown
  | alone
  /-- A value follows the option. -/
  | valued
  deriving DecidableEq, Repr, Inhabited

/-- The kind of an option; a colon stands behind each letter that has a value. -/
def kindOf (known : List Char) (letter : Char) : Kind :=
  match known with
  | [] => .unknown
  | first :: ':' :: rest => if first = letter then .valued else kindOf rest letter
  | first :: rest => if first = letter then .alone else kindOf rest letter

/-- The options of a builtin with their values, and the arguments behind them. The letters are what
is left of the argument that is being read. -/
def optionsFrom (known : List Char) :
    Bytes → List Bytes → Action (List (Char × Bytes) × List Bytes)
  | letter :: letters, rest => do
    let c := Char.ofNat letter.toNat
    match kindOf known c with
    | .unknown => fail (bytes "Illegal option -" ++ [letter])
    | .alone =>
      let (options, operands) ← optionsFrom known letters rest
      return ((c, []) :: options, operands)
    | .valued =>
      if !letters.isEmpty then
        let (options, operands) ← optionsFrom known [] rest
        return ((c, letters) :: options, operands)
      else match rest with
        | [] => fail (bytes "No arg for -" ++ letter :: bytes " option")
        | value :: rest =>
          let (options, operands) ← optionsFrom known [] rest
          return ((c, value) :: options, operands)
  | [], [] => return ([], [])
  | [], argument :: rest =>
    match argument with
    | [45, 45] => return ([], rest)
    | 45 :: letter :: letters => optionsFrom known (letter :: letters) rest
    | _ => return ([], argument :: rest)
termination_by letters rest => letters.length + rest.flatten.length + rest.length
decreasing_by
  all_goals simp only [List.length_cons, List.length_nil, List.flatten_cons, List.length_append]
  all_goals omega

/-- The options of a builtin with their values, and the arguments behind them. -/
def options (known : String) (arguments : List Bytes) :
    Action (List (Char × Bytes) × List Bytes) :=
  optionsFrom known.toList [] arguments

/-- The arguments of a builtin without options. -/
def operands (arguments : List Bytes) : Action (List Bytes) := do
  return (← options "" arguments).2

end Builtin

end LineShell.Script
