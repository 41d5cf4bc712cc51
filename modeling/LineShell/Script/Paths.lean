import LineShell.Script.Pattern

/-! Paths that match a pattern: the pattern is taken name by name, and each directory on the way is
looked through. -/

namespace LineShell.Script.Paths

/-- Whether a bracket is closed within the name that it stands in. -/
def isClosed : Nat → Pattern → Bool
  | 0, _ => false
  | bound + 1, text =>
    let text := if text.head? = some 92 then text.drop 1 else text
    match text with
    | [] => false
    | first :: rest =>
      if first = 47 then false
      else rest.head? = some 93 || isClosed bound rest

/-- Whether a bracket that has been opened holds something to match. -/
def opensBracket (rest : Pattern) : Bool :=
  isClosed (rest.length + 1) (if rest.head? = some 33 then rest.drop 1 else rest)

/-- A pattern of paths, cut at the first name in which something is to match. -/
structure Cut where
  /-- What stands before that name. -/
  before : Pattern
  name : Pattern
  /-- What stands behind the slash after that name, if there is one. -/
  after : Option Pattern
  deriving DecidableEq, Repr, Inhabited

/-- Looks for the first name in which something is to match, behind what has been gone through. -/
def cutFrom : Nat → Pattern → Pattern → Bool → Pattern → Option Cut
  | 0, _, _, _, _ => none
  | _ + 1, before, name, found, [] => if found then some { before, name, after := none } else none
  | bound + 1, before, name, found, byte :: rest =>
    if byte = 42 || byte = 63 then cutFrom bound before (name ++ [byte]) true rest
    else if byte = 91 then
      cutFrom bound before (name ++ [byte]) (found || opensBracket rest) rest
    else
      let (piece, after) := match byte, rest with
        | 92, escaped :: after => ([byte, escaped], after)
        | _, _ => ([byte], rest)
      if piece.getLast? = some 47 then
        if found then some { before, name, after := some after }
        else cutFrom bound (before ++ name ++ piece) [] false after
      else cutFrom bound before (name ++ piece) found after

/-- A pattern of paths, cut at the first name in which something is to match, if there is one. -/
def cut? (pattern : Pattern) : Option Cut :=
  cutFrom (pattern.length + 1) [] [] false pattern

/-- The text that a pattern stands for in which nothing is to match. -/
def literal : Pattern → Bytes
  | 92 :: escaped :: rest => escaped :: literal rest
  | byte :: rest => byte :: literal rest
  | [] => []

/-- Whether a name may begin with a dot to match a pattern. -/
def allowsDot (pattern : Pattern) : Bool :=
  (if pattern.head? = some 92 then pattern.drop 1 else pattern).head? = some 46

/-- The names in a directory that match a pattern. -/
def namesIn (directory : Bytes) (pattern : Pattern) : Task (List Bytes) := do
  let place := if directory.isEmpty then bytes "." else directory
  match ← Task.request (.list place) with
  | .error _ => pure []
  | .ok names =>
    let all := bytes "." :: bytes ".." :: names.map bytes
    pure (all.filter fun name =>
      (name.head? ≠ some 46 || allowsDot pattern) && Pattern.accepts pattern name)

/-- The paths that begin in a certain way and go on to match a pattern. -/
def matching : Nat → Bytes → Pattern → Task (List Bytes)
  | 0, _, _ => pure []
  | depth + 1, start, pattern => do
    match cut? pattern with
    | none =>
      let path := start ++ literal pattern
      if start.isEmpty then pure []
      else
        match ← Task.request (.examine path false) with
        | .ok _ => pure [path]
        | .error _ => pure []
    | some cut =>
      let directory := start ++ literal cut.before
      let names ← namesIn directory cut.name
      match cut.after with
      | none => pure (names.map (directory ++ ·))
      | some after =>
        let parts ← names.mapM fun name => matching depth (directory ++ name ++ [47]) after
        pure parts.flatten

/-- The paths that match a pattern, in order. -/
def all (pattern : Pattern) : Task (List Bytes) := do
  let paths ← matching (pattern.length + 1) [] pattern
  pure (paths.mergeSort fun first second => !(second.lex first fun a b => decide (a < b)))

end LineShell.Script.Paths
