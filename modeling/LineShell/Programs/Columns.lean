import LineShell.Programs.Naming

/-! Columns: names side by side in as many columns as there is room for. -/

namespace LineShell.Programs

/-- How names are laid out. -/
structure Columns where
  /-- How many places a line has; there is no limit if it is zero. -/
  width : Nat := 80
  /-- How far the stops of tabs are apart; there are no tabs if it is zero. -/
  stop : Nat := 8
  /-- Neighbours stand side by side, and not one above the other. -/
  byRows : Bool := false
  deriving DecidableEq, Repr, Inhabited

namespace Columns

/-- The fewest places that a column takes. -/
def least : Nat := 3

/-- The number of lines that names take in so many columns. -/
def rowCount (count columns : Nat) : Nat :=
  (count + columns - 1) / columns

/-- The widths of columns if names of some lengths stand in so many of them. There are two blanks
behind each but for the last. -/
def widths (byRows : Bool) (lengths : List Nat) (columns : Nat) : List Nat :=
  let rows := rowCount lengths.length columns
  (List.range columns).map fun column =>
    let gap := if column + 1 = columns then 0 else 2
    lengths.zipIdx.foldl (fun width (length, place) =>
      let own := if byRows then place % columns else place / rows
      if own = column then max width (length + gap) else width) least

/-- The most columns in which names of some lengths fit into a line. -/
def fitting (layout : Columns) (lengths : List Nat) : Nat :=
  let most := min lengths.length (max 1 (rowCount layout.width least))
  let counts := (List.range most).reverse.map (· + 1)
  let fits := fun (columns : Nat) => total (widths layout.byRows lengths columns) < layout.width
  ((counts.filter (· ≠ 1)).find? fits).getD 1

/-- Blanks and tabs that lead from one place to another. -/
def indent (stop target : Nat) : Nat → Nat → Bytes
  | 0, _ => []
  | steps + 1, place =>
    if place < target then
      if stop ≠ 0 && target / stop > (place + 1) / stop then
        9 :: indent stop target steps (place + (stop - place % stop))
      else 32 :: indent stop target steps (place + 1)
    else []

/-- A line of names, each with the width of its column. -/
def line (stop : Nat) (place : Nat) : List (Bytes × Nat) → Bytes
  | [] => []
  | [(name, _)] => name
  | (name, width) :: rest =>
    let target := place + width
    name ++ indent stop target width (place + Naming.width name) ++ line stop target rest

/-- Names in lines with columns. -/
def lines (layout : Columns) (names : List Bytes) : List Bytes :=
  let lengths := names.map Naming.width
  let columns := layout.fitting lengths
  let widths := widths layout.byRows lengths columns
  let rows := rowCount names.length columns
  (List.range rows).map fun row =>
    line layout.stop 0 ((List.range columns).filterMap fun column =>
      let place := if layout.byRows then row * columns + column else column * rows + row
      (names[place]?).map fun name => (name, widths.getD column 0))

/-- Names one after the other with a byte and a blank between them, in as many lines as it takes. -/
def inText (width : Nat) (separator : UInt8) : List Bytes → List Bytes
  | [] => []
  | first :: rest =>
    let (lines, line, _) := rest.foldl (fun (lines, line, place) name =>
      let length := Naming.width name
      if width = 0 || place + length + 2 < width then
        (lines, line ++ separator :: 32 :: name, place + 2 + length)
      else ((line ++ [separator]) :: lines, name, length))
      (([] : List Bytes), first, Naming.width first)
    (line :: lines).reverse

end Columns

end LineShell.Programs
