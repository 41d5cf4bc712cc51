import LineShell.Text.Utf8

/-! Lines of bytes: each ends at a line feed or at the end of the input. -/

namespace LineShell.Lines

/-- The byte that ends a line. -/
def lineFeed : UInt8 := 10

/-- The byte that is dropped right before the end of a line. -/
def carriageReturn : UInt8 := 13

/-- The first line, without its line feed, and what comes after it. -/
def cut? : Bytes → Option (Bytes × Bytes)
  | [] => none
  | byte :: rest =>
    if byte = lineFeed then some ([], rest)
    else (cut? rest).map fun (line, rest) => (byte :: line, rest)

/-- A line without the one carriage return it may end in. -/
def trim (line : Bytes) : Bytes :=
  if line.getLast? = some carriageReturn then line.dropLast else line

/-- All lines of an input. Only a line that a line feed ended loses a carriage return. -/
def ofInput : Bytes → List Bytes
  | [] => []
  | byte :: rest =>
    if byte = lineFeed then [] :: ofInput rest
    else match rest with
      | [] => [[byte]]
      | next :: _ =>
        if byte = carriageReturn && next = lineFeed then ofInput rest
        else (ofInput rest).modifyHead (byte :: ·)

end LineShell.Lines
