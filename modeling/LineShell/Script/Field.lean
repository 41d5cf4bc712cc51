import LineShell.Script.Pattern

/-! Fields: the words that an expanded word falls apart into. -/

namespace LineShell.Script

/-- A part of an expanded word. -/
inductive Glyph
  /-- A byte; one that is guarded has no meaning in a pattern. -/
  | byte (value : UInt8) (guarded : Bool)
  /-- The start or the end of a quoted part. -/
  | quote
  deriving DecidableEq, Repr, Inhabited

/-- Where a stretch of an expanded word falls apart. -/
inductive Rule
  /-- Nowhere. -/
  | whole
  /-- At separators. -/
  | separated
  /-- Only between arguments, which a zero byte stands between. -/
  | bordered
  deriving DecidableEq, Repr, Inhabited

/-- A stretch of an expanded word to which one rule applies. -/
structure Stretch where
  rule : Rule := .whole
  glyphs : List Glyph := []
  deriving DecidableEq, Repr, Inhabited

namespace Glyph

/-- The byte of a part, if it is one. -/
def byte? : Glyph → Option UInt8
  | .byte value _ => some value
  | .quote => none

/-- The bytes of some parts, without the quotes. -/
def text (glyphs : List Glyph) : Bytes :=
  glyphs.filterMap byte?

/-- The parts of a text in which nothing is guarded. -/
def ofText (text : Bytes) : List Glyph :=
  text.map (.byte · false)

/-- The text of parts in which nothing is guarded is read back. -/
@[simp] theorem text_ofText (content : Bytes) : text (ofText content) = content := by
  induction content with
  | nil => rfl
  | cons byte rest ih =>
    show byte :: text (ofText rest) = byte :: rest
    rw [ih]

/-- The pattern that some parts make. A backslash that is not guarded guards what follows it;
`open_` says that there is none in front. -/
def pattern (open_ : Bool) : List Glyph → Pattern
  | [] => []
  | .quote :: rest => pattern true rest
  | .byte value guarded :: rest =>
    if value = 92 && !guarded then value :: pattern false rest
    else if guarded && open_ then 92 :: value :: pattern true rest
    else value :: pattern true rest

end Glyph

namespace Field

/-- The bytes that separate fields if a script says nothing else. -/
def usualSeparators : Bytes := [32, 9, 10]

/-- A word that is being cut into fields. -/
structure Cutter where
  /-- The fields in reverse order. -/
  fields : List (List Glyph) := []
  /-- The field that has been begun, in reverse order. -/
  current : List Glyph := []
  /-- A field has just ended in a blank, so that separators that follow are left out. -/
  inGap : Bool := false
  /-- The last stretch fell apart between arguments only. -/
  bordered : Bool := false
  /-- How many fields there may still be, if there is a limit. -/
  left : Option Nat := none
  /-- The field as it was before what may be a gap at its end. -/
  beforeGap : Option (List Glyph) := none
  deriving Inhabited

namespace Cutter

/-- Puts a part behind those of the field. -/
def keep (cutter : Cutter) (glyph : Glyph) : Cutter :=
  { cutter with current := glyph :: cutter.current, inGap := false }

/-- Ends the field. -/
def finishField (cutter : Cutter) : Cutter :=
  { cutter with fields := cutter.current.reverse :: cutter.fields, current := [] }

/-- Goes on with a part behind which no field may begin any more. -/
def extend (cutter : Cutter) (glyph : Glyph) (isSeparator isBlank : Bool) : Cutter :=
  if isBlank then
    { cutter with
      beforeGap := some (cutter.beforeGap.getD cutter.current)
      current := glyph :: cutter.current }
  else
    let beforeGap := if isSeparator && cutter.inGap then cutter.beforeGap else none
    { cutter with beforeGap, inGap := false, current := glyph :: cutter.current }

/-- Goes on with a separator. -/
def separate (cutter : Cutter) (glyph : Glyph) (isBlank strict : Bool) : Cutter :=
  let cutter := if strict then cutter else { cutter with inGap := isBlank }
  if cutter.current.isEmpty && cutter.inGap then { cutter with inGap := false }
  else match cutter.left with
    | some 1 =>
      { cutter with
        left := some 0
        beforeGap := some cutter.current
        current := glyph :: cutter.current }
    | left => { cutter.finishField with left := left.map (· - 1) }

/-- Goes on with a part of a stretch. `strict` says that blanks are separators like others here. -/
def step (separators : Bytes) (strict : Bool) (cutter : Cutter) (glyph : Glyph) : Cutter :=
  let separates := fun (within : Bytes) => glyph.byte?.any fun value =>
    value = 0 || within.contains value
  let isSeparator := separates separators
  let isBlank := isSeparator && separates usualSeparators
  if cutter.left = some 0 then cutter.extend glyph isSeparator isBlank
  else if cutter.inGap then
    if isSeparator then { cutter with current := [], inGap := isBlank }
    else { cutter with current := [glyph], inGap := false }
  else if isSeparator then cutter.separate glyph isBlank strict
  else cutter.keep glyph

/-- Goes on with a stretch. -/
def stretch (separators : Bytes) (cutter : Cutter) (stretch : Stretch) : Cutter :=
  match stretch.rule with
  | .whole => { cutter with current := stretch.glyphs.reverse ++ cutter.current }
  | rule =>
    let bordered : Bool := rule = .bordered
    let separators := if bordered then [] else separators
    let start := { cutter with inGap := false, bordered }
    stretch.glyphs.foldl (step separators (cutter.bordered || bordered)) start

/-- All the fields. -/
def finish (cutter : Cutter) : List (List Glyph) :=
  let last := if cutter.bordered then cutter.current else cutter.beforeGap.getD cutter.current
  if last.isEmpty && !cutter.bordered then cutter.fields.reverse
  else (last.reverse :: cutter.fields).reverse

end Cutter

/-- The fields that a word falls apart into; there may be a limit to how many. -/
def split (separators : Bytes) (most : Option Nat) (stretches : List Stretch) :
    List (List Glyph) :=
  (stretches.foldl (Cutter.stretch separators) { left := most }).finish

/-- A word that falls apart nowhere is one field, or none if there is nothing in it. -/
theorem split_whole (separators : Bytes) (glyphs : List Glyph) :
    split separators none [{ glyphs }] = if glyphs.isEmpty then [] else [glyphs] := by
  cases glyphs with
  | nil => rfl
  | cons first rest => simp [split, Cutter.stretch, Cutter.finish]

end Field

end LineShell.Script
