import LineShell.Script.Arithmetic
import LineShell.Script.Field
import LineShell.Script.Paths
import LineShell.Script.Shell

/-! Expansion: what the words of a script become. -/

namespace LineShell.Script

/-- What a word is expanded for. -/
structure Setting where
  /-- The word may become any number of words. -/
  full : Bool := false
  /-- The word is a pattern. -/
  pattern : Bool := false
  /-- A tilde may stand behind an equals sign or a colon. -/
  assignment : Bool := false
  /-- The equals sign has been passed. -/
  assigned : Bool := false
  /-- The word stands between double quotes. -/
  quoted : Bool := false
  /-- The word stands behind the name of a parameter. -/
  inner : Bool := false
  /-- The word is gone through, but nothing comes of it. -/
  discarded : Bool := false
  deriving DecidableEq, Repr, Inhabited

namespace Setting

/-- Whether quotes and guarded bytes are told from others. -/
def keepsQuotes (setting : Setting) : Bool :=
  setting.full || setting.pattern

end Setting

/-- A word as far as it has been expanded. -/
structure Expanse where
  /-- The stretches in reverse order. -/
  stretches : List Stretch := []
  /-- The stretch at the end, in reverse order. -/
  current : List Glyph := []
  deriving Inhabited

namespace Expanse

/-- Ends the stretch at the end, to which a rule applies. -/
def close (expanse : Expanse) (rule : Rule) : Expanse :=
  if expanse.current.isEmpty then expanse
  else { stretches := ⟨rule, expanse.current.reverse⟩ :: expanse.stretches }

/-- Puts stretches behind what there is. -/
def append (expanse : Expanse) (rule : Rule) (stretches : List Stretch) : Expanse :=
  { stretches := stretches.reverse ++ (expanse.close rule).stretches }

/-- Puts a part behind what there is that is not to be separated from anything. -/
def keep (expanse : Expanse) (rule : Rule) (glyph : Glyph) : Expanse :=
  if rule = .whole then { expanse with current := glyph :: expanse.current }
  else expanse.append rule [⟨.whole, [glyph]⟩]

/-- All the stretches. -/
def finish (expanse : Expanse) (rule : Rule) : List Stretch :=
  (expanse.close rule).stretches.reverse

end Expanse

namespace Expansion

open LineShell.Script.Action

/-- The parts of a value. Between quotes, what could mean something in a pattern is guarded. -/
def glyphsOf (setting : Setting) (value : Bytes) : List Glyph :=
  let guards := setting.keepsQuotes && setting.quoted
  value.map fun byte => .byte byte (guards && (Reader.isGuarded byte || byte = 92))

/-- The text of stretches, up to the first zero byte. -/
def textOf (stretches : List Stretch) : Bytes :=
  (Glyph.text (stretches.flatMap (·.glyphs))).takeWhile (· != 0)

/-- What stands between arguments that become one value. -/
def joint (shell : Shell) (setting : Setting) (each : Bool) : Bytes :=
  if each && setting.full && setting.quoted then [0]
  else match shell.separators with
    | none => [32]
    | some separators => if setting.full && !setting.quoted then [0] else separators.take 1

/-- The value of a parameter, if it has one. -/
def valueOf? (shell : Shell) (setting : Setting) (name : Bytes) : Option Bytes :=
  let arguments := shell.operands.values
  let number := fun (n : Nat) => some (Programs.digits n)
  match name with
  | [36] => number shell.number
  | [63] => number shell.status
  | [35] => number arguments.length
  | [33] => shell.latest.bind number
  | [45] => some (Switch.letters shell.switches)
  | [64] => some (arguments.intersperse (joint shell setting true)).flatten
  | [42] => some (arguments.intersperse (joint shell setting false)).flatten
  | first :: _ =>
    if isDigit first then
      match Programs.number? name with
      | some 0 => some shell.name
      | some (index + 1) => arguments[index]?
      | none => none
    else shell.value? name
  | [] => none

/-- The rule for the value of a parameter; nothing if it is part of what stands around it. -/
def ruleOf? (shell : Shell) (setting : Setting) (name : Bytes) : Option Rule :=
  if !setting.quoted then some .separated
  else if name = [64] && !shell.operands.values.isEmpty then some .bordered
  else none

/-- The stretch of a value. -/
def stretchOf (rule : Option Rule) (glyphs : List Glyph) : List Stretch :=
  match rule with
  | some rule => [⟨rule, glyphs⟩]
  | none => [⟨.whole, glyphs⟩]

/-- What is said about a parameter without a value. -/
def missingMessage (orEmpty : Bool) : Bytes :=
  bytes (if orEmpty then "parameter not set or null" else "parameter not set")

/-- The value of a parameter without what matches a pattern. -/
def cutValue (pattern : Pattern) (atEnd longest : Bool) (glyphs : List Glyph) : List Glyph :=
  let value := Glyph.text glyphs
  if atEnd then
    match Pattern.cutEnd pattern longest value with
    | some length => glyphs.take length
    | none => glyphs
  else
    match Pattern.cutStart pattern longest value with
    | some length => glyphs.drop length
    | none => glyphs

/-- What a parameter becomes. The word behind its name, if one is `given`, is expanded by
`inner`. -/
def parameter (setting : Setting) (name : Bytes) (change : Change) (orEmpty given : Bool)
    (inner : Setting → Action (List Stretch)) : Action (List Stretch) := do
  if change = .malformed && !setting.discarded then fail (bytes "Bad substitution")
  let shell ← get
  let value? := valueOf? shell setting name
  let isMissing := value?.all fun value => orEmpty && value.isEmpty
  let value := glyphsOf setting (value?.getD [])
  let rule := ruleOf? shell setting name
  let whole := if setting.discarded then [] else stretchOf rule value
  let aside := { setting with discarded := true, inner := true }
  match change with
  | .malformed =>
    discard (inner aside)
    return []
  | .instead =>
    if isMissing then
      discard (inner aside)
      return if setting.discarded || rule.isNone then [] else stretchOf rule []
    else inner { setting with inner := true }
  | .otherwise =>
    if isMissing then inner { setting with inner := true }
    else
      discard (inner aside)
      return whole
  | .assign =>
    if !isMissing || setting.discarded then
      discard (inner aside)
      return whole
    let text := textOf (← inner {})
    assign name text
    let shell ← get
    match valueOf? shell setting name with
    | some value => return stretchOf rule (glyphsOf setting value)
    | none => return []
  | .demand =>
    if !isMissing || setting.discarded then
      discard (inner aside)
      return whole
    let message := textOf (← inner {})
    fail (name ++ bytes ": " ++ if given then message else missingMessage orEmpty)
  | .keep | .length | .cut .. =>
    if isMissing && !setting.discarded && shell.has .nounset then
      fail (name ++ bytes ": " ++ missingMessage false)
    match change with
    | .length =>
      if setting.discarded then return []
      return stretchOf rule (glyphsOf setting (Programs.digits (value?.getD []).length))
    | .cut atEnd longest =>
      if isMissing || setting.discarded then
        discard (inner { setting with discarded := true })
        return []
      let pattern := Glyph.pattern true ((← inner { pattern := true }).flatMap (·.glyphs))
      return stretchOf rule (cutValue pattern atEnd longest value)
    | _ => return if isMissing then [] else whole

/-- Ends the process as the system ends one that makes a mistake with numbers. -/
def crash : Action Int64 := do
  discard (ask (.signal (← ask .identity) 8))
  throw .over

/-- The value of an expression, which may change variables. -/
def compute (text : Bytes) : Action Bytes := do
  let store : Arithmetic.Store Action := {
    value := fun name => do return ((← get).value? name).getD []
    assign := fun name value => assign name (bytes (Text.decimal value.toInt))
    fail := fun fault => do
      if fault = .overflow then crash else fail (fault.message text) }
  let value ← (Arithmetic.Expression.ofBytes text).evaluate store true
  return bytes (Text.decimal value.toInt)

/-- The home directories of the users of the system. -/
def homes : List (String × String) :=
  [("root", "/root"), ("daemon", "/usr/sbin"), ("bin", "/bin"), ("sys", "/dev"),
    ("sync", "/bin"), ("games", "/usr/games"), ("man", "/var/cache/man"),
    ("lp", "/var/spool/lpd"), ("mail", "/var/mail"), ("news", "/var/spool/news"),
    ("uucp", "/var/spool/uucp"), ("proxy", "/bin"), ("www-data", "/var/www"),
    ("backup", "/var/backups"), ("list", "/var/list"), ("irc", "/run/ircd"),
    ("nobody", "/nonexistent")]

/-- The name behind a tilde, if nothing in it is quoted. -/
def tildeName? (inAssignment : Bool) : Word → Option Bytes
  | [] => some []
  | .plain byte :: rest =>
    if byte = 47 || (byte = 58 && inAssignment) then some []
    else (tildeName? inAssignment rest).map (byte :: ·)
  | _ => none

/-- The home directory that a tilde with a name behind it stands for. -/
def home? (shell : Shell) (name : Bytes) : Option Bytes :=
  if name.isEmpty then shell.value? (bytes "HOME")
  else (homes.lookup (plain name)).map bytes

/-- How far the expansion of a word has come. -/
structure Progress where
  /-- A tilde may stand here. -/
  tilde : Bool := false
  /-- Quotes are open. -/
  quoted : Bool := false
  /-- How many signs have been dealt with already. -/
  ahead : Nat := 0
  deriving DecidableEq, Repr, Inhabited

/-- Whether quotes hold nothing but all the arguments. -/
def isArguments : Word → Bool
  | .parameter [64] .keep false [] :: .quote :: _ => true
  | _ => false

/-- What a word becomes. Commands in it are carried out by `output`. -/
def expand (output : Command → Action Bytes) (setting : Setting) (progress : Progress)
    (expanse : Expanse) (word : Word) : Action (List Stretch) :=
  let isInner := setting.inner && !setting.quoted && !progress.quoted
  let rule : Rule := if isInner then .separated else .whole
  let here := { setting with quoted := setting.quoted || progress.quoted }
  let following := { progress with tilde := false, ahead := progress.ahead - 1 }
  match word with
  | [] => return expanse.finish rule
  | .plain byte :: rest =>
    if progress.ahead > 0 then expand output setting following expanse rest
    else do
      let name? := if progress.tilde && byte = 126 then tildeName? setting.assignment rest else none
      let home := name?.bind (home? (← get))
      match name?, home with
      | some name, some home =>
        let value := ⟨.whole, glyphsOf { setting with quoted := true } home⟩
        let expanse := if setting.discarded then expanse else expanse.append rule [value]
        expand output setting { following with ahead := name.length } expanse rest
      | _, _ =>
        let expanse := if setting.discarded then expanse
          else { expanse with current := .byte byte false :: expanse.current }
        let isEquals := byte = 61 && !setting.assigned
        let tilde := setting.assignment && (byte = 58 || isEquals)
        let setting := { setting with assigned := setting.assigned || byte = 61 }
        expand output setting { following with tilde } expanse rest
  | .literal byte :: rest =>
    let glyph := Glyph.byte byte setting.keepsQuotes
    let expanse := if setting.discarded then expanse else expanse.keep rule glyph
    expand output setting following expanse rest
  | .quote :: rest =>
    if progress.ahead > 0 then expand output setting following expanse rest
    else if !progress.quoted && isArguments rest then do
      let value ← parameter { here with quoted := true } [64] .keep false false fun _ =>
        return []
      expand output setting { following with ahead := 2 } (expanse.append rule value) rest
    else
      let expanse := if setting.discarded || !setting.keepsQuotes then expanse.close rule
        else expanse.append rule [⟨.whole, [.quote]⟩]
      expand output setting { following with quoted := !progress.quoted } expanse rest
  | .parameter name change orEmpty inner :: rest =>
    if progress.ahead > 0 then expand output setting following expanse rest
    else do
      let given : Bool := !inner.isEmpty
      let value ← parameter here name change orEmpty given fun setting =>
        expand output setting { tilde := true } {} inner
      expand output setting following (expanse.append rule value) rest
  | .arithmetic inner :: rest => do
    if setting.discarded then expand output setting following expanse rest
    else
      let text := textOf (← expand output {} {} {} inner)
      let value := glyphsOf here (← compute text)
      let stretch := ⟨if here.quoted then .whole else .separated, value⟩
      expand output setting following (expanse.append rule [stretch]) rest
  | .output body :: rest => do
    if setting.discarded then expand output setting following expanse rest
    else
      let value := glyphsOf here (← output body)
      let stretch := ⟨if here.quoted then .whole else .separated, value⟩
      expand output setting following (expanse.append rule [stretch]) rest
termination_by sizeOf word

/-- The text that a word becomes. -/
def text (output : Command → Action Bytes) (setting : Setting) (tilde : Bool) (word : Word) :
    Action Bytes := do
  return textOf (← expand output setting { tilde } {} word)

/-- The pattern that a word becomes. -/
def pattern (output : Command → Action Bytes) (word : Word) : Action Pattern := do
  let stretches ← expand output { pattern := true } { tilde := true } {} word
  return (Glyph.pattern true (stretches.flatMap (·.glyphs))).takeWhile (· != 0)

/-- The words that a field becomes: the paths that match it as a pattern, or its text if there are
none. -/
def wordsOfField (field : List Glyph) : Action (List Bytes) := do
  let alone := [Glyph.text field]
  if (← get).has .noglob || (Paths.cut? (Glyph.pattern true field)).isNone then return alone
  let paths ← ofTask (Paths.all (Glyph.pattern true field))
  return if paths.isEmpty then alone else paths

/-- The words that a word becomes. -/
def words (output : Command → Action Bytes) (word : Word) : Action (List Bytes) := do
  let stretches ← expand output { full := true } { tilde := true } {} word
  let separators := (← get).separators.getD Field.usualSeparators
  let parts ← (Field.split separators none stretches).mapM wordsOfField
  return parts.flatten

end Expansion

end LineShell.Script
