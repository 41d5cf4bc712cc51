import LineShell.Script.Expansion

/-! Redirections: what descriptors reach while a command runs. -/

namespace LineShell.Script

/-- A redirection whose words have been expanded. -/
inductive Redirected
  | file (descriptor : Nat) (manner : Manner) (careful : Bool) (path : Bytes)
  /-- Copies a descriptor, or closes the one to change if there is no source. -/
  | copy (descriptor : Nat) (source : Option Nat)
  | inline (descriptor document : Nat)
  deriving DecidableEq, Repr, Inhabited

namespace Redirected

open LineShell.Script.Action

/-- The descriptor that is changed. -/
def descriptor : Redirected → Nat
  | .file descriptor .. | .copy descriptor _ | .inline descriptor _ => descriptor

/-- Says that something is no descriptor, as if that had been found while the script was read. -/
def refuseNumber {α : Type} : Action α := do
  modify fun shell => { shell with line := shell.lineRead }
  fail (bytes "Syntax error: Bad fd number")

/-- A redirection with its words expanded. -/
def expand (output : Command → Action Bytes) (redirect : Redirect) : Action Redirected := do
  match redirect with
  | .file descriptor manner careful target =>
    return .file descriptor manner careful (← Expansion.text output {} true target)
  | .inline descriptor document => return .inline descriptor document
  | .copy descriptor target =>
    match (← Expansion.words output target).headD [] with
    | [45] => return .copy descriptor none
    | [digit] =>
      if isDigit digit then return .copy descriptor (some (digit.toNat - 48))
      else refuseNumber
    | _ => refuseNumber

/-- Says why a file cannot be opened. -/
def refuse {α : Type} (path : Bytes) (creates : Bool) (cause : Errno) : Action α :=
  let isAbsent := cause = .noEntry || cause = .notDirectory
  let (act, absence) := if creates then ("create", "Directory nonexistent")
    else ("open", "No such file")
  fail (bytes ("cannot " ++ act ++ " ") ++ path ++
    bytes (": " ++ if isAbsent then absence else cause.text))

/-- Whether a file is one that keeps what is written to it. -/
def isRegular (facts : Facts) : Bool :=
  match facts.file.node with
  | .regular .. => true
  | _ => false

/-- Opens a file. -/
def openPlainly (path : Bytes) (manner : Manner) : Action Nat := do
  match ← ask (.openFile path manner 0o666) with
  | .ok opened => return opened
  | .error cause => refuse path manner.creates cause

/-- Opens a file to write to, unless there is one already that keeps what is written. -/
def openFresh (path : Bytes) : Action Nat := do
  match ← ask (.examine path true) with
  | .error _ => openPlainly path { writes := true, creates := true, fresh := true }
  | .ok facts =>
    if isRegular facts then refuse path true .alreadyExists
    else
      let opened ← openPlainly path { writes := true }
      match ← ask (.inspect opened) with
      | .ok (some facts) =>
        if isRegular facts then
          discard (ask (.close opened))
          refuse path true .alreadyExists
        else return opened
      | _ => return opened

/-- The text that a command reads from the script. -/
def contentOf (output : Command → Action Bytes) (number : Nat) : Action Bytes := do
  match (← get).documents.lookup number with
  | none => return []
  | some document =>
    if document.expanded then Expansion.text output { quoted := true } false document.content
    else return document.content.unquoted

/-- Puts a text into a new pipe, and gives the end to read it from. -/
def pipeHolding (content : Bytes) : Action Nat := do
  match ← ask .pipe with
  | .error _ => fail (bytes "Pipe call failed")
  | .ok (reader, writer) =>
    -- A longer text may have to wait until some of it has been read.
    if content.length ≤ 4096 then write writer content
    else
      discard (fork (do
        discard (ask (.close reader))
        write writer content))
    discard (ask (.close writer))
    return reader

/-- What a redirection makes its descriptor reach. -/
inductive Source
  /-- A descriptor that has just been opened. -/
  | opened (descriptor : Nat)
  | copied (descriptor : Nat)
  | nothing
  /-- What it reaches already. -/
  | itself
  deriving DecidableEq, Repr, Inhabited

/-- Gets hold of what a redirection makes its descriptor reach. -/
def source (output : Command → Action Bytes) (redirected : Redirected) : Action Source := do
  match redirected with
  | .file _ manner careful path =>
    if careful && (← get).has .noclobber then return .opened (← openFresh path)
    else return .opened (← openPlainly path manner)
  | .copy descriptor (some source) =>
    return if source = descriptor then .itself else .copied source
  | .copy _ none => return .nothing
  | .inline _ number => return .opened (← pipeHolding (← contentOf output number))

/-- Remembers in the last frame what a descriptor has reached. -/
def keep (descriptor : Nat) (kept : Option Nat) : Action Unit :=
  modify fun shell => { shell with
    frames := shell.frames.modifyHead ((descriptor, kept) :: ·) }

/-- Sets what a descriptor reaches aside, unless that has been done in the last frame. -/
def setAside (descriptor : Nat) : Action Unit := do
  let frame := (← get).frames.headD []
  if !frame.any fun entry => entry.1 = descriptor then
    match ← ask (.keepAside descriptor 10) with
    | .ok kept =>
      keep descriptor (some kept)
      discard (ask (.close descriptor))
    | .error _ => keep descriptor none

/-- Makes a redirection. What the descriptor has reached is remembered if it is `kept`. -/
def apply (output : Command → Action Bytes) (kept : Bool) (redirected : Redirected) :
    Action Unit := do
  let descriptor := redirected.descriptor
  match ← redirected.source output with
  | .itself => pure ()
  | .opened opened =>
    if opened = descriptor then
      if kept && !((← get).frames.headD []).any fun entry => entry.1 = descriptor then
        keep descriptor none
    else
      if kept then setAside descriptor
      move opened descriptor
  | .copied source =>
    if kept then setAside descriptor
    match ← ask (.duplicate source descriptor) with
    | .ok () => pure ()
    | .error cause => fail (Programs.digits source ++ bytes (": " ++ cause.text))
  | .nothing =>
    if kept then setAside descriptor
    discard (ask (.close descriptor))

/-- Makes redirections for one command. Tells whether that was possible. -/
def applyAll (output : Command → Action Bytes) (redirections : List Redirected) : Action Bool := do
  if redirections.isEmpty then return true
  modify fun shell => { shell with frames := [] :: shell.frames, traceTarget := 2 }
  match ← attempt (redirections.forM (apply output true)) with
  | .error .fault => return false
  | .error ending => throw ending
  | .ok () =>
    let kept := ((← get).frames.headD []).findSome? fun (descriptor, kept) =>
      if descriptor = 2 then kept else none
    modify fun shell => { shell with traceTarget := kept.getD 2 }
    return true

end Redirected

end LineShell.Script
