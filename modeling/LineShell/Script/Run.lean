import LineShell.Script.Builtin.Catalog
import LineShell.Script.Redirect

/-! The run of a script: what each command does, as an action of the process that runs it. -/

namespace LineShell.Script

/-- The surroundings of a command. -/
structure Mode where
  /-- Nothing comes after the command in this process. -/
  last : Bool := false
  /-- A failure of the command is looked at. -/
  tested : Bool := false
  deriving DecidableEq, Repr, Inhabited

/-- The words of a simple command while they are being expanded. -/
structure Call where
  /-- What has been expanded. -/
  fields : List Bytes := []
  /-- The words that have not been expanded yet. -/
  rest : List Word
  /-- How many fields stand in front of the name of the command. -/
  start : Nat := 0
  /-- What the name stands for, if that is a function or a builtin. -/
  target : Target := .builtin
  /-- The command may be a function. -/
  functions : Bool := true
  /-- A search path beside that of the script. -/
  path : Option Bytes := none
  /-- The command is a builtin whose failure ends the script. -/
  special : Bool := false
  /-- Assignments in front of the command last as long as it runs. -/
  temporary : Bool := false
  deriving Inhabited

namespace Call

/-- The name of the command with its arguments. -/
def words (call : Call) : List Bytes :=
  call.fields.drop call.start

end Call

/-- Where more of a source comes from while its commands run. -/
structure Feed where
  /-- Something that leads back to the end of a file ends at the end of the source. -/
  isFile : Bool := false
  /-- The source is the file of the script itself. -/
  isScript : Bool := false
  descriptor : Option Nat := none
  deriving DecidableEq, Repr, Inhabited

/-- Which commands are left out behind a command in a loop. -/
inductive Passing
  | nothing
  /-- The rest of the round. -/
  | round
  /-- The rest of the loop. -/
  | loop
  /-- The rest of a function or a file; the status has been set if `given`. -/
  | all (given : Bool)
  deriving DecidableEq, Repr, Inhabited

namespace Run

open LineShell.Script.Action

/-- Text without the line feeds it ends in, and without zero bytes. -/
def trimOutput (data : Bytes) : Bytes :=
  ((data.filter (· != 0)).reverse.dropWhile (· == 10)).reverse

/-- Sets the line that messages tell. -/
def atLine (line : Nat) : Action Unit :=
  modify fun shell => shell.atLine line

/-- What is to be left out in the loop that runs, when something is left out. One loop less is to
be left after it. -/
def passLoop : Action Passing := do
  let lessen := fun (loops : Nat) (make : Nat → Skip) (passing : Passing) => do
    if loops ≤ 1 then
      modify fun shell => { shell with skip := .none }
      return passing
    else
      modify fun shell => { shell with skip := make (loops - 1) }
      return Passing.loop
  match (← get).skip with
  | .none => return .nothing
  | .leave loops => lessen loops .leave .loop
  | .again loops => lessen loops .again .round
  | .back given => return .all given

/-- Ends the leaving out of commands up to the end of a function or a file. -/
def endBack : Action Unit :=
  modify fun shell =>
    match shell.skip with
    | .back _ => { shell with skip := .none }
    | _ => shell

/-- What is run by a builtin that leaves loops. -/
def leaveLoops (make : Nat → Skip) (arguments : List Bytes) : Action Nat := do
  let number ← match arguments with
    | [] => pure 1
    | argument :: _ => do
      let number ← count argument
      if number = 0 then fail (bytes "Illegal number: " ++ argument)
      pure number
  let loops := min number (← get).loops
  if loops > 0 then modify fun shell => { shell with skip := make loops }
  return 0

/-- Leaves a function or a file. -/
def goBack (arguments : List Bytes) : Action Nat := do
  match arguments with
  | [] =>
    modify fun shell => { shell with skip := .back false }
    return (← get).status
  | argument :: _ =>
    let code ← count argument
    modify fun shell => { shell with skip := .back true }
    return code

/-- Ends the script. -/
def leave (arguments : List Bytes) : Action Nat := do
  match arguments with
  | [] => pure ()
  | argument :: _ =>
    let code ← count argument
    modify fun shell => { shell with lastStatus := some code }
  throw .exit

/-- The file of commands that a name stands for. -/
def commandFile (name : Bytes) : Action Bytes := do
  if name.contains 47 then return name
  search (Lookup.candidates (← get).searchPath name)
where
  /-- The first file at some paths. -/
  search : List Bytes → Action Bytes
    | [] => fail (name ++ bytes ": not found")
    | path :: rest => do
      match ← ask (.examine path true) with
      | .ok facts => if Redirected.isRegular facts then return path else search rest
      | .error _ => search rest

/-- Opens a file of commands, under a descriptor that commands do not use. -/
def openScript (path : Bytes) : Action Nat := do
  let opened ← Redirected.openPlainly path .reading
  if opened ≥ 10 then return opened
  match ← ask (.keepAside opened 10) with
  | .ok kept =>
    discard (ask (.close opened))
    return kept
  | .error _ => return opened

/-- The state in which the commands of a source are read. -/
def readerState (source : Source) : Action ReaderState := do
  let shell ← get
  return { source, aliases := shell.aliases, nextDocument := shell.nextDocument }

/-- Shows the lines that have been begun, if that is wanted. -/
def echoLines (source : Source) : Action Source := do
  if (← get).has .verbose && !source.begun.isEmpty then
    write 2 source.begun.reverse.flatten
  return { source with begun := [] }

/-- Gives a variable the value behind its name. -/
def assignText (exported : Bool) (text : Bytes) : Action Unit := do
  match splitAssignment text with
  | (name, some value) =>
    checkName name
    store name fun entry =>
      { entry with value := some value, exported := entry.exported || exported }
  | (_, none) => pure ()

/-- Looks up the program that a command of a pipeline will become, as long as that is known
without running anything. -/
def lookAhead (command : Command) : Action Unit := do
  match command with
  | .simple _ _ (word :: _) _ =>
    match Word.text? word with
    | some name => if isName name then discard (Lookup.find {} name)
    | none => pure ()
  | _ => pure ()

mutual

/-- The output of a command, which runs in a copy of the process. -/
def output : Nat → Command → Action Bytes
  | 0, _ => throw .over
  | bound + 1, body => do
    match body with
    | .nothing => return []
    | _ =>
      match ← ask .pipe with
      | .error _ => fail (bytes "Pipe call failed")
      | .ok (reader, writer) =>
        let child ← fork (do
          discard (ask (.close reader))
          move writer 1
          ending bound (run bound { last := true } body))
        discard (ask (.close writer))
        let data ← ofTask (Task.readAll reader)
        discard (ask (.close reader))
        let code ← await [child]
        modify fun shell => { shell with outputStatus := code }
        return trimOutput (data.toOption.getD [])

/-- Runs a command, and gives the exit code that has been reached. -/
def run : Nat → Mode → Command → Action Nat
  | 0, _, _ => throw .over
  | bound + 1, mode, command => do
    let isChecked ← do
      if (← get).has .noexec || command matches .nothing then pure false
      else
        respond bound
        carryOut bound mode command
    let shell ← get
    if isChecked && shell.has .errexit && !mode.tested && shell.status ≠ 0 then throw .over
    respond bound
    if mode.last then throw .over
    return (← get).status

/-- Does what a command says, and sets the exit code. Tells whether a failure ends a script that
looks out for failures. -/
def carryOut : Nat → Mode → Command → Action Bool
  | 0, _, _ => throw .over
  | bound + 1, mode, command => do
    match command with
    | .nothing => return false
    | .simple line assignments words redirects =>
      atLine line
      setStatus (← simple bound mode assignments words redirects)
      return true
    | .pipeline commands background =>
      let started ← startAll bound background mode.tested none commands
      setStatus (← if background then inBackground started else await started)
      return true
    | .invert inner =>
      let code ← run bound { tested := true } inner
      setStatus (if code = 0 then 1 else 0)
      return false
    | .both first second =>
      let code ← run bound { tested := true } first
      if code = 0 && (← get).skip = .none then setStatus (← run bound mode second)
      return false
    | .either first second =>
      let code ← run bound { tested := true } first
      if code ≠ 0 && (← get).skip = .none then setStatus (← run bound mode second)
      return false
    | .sequence first second =>
      discard (run bound { tested := mode.tested } first)
      if (← get).skip = .none then setStatus (← run bound mode second)
      return false
    | .background line body redirects =>
      atLine line
      let plan ← redirects.mapM (Redirected.expand (output bound))
      let child ← fork (do
        detach true
        ending bound (do
          plan.forM (Redirected.apply (output bound) false)
          run bound { last := true } body))
      setStatus (← inBackground [child])
      return true
    | .subshell line body redirects =>
      atLine line
      let plan ← redirects.mapM (Redirected.expand (output bound))
      if mode.last && !(← get).hasTraps then
        modify fun shell => { shell with
          loops := 0, frames := [], lineRead := shell.lineOfFile }
        plan.forM (Redirected.apply (output bound) false)
        discard (run bound mode body)
      else
        let child ← fork (ending bound (do
          plan.forM (Redirected.apply (output bound) false)
          run bound { mode with last := true } body))
        setStatus (← await [child])
      return true
    | .redirected line body redirects =>
      atLine line
      let plan ← redirects.mapM (Redirected.expand (output bound))
      let code ← if ← Redirected.applyAll (output bound) plan then
          run bound { tested := mode.tested } body
        else pure 2
      if !plan.isEmpty then popFrame false
      setStatus code
      return false
    | .choice condition consequence alternative =>
      let code ← run bound { tested := true } condition
      if (← get).skip = .none then
        if code = 0 then setStatus (← run bound mode consequence)
        else if alternative matches .nothing then setStatus 0
        else setStatus (← run bound mode alternative)
      return false
    | .repetition inverted condition body =>
      modify fun shell => { shell with loops := shell.loops + 1 }
      let code ← repetition bound mode.tested inverted condition body 0
      modify fun shell => { shell with loops := shell.loops - 1, status := code }
      return false
    | .each line name words body =>
      atLine line
      let values ← wordsOf bound words
      modify fun shell => { shell with loops := shell.loops + 1 }
      let code ← walk bound mode.tested name body 0 values
      modify fun shell => { shell with loops := shell.loops - 1, status := code }
      return false
    | .select line word branches =>
      atLine line
      let value ← Expansion.text (output bound) {} true word
      setStatus (← select bound mode value branches)
      return false
    | .define name body =>
      modify fun shell => { shell with
        functions := shell.functions.put name { body }
        tracked := shell.tracked.drop name
        status := 0 }
      return false

/-- Takes note of processes in the background. -/
def inBackground : List Nat → Action Nat
  | processes => do
    modify fun shell => { shell.addJob processes with latest := processes.getLast? }
    return 0

/-- Lets a process in the background go its own way; the first one of a job has no input. -/
def detach : Bool → Action Unit
  | isFirst => do
    ask (.dispose 2 .ignored)
    ask (.dispose 3 .ignored)
    modify fun shell => { shell with immune := 2 :: 3 :: shell.immune }
    if isFirst then
      discard (ask (.close 0))
      discard (ask (.openFile (bytes "/dev/null") .reading 0))

/-- Runs the commands for signals that have come. -/
def respond : Nat → Action Unit
  | 0 => throw .over
  | bound + 1 => do
    let shell ← get
    if shell.hasTraps then
      let signals ← ask .collect
      let arrived := ((shell.arrived ++ signals).eraseDups).mergeSort fun a b => decide (a ≤ b)
      modify fun shell => { shell with arrived }
      if !arrived.isEmpty then
        let code := shell.lastStatus.getD shell.status
        modify fun shell => { shell with lastStatus := some code }
        respondTo bound code arrived
        modify fun inner => { inner with lastStatus := shell.lastStatus }

/-- Runs the commands for some signals, and brings the exit code back after each. -/
def respondTo : Nat → Nat → List Nat → Action Unit
  | 0, _, _ => throw .over
  | _ + 1, _, [] => pure ()
  | bound + 1, code, signal :: rest => do
    if (← get).skip = .none then
      modify fun shell => { shell with arrived := shell.arrived.erase signal }
      match (← get).traps.lookup signal with
      | some commands =>
        discard (text bound {} commands)
        if (← get).skip ≠ .back true then setStatus code
      | none => pure ()
      respondTo bound code rest

/-- Runs an action, and then the commands for the end of the script if there are any. -/
def ending : Nat → Action Nat → Action Unit
  | 0, _ => throw .over
  | bound + 1, action => do
    let result ← attempt action
    settleStatus (result matches .error .exit)
    unwindFrames 0
    let shell ← get
    modify fun shell => { shell with lastStatus := some shell.status }
    match shell.traps.lookup 0 with
    | none => pure ()
    | some commands =>
      modify fun shell => { shell with
        traps := shell.traps.filter fun entry => entry.1 ≠ 0 }
      match ← attempt (text bound {} commands) with
      | .ok _ => settleStatus true
      | result => settleStatus (result matches .error .exit)
      unwindFrames 0

/-- Takes the exit code that has been said to be the last one, if the script ends because it wants
to. Nothing is left out any more. -/
def settleStatus : Bool → Action Unit
  | wanted =>
    modify fun shell =>
      let chosen := wanted || shell.skip = .back false
      let status := match shell.lastStatus with
        | some code => if chosen then code else shell.status
        | none => shell.status
      { shell with status, lastStatus := none, skip := .none, loops := 0, tracing := false }

/-- Starts the commands of a pipeline, and gives the numbers of their processes. -/
def startAll : Nat → Bool → Bool → Option Nat → List Command → Action (List Nat)
  | 0, _, _, _, _ => throw .over
  | _ + 1, _, _, _, [] => return []
  | bound + 1, background, tested, input, command :: rest => do
    lookAhead command
    let pipe ← if rest.isEmpty then pure none
      else match ← ask .pipe with
        | .ok ends => pure (some ends)
        | .error _ => fail (bytes "Pipe call failed")
    let child ← fork (do
      if background then detach input.isNone
      match pipe with
      | some (reader, _) => discard (ask (.close reader))
      | none => pure ()
      match input with
      | some input => move input 0
      | none => pure ()
      match pipe with
      | some (_, writer) => move writer 1
      | none => pure ()
      ending bound (run bound { last := true, tested } command))
    match input with
    | some input => discard (ask (.close input))
    | none => pure ()
    match pipe with
    | some (_, writer) => discard (ask (.close writer))
    | none => pure ()
    return child :: (← startAll bound background tested (pipe.map (·.1)) rest)

/-- Runs a body as long as a condition holds, or fails; `code` is the exit code of the last
round. -/
def repetition : Nat → Bool → Bool → Command → Command → Nat → Action Nat
  | 0, _, _, _, _, _ => throw .over
  | bound + 1, tested, inverted, condition, body, code => do
    ask .pause
    let found ← run bound { tested := true } condition
    match ← passLoop with
    | .round => repetition bound tested inverted condition body code
    | .loop | .all false => return code
    | .all true => return found
    | .nothing =>
      if (found = 0) = inverted then return code
      else
        let code ← run bound { tested } body
        match ← passLoop with
        | .nothing | .round => repetition bound tested inverted condition body code
        | _ => return code

/-- Runs a body once for each of some values of a variable; `code` is the exit code of the last
round. -/
def walk : Nat → Bool → Bytes → Command → Nat → List Bytes → Action Nat
  | 0, _, _, _, _, _ => throw .over
  | _ + 1, _, _, _, code, [] => return code
  | bound + 1, tested, name, body, _, value :: rest => do
    ask .pause
    assign name value
    let code ← run bound { tested } body
    match ← passLoop with
    | .nothing | .round => walk bound tested name body code rest
    | _ => return code

/-- Runs the first branch one of whose patterns matches a value. -/
def select : Nat → Mode → Bytes → List (List Word × Command) → Action Nat
  | 0, _, _, _ => throw .over
  | _ + 1, _, _, [] => return 0
  | bound + 1, mode, value, (patterns, body) :: rest => do
    if (← get).skip ≠ .none then return 0
    else if ← matchesAny bound value patterns then
      if body matches .nothing then return 0 else run bound mode body
    else select bound mode value rest

/-- Whether one of some patterns matches a value. -/
def matchesAny : Nat → Bytes → List Word → Action Bool
  | 0, _, _ => throw .over
  | _ + 1, _, [] => return false
  | bound + 1, value, first :: rest => do
    if Pattern.accepts (← Expansion.pattern (output bound) first) value then return true
    else matchesAny bound value rest

/-- What some words of a script become. -/
def wordsOf : Nat → List Word → Action (List Bytes)
  | 0, _ => throw .over
  | _ + 1, [] => return []
  | bound + 1, word :: rest => do
    let first ← Expansion.words (output bound) word
    return first ++ (← wordsOf bound rest)

/-- Expands words until there is a field at a place; tells whether there is one. -/
def reach : Nat → Nat → Call → Action (Bool × Call)
  | 0, _, _ => throw .over
  | bound + 1, place, call => do
    if place < call.fields.length then return (true, call)
    else match call.rest with
      | [] => return (false, call)
      | word :: rest =>
        let more ← Expansion.words (output bound) word
        reach bound place { call with fields := call.fields ++ more, rest }

/-- Goes over the options of the builtin that runs a command to the name of that command. There is
nothing if the builtin has something else to do. -/
def passOptions : Nat → Nat → Call → Action (Option Call × Call)
  | 0, _, _ => throw .over
  | bound + 1, place, call => do
    let (found, call) ← reach bound place call
    if !found then return (none, call)
    else match (call.fields[place]?).getD [] with
      | [45, 45] =>
        let (found, call) ← reach bound (place + 1) call
        return (if found then some { call with start := place + 1 } else none, call)
      | 45 :: letter :: letters =>
        if (letter :: letters).all (· == 112) then
          passOptions bound (place + 1) { call with path := some Lookup.usualPath }
        else return (none, call)
      | _ => return (some { call with start := place }, call)

/-- Finds out what kind of command is called, as far as its name has to be known before its
arguments; `isFirst` says that no other builtin stands in front of it. -/
def classify : Nat → Bool → Call → Action Call
  | 0, _, _ => throw .over
  | bound + 1, isFirst, call => do
    let name := call.words.headD []
    let shell ← get
    match if call.functions then shell.functions.find? name else none with
    | some found => return { call with target := .function found, temporary := true }
    | none =>
      if !Lookup.isBuiltin name then return { call with target := .missing, temporary := true }
      else
        let special : Bool := Lookup.isSpecial name
        let call := { call with
          target := .builtin
          special := if isFirst then special else call.special
          temporary := if isFirst then !special else true }
        if name ≠ bytes "command" then return call
        else match ← passOptions bound (call.start + 1) call with
          | (none, call) => return call
          | (some next, _) => classify bound false { next with functions := false }

/-- Expands the arguments of a call. Those of a builtin that assigns may be assignments. -/
def finishCall : Nat → Bool → Call → Action Call
  | 0, _, _ => throw .over
  | bound + 1, assigning, call => do
    match call.rest with
    | [] => return call
    | word :: rest =>
      let more ← if assigning && word.isAssignment then
          do pure [← Expansion.text (output bound) { assignment := true } false word]
        else Expansion.words (output bound) word
      finishCall bound assigning { call with fields := call.fields ++ more, rest }

/-- Expands assignments and carries them out, and gives their texts. -/
def assignAll : Nat → Bool → Bool → List Word → Action (List Bytes)
  | 0, _, _, _ => throw .over
  | _ + 1, _, _, [] => return []
  | bound + 1, temporary, exported, word :: rest => do
    let text ← Expansion.text (output bound) { assignment := true } false word
    if temporary then makeLocal text true else assignText exported text
    return text :: (← assignAll bound temporary exported rest)

/-- What is shown in front of a command before it runs. -/
def traceStart : Nat → Action Bytes
  | 0 => throw .over
  | bound + 1 => do
    let start := ((← get).value? (bytes "PS4")).getD []
    match Sentence.wholeText (← readerState (.ofText [])) start with
    | none => return start
    | some word =>
      match ← attempt (Expansion.text (output bound) { quoted := true } false word) with
      | .ok text => return text
      | .error _ => return start

/-- Shows a command that is about to run. -/
def trace : Nat → List Bytes → Action Unit
  | 0, _ => throw .over
  | bound + 1, words => do
    let shell ← get
    if shell.has .xtrace && !shell.tracing then
      modify fun shell => { shell with tracing := true }
      let start ← traceStart bound
      modify fun shell => { shell with tracing := false }
      write shell.traceTarget (start ++ Programs.joinWords words ++ [10])

/-- Runs a command made of words, assignments and redirections, and gives its exit code. -/
def simple : Nat → Mode → List Word → List Word → List Redirect → Action Nat
  | 0, _, _, _, _ => throw .over
  | bound + 1, mode, assignments, words, redirects => do
    modify fun shell => { shell with outputStatus := 0, traceTarget := 2 }
    let (found, call) ← reach bound 0 { rest := words }
    let call ← if found then classify bound true call else pure call
    let name := call.words.headD []
    let assigns := call.target matches .builtin && Lookup.assigning.contains (plain name)
    let call ← finishCall bound assigns call
    let isExec : Bool := call.target matches .builtin && name = bytes "exec"
    let before ← get
    if call.temporary then modify fun shell => { shell with locals := [] :: shell.locals }
    let plan ← redirects.mapM (Redirected.expand (output bound))
    let done ← Redirected.applyAll (output bound) plan
    let code ← if done then
        follow bound mode call isExec assignments
      else do
        setStatus 2
        if call.special then throw .fault
        pure 2
    unwindFrames (before.frames.length + if plan.isEmpty then 0 else 1)
    if !plan.isEmpty then popFrame isExec
    unwindLocals before.locals.length
    return code

/-- Runs a call whose redirections have been made, and gives its exit code. -/
def follow : Nat → Mode → Call → Bool → List Word → Action Nat
  | 0, _, _, _, _ => throw .over
  | bound + 1, mode, call, isExec, assignments => do
    let exported := isExec && call.words.length > 1
    let texts ← assignAll bound call.temporary exported assignments
    trace bound (texts ++ call.fields)
    match call.words with
    | [] =>
      let code := (← get).outputStatus
      setStatus code
      return code
    | name :: arguments =>
      let target ← if call.target matches .builtin then pure Target.builtin
        else
          let manner := { functions := call.functions, path := call.path, reported := true }
          Lookup.find manner name
      match target with
      | .missing =>
        setStatus 127
        return 127
      | .builtin =>
        builtin bound mode call.special name arguments
        return (← get).status
      | .function found =>
        callFunction bound mode found arguments
        return (← get).status
      | .program index =>
        let searchPath := call.path.getD (← get).searchPath
        let become := Lookup.run (name :: arguments) searchPath (index.getD 0)
        if mode.last && !(← get).hasTraps then become
        let child ← fork become
        await [child]

/-- Runs the body of a function. -/
def callFunction : Nat → Mode → Function → List Bytes → Action Unit
  | 0, _, _, _ => throw .over
  | bound + 1, mode, found, arguments => do
    let outside ← get
    modify fun shell => { shell with
      operands := { values := arguments }, loops := 0 }
    let result ← attempt (run bound { tested := mode.tested } found.body)
    modify fun shell => { shell with operands := outside.operands, loops := outside.loops }
    endBack
    discard (resume result)

/-- Carries out a builtin. A failure ends the script only if the builtin is `special`. -/
def builtin : Nat → Mode → Bool → Bytes → List Bytes → Action Unit
  | 0, _, _, _, _ => throw .over
  | bound + 1, mode, special, name, arguments => do
    let before := (← get).context
    modify fun shell => { shell with context := some name }
    let result ← attempt (do
      let code ← control bound mode (plain name) arguments
      let done ← flush
      if !done then warn (name ++ bytes ": I/O error")
      setStatus (if done then code else code ||| 1))
    modify fun shell => { shell with context := before, written := [] }
    match result with
    | .error .fault => if special then throw .fault
    | result => resume result

/-- Does what a builtin does, and gives its exit code. -/
def control : Nat → Mode → String → List Bytes → Action Nat
  | 0, _, _, _ => throw .over
  | bound + 1, mode, name, arguments => do
    match name with
    | "break" => leaveLoops .leave arguments
    | "continue" => leaveLoops .again arguments
    | "return" => goBack arguments
    | "exit" => leave arguments
    | "eval" =>
      if arguments.isEmpty then return 0
      else text bound { tested := mode.tested } (Programs.joinWords arguments)
    | "exec" =>
      if arguments.isEmpty then return 0
      else
        Lookup.run arguments (← get).searchPath 0
        return 0
    | "command" =>
      let (options, words) ← Builtin.options "pvV" arguments
      match words, options.any fun entry => entry.1 ≠ 'p' with
      | word :: _, true => Builtin.describe options word
      | _, _ => return 0
    | "." =>
      match ← Builtin.operands arguments with
      | [] => return 0
      | file :: _ =>
        let fileName ← commandFile file
        let descriptor ← openScript fileName
        modify fun shell => { shell with context := some fileName }
        let before := (← get).lineRead
        let code ← lines bound { isFile := true, descriptor := some descriptor } {} .ofFile 0
        modify fun shell => { shell with lineRead := before }
        discard (ask (.close descriptor))
        return code
    | _ =>
      match Builtin.catalog.lookup name with
      | some action => action arguments
      | none => return 0

/-- Runs the commands of a text, and gives the exit code of the last one. -/
def text : Nat → Mode → Bytes → Action Nat
  | 0, _, _ => throw .over
  | bound + 1, mode, script => do
    let before := (← get).lineRead
    let code ← lines bound {} mode (.ofText script) 0
    modify fun shell => { shell with lineRead := before }
    return code

/-- Runs the commands of a source, and gives the exit code of the last one. -/
def lines : Nat → Feed → Mode → Source → Nat → Action Nat
  | 0, _, _, _, _ => throw .over
  | bound + 1, feed, mode, source, code => do
    let (sentence, after) := Sentence.read (← readerState source)
    match sentence with
    | .starved =>
      let block ← match feed.descriptor with
        | some descriptor => do pure ((← ask (.read descriptor 8192)).toOption.getD [])
        | none => pure []
      lines bound feed mode (source.extend block) code
    | .fault line message =>
      discard (echoLines after.source)
      modify fun shell => { shell with line }
      fail (bytes message)
    | .ending =>
      discard (echoLines after.source)
      return code
    | .command body last =>
      let source ← echoLines after.source
      modify fun shell => { shell with
        documents := after.documents ++ shell.documents
        nextDocument := after.nextDocument
        lineRead := source.line
        lineOfFile := if feed.isScript then source.line else shell.lineOfFile }
      let found ← run bound { mode with last := mode.last && last } body
      let code := if body matches .nothing then code else found
      if (← get).skip ≠ .none then
        if feed.isFile then endBack
        return code
      else lines bound feed mode source code

end

end Run

end LineShell.Script
