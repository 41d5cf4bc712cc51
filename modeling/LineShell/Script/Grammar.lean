import LineShell.Script.Lexer

/-! Reading commands: which symbols make which commands. -/

namespace LineShell.Script.Reader

/-- Counts the last symbol as not read. -/
def returnSymbol : Reader Unit :=
  modify fun state => { state with returned := true }

/-- Sets what the reader of the next symbol looks out for. -/
def watch (watch : Watch) : Reader Unit :=
  modify fun state => { state with watch }

/-- What is looked out for where a command begins behind another one. -/
def atCommand : Watch :=
  { newlines := true, keywords := true, aliases := true }

/-- Leaves out a comment. -/
def skipComment : Nat → Reader Unit
  | 0 => pure ()
  | bound + 1 => do
    match ← byte with
    | none => unread none
    | some 10 => unread (some 10)
    | _ => skipComment bound

/-- Reads a symbol that begins with a byte; a second byte of another kind makes another one. -/
def readPair (single : Symbol) (second : UInt8) (double : Symbol) : Reader Symbol := do
  let next ← joined
  if next = some second then return double
  else
    unread next
    return single

/-- Reads a symbol behind the blanks and comments in front of it. -/
def readSymbol (inner : Reader Command) (backquote : Bool → Reader Command) :
    Nat → Reader Symbol
  | 0 => return .ending
  | bound + 1 => do
    let next ← joined
    match next with
    | none => return .ending
    | some 32 | some 9 => readSymbol inner backquote bound
    | some 35 =>
      skipComment mostBytes
      readSymbol inner backquote bound
    | some 10 =>
      countLine
      return .newline
    | some 38 => readPair .background 38 .and
    | some 124 => readPair .pipe 124 .or
    | some 59 => readPair .semicolon 59 .endCase
    | some 40 => return .opening
    | some 41 => return .closing
    | _ => readWord inner backquote next

/-- Reads a symbol, if the last one does not count as not read. -/
def rawSymbol (inner : Reader Command) (backquote : Bool → Reader Command) : Reader Symbol := do
  if (← get).returned then
    modify fun state => { state with returned := false }
    return (← get).symbol
  else
    let symbol ← readSymbol inner backquote mostBytes
    modify fun state => { state with symbol }
    return symbol

/-- Reads the texts that have been announced. -/
def readDocuments (inner : Reader Command) (backquote : Bool → Reader Command) :
    Reader Unit := do
  let announced := (← get).announced
  modify fun state => { state with announced := [] }
  announced.forM (readDocument inner backquote)

/-- Reads on behind the ends of lines. -/
def passLines (inner : Reader Command) (backquote : Bool → Reader Command) :
    Nat → Symbol → Reader Symbol
  | 0, symbol => return symbol
  | bound + 1, symbol => do
    if symbol = .newline then
      readDocuments inner backquote
      watch {}
      passLines inner backquote bound (← rawSymbol inner backquote)
    else return symbol

/-- The keyword that a word is, if it is one. -/
def keyword? (word : Word) : Option Keyword :=
  word.text?.bind fun text => keywords.lookup (plain text)

/-- The text that a word stands for, if it stands for one. -/
def aliased? (state : ReaderState) : Option (Bytes × Bytes) := do
  let text ← state.word.text?
  let value ← state.aliases.lookup text
  if state.source.isUsed text then none else some (text, value)

/-- Reads a symbol, with all that is looked out for. Whatever the last symbols have opened is looked
out for too. -/
def symbolWith (inner : Reader Command) (backquote : Bool → Reader Command) :
    Nat → Watch → Reader Symbol
  | 0, _ => return .ending
  | bound + 1, looking => do
    let symbol ← rawSymbol inner backquote
    let symbol ← if looking.newlines then passLines inner backquote mostBytes symbol
      else pure symbol
    let state ← get
    let looking := { looking with
      keywords := looking.keywords || state.watch.keywords
      aliases := looking.aliases || state.watch.aliases }
    watch {}
    if symbol ≠ .word || state.quoted then return symbol
    else match if looking.keywords then keyword? state.word else none with
      | some keyword =>
        modify fun state => { state with symbol := .keyword keyword }
        return .keyword keyword
      | none =>
        match if looking.aliases then aliased? state else none with
        | some (name, text) =>
          if !text.isEmpty then
            modify fun state => { state with
              source := state.source.insert text (some name) }
          symbolWith inner backquote bound looking
        | none => return symbol

/-- What a simple command is made of, in reverse order. -/
structure Parts where
  assignments : List Word := []
  words : List Word := []
  redirects : List Redirect := []
  deriving Inhabited

/-- The simple command that some parts make. -/
def Parts.finish (parts : Parts) (line : Nat) : Command :=
  .simple line parts.assignments.reverse parts.words.reverse parts.redirects.reverse

/-- A command that runs while the script goes on. -/
def inBackground : Command → Command
  | .pipeline commands _ => .pipeline commands true
  | .redirected line body redirects => .background line body redirects
  | body => .background 0 body []

mutual

/-- Reads the next symbol. -/
def symbol : Nat → Reader Symbol
  | 0 => return .ending
  | bound + 1 => do
    symbolWith (enclosed bound) (quotedCommand bound) mostBytes (← get).watch

/-- Reads the texts that have been announced. -/
def documents : Nat → Reader Unit
  | 0 => pure ()
  | bound + 1 => readDocuments (enclosed bound) (quotedCommand bound)

/-- Reads a command between parentheses, behind the first of them. -/
def enclosed : Nat → Reader Command
  | 0 => return .nothing
  | bound + 1 => do
    let announced := (← get).announced
    modify fun state => { state with announced := [] }
    let command ← list bound true true
    if (← symbol bound) ≠ .closing then unexpected (some .closing)
    let source := (← get).source
    -- Texts that have not begun by now are empty.
    modify fun state => { state with source := { Source.ofText [] with line := source.line } }
    documents bound
    modify fun state => { state with source, announced, returned := false }
    return command

/-- Reads a command between backquotes, behind the first of them. -/
def quotedCommand : Nat → Bool → Reader Command
  | 0, _ => return .nothing
  | bound + 1, quoted => do
    let text ← backquoted quoted mostBytes []
    let announced := (← get).announced
    let source := (← get).source
    modify fun state => { state with source := .ofText text, announced := [] }
    let command ← list bound true true
    documents bound
    modify fun state => { state with source, announced, returned := false }
    return command

/-- Reads commands one after the other. Between the lines of a script every line is a list of its
own; elsewhere a list goes on over the ends of lines. `mayBeEmpty` says that there need not be any
command. -/
def list : Nat → Bool → Bool → Reader Command
  | 0, _, _ => return .nothing
  | bound + 1, nested, mayBeEmpty => do
    match ← listFrom bound nested mayBeEmpty none with
    | some command => return command
    | none => return .nothing

/-- Reads commands behind those that have been read. There is nothing if the script has ended. -/
def listFrom : Nat → Bool → Bool → Option Command → Reader (Option Command)
  | 0, _, _, read => return read
  | bound + 1, nested, mayEnd, read => do
    watch { atCommand with newlines := nested }
    let next ← symbol bound
    let finish := do
      documents bound
      returnSymbol
      modify fun state => { state with symbol := .ending }
      if read.isNone && nested then return some .nothing else return read
    if next = .newline then
      documents bound
      return some (read.getD .nothing)
    else if next = .ending then finish
    else
      returnSymbol
      if nested && mayEnd && next.endsList then return some (read.getD .nothing)
      let first ← chain bound
      let after ← symbol bound
      let first := if after = .background then inBackground first else first
      let all := match read with
        | none => first
        | some before => .sequence before first
      match after with
      | .ending =>
        documents bound
        returnSymbol
        return some all
      | .newline =>
        returnSymbol
        listFrom bound nested true (some all)
      | .background | .semicolon => listFrom bound nested true (some all)
      | _ =>
        if !nested then unexpected none
        returnSymbol
        return some all

/-- Reads pipelines of which each but the first depends on how the one before has ended. -/
def chain : Nat → Reader Command
  | 0 => return .nothing
  | bound + 1 => do chainFrom bound (← negated bound)

/-- Reads the rest of a chain. -/
def chainFrom : Nat → Command → Reader Command
  | 0, first => return first
  | bound + 1, first => do
    match ← symbol bound with
    | .and =>
      watch atCommand
      let second ← negated bound
      chainFrom bound (.both first second)
    | .or =>
      watch atCommand
      let second ← negated bound
      chainFrom bound (.either first second)
    | _ =>
      returnSymbol
      return first

/-- Reads a pipeline, perhaps behind an exclamation mark. -/
def negated : Nat → Reader Command
  | 0 => return .nothing
  | bound + 1 => do
    if (← symbol bound) = .keyword .not then
      watch { keywords := true, aliases := true }
      return .invert (← pipeline bound)
    else
      returnSymbol
      pipeline bound

/-- Reads a pipeline. -/
def pipeline : Nat → Reader Command
  | 0 => return .nothing
  | bound + 1 => do
    let first ← command bound
    if (← symbol bound) = .pipe then
      let others ← pipelineFrom bound [first]
      returnSymbol
      return .pipeline others false
    else
      returnSymbol
      return first

/-- Reads the commands of a pipeline behind those that have been read. -/
def pipelineFrom : Nat → List Command → Reader (List Command)
  | 0, read => return read.reverse
  | bound + 1, read => do
    watch atCommand
    let next ← command bound
    if (← symbol bound) = .pipe then pipelineFrom bound (next :: read)
    else return (next :: read).reverse

/-- Reads a command. -/
def command : Nat → Reader Command
  | 0 => return .nothing
  | bound + 1 => do
    let line := (← get).source.line
    match ← symbol bound with
    | .keyword .if =>
      let body ← choice bound
      closed bound line body (.keyword .fi)
    | .keyword .while =>
      let body ← repetition bound false
      closed bound line body (.keyword .done)
    | .keyword .until =>
      let body ← repetition bound true
      closed bound line body (.keyword .done)
    | .keyword .for =>
      let body ← each bound line
      closed bound line body (.keyword .done)
    | .keyword .case =>
      let body ← select bound line
      redirected bound line body
    | .opening =>
      let body ← list bound true false
      closed bound line (.subshell line body []) .closing
    | .keyword .opening =>
      let body ← list bound true false
      closed bound line body (.keyword .closing)
    | .word | .redirect =>
      returnSymbol
      simple bound (← get).source.line true {}
    | _ => unexpected none

/-- Reads the symbol that ends a command, and the redirections behind it. -/
def closed : Nat → Nat → Command → Symbol → Reader Command
  | 0, _, body, _ => return body
  | bound + 1, line, body, last => do
    if (← symbol bound) ≠ last then unexpected (some last)
    redirected bound line body

/-- Reads the redirections behind a command. -/
def redirected : Nat → Nat → Command → Reader Command
  | 0, _, body => return body
  | bound + 1, line, body => do
    watch { keywords := true, aliases := true }
    let redirects ← redirectsFrom bound []
    match redirects, body with
    | [], _ => return body
    | _, .subshell line inner _ => return .subshell line inner redirects
    | _, _ => return .redirected line body redirects

/-- Reads redirections behind those that have been read. -/
def redirectsFrom : Nat → List Redirect → Reader (List Redirect)
  | 0, read => return read.reverse
  | bound + 1, read => do
    if (← symbol bound) = .redirect then
      redirectsFrom bound ((← target bound) :: read)
    else
      returnSymbol
      return read.reverse

/-- Reads the word that belongs to a redirection. -/
def target : Nat → Reader Redirect
  | 0 => return default
  | bound + 1 => do
    let (descriptor, redirection) := (← get).redirection
    match redirection with
    | .inline _ => watch { mark := true }
    | _ => pure ()
    if (← symbol bound) ≠ .word then unexpected none
    let state ← get
    match redirection with
    | .file manner careful => return .file descriptor manner careful state.word
    | .copy => return .copy descriptor state.word
    | .inline stripped =>
      let announcement := {
        number := state.nextDocument
        mark := state.word.unquoted
        stripped
        expanded := !state.quoted }
      set { state with
        announced := state.announced ++ [announcement]
        nextDocument := state.nextDocument + 1 }
      return .inline descriptor announcement.number

/-- Reads a choice behind its first keyword. -/
def choice : Nat → Reader Command
  | 0 => return .nothing
  | bound + 1 => do
    let condition ← list bound true false
    if (← symbol bound) ≠ .keyword .then then unexpected (some (.keyword .then))
    let consequence ← list bound true false
    match ← symbol bound with
    | .keyword .elif => return .choice condition consequence (← choice bound)
    | .keyword .else => return .choice condition consequence (← list bound true false)
    | _ =>
      returnSymbol
      return .choice condition consequence .nothing

/-- Reads a loop behind its first keyword. -/
def repetition : Nat → Bool → Reader Command
  | 0, _ => return .nothing
  | bound + 1, inverted => do
    let condition ← list bound true false
    if (← symbol bound) ≠ .keyword .do then unexpected (some (.keyword .do))
    return .repetition inverted condition (← list bound true false)

/-- Reads a loop over words behind its first keyword. -/
def each : Nat → Nat → Reader Command
  | 0, _ => return .nothing
  | bound + 1, line => do
    let next ← symbol bound
    let state ← get
    let name := (state.word.text?).getD []
    if next ≠ .word || state.quoted || !isName name then fail "Bad for loop variable"
    watch atCommand
    let words ←
      if (← symbol bound) = .keyword .in then do
        let words ← wordsFrom bound []
        if !([Symbol.newline, .semicolon] : List Symbol).contains (← get).symbol then
          unexpected none
        pure words
      else do
        if (← get).symbol ≠ .semicolon then returnSymbol
        pure [[.quote, .parameter [64] .keep false [], .quote]]
    watch atCommand
    if (← symbol bound) ≠ .keyword .do then unexpected (some (.keyword .do))
    return .each line name words (← list bound true false)

/-- Reads words behind those that have been read. -/
def wordsFrom : Nat → List Word → Reader (List Word)
  | 0, read => return read.reverse
  | bound + 1, read => do
    if (← symbol bound) = .word then wordsFrom bound ((← get).word :: read)
    else return read.reverse

/-- Reads a selection behind its first keyword. -/
def select : Nat → Nat → Reader Command
  | 0, _ => return .nothing
  | bound + 1, line => do
    if (← symbol bound) ≠ .word then unexpected (some .word)
    let word := (← get).word
    watch atCommand
    if (← symbol bound) ≠ .keyword .in then unexpected (some (.keyword .in))
    return .select line word (← branchesFrom bound [])

/-- Reads the branches of a selection behind those that have been read. -/
def branchesFrom : Nat → List (List Word × Command) → Reader (List (List Word × Command))
  | 0, read => return read.reverse
  | bound + 1, read => do
    watch { newlines := true, keywords := true }
    let first ← symbol bound
    if first = .keyword .esac then return read.reverse
    if first = .opening then discard (symbol bound)
    let patterns ← patternsFrom bound []
    if (← get).symbol ≠ .closing then unexpected (some .closing)
    let body ← list bound true true
    watch { newlines := true, keywords := true }
    match ← symbol bound with
    | .keyword .esac => return ((patterns, body) :: read).reverse
    | .endCase => branchesFrom bound ((patterns, body) :: read)
    | _ => unexpected (some .endCase)

/-- Reads the patterns of a branch, the first of which is the last word. -/
def patternsFrom : Nat → List Word → Reader (List Word)
  | 0, read => return read.reverse
  | bound + 1, read => do
    let read := (← get).word :: read
    if (← symbol bound) ≠ .pipe then return read.reverse
    discard (symbol bound)
    patternsFrom bound read

/-- Reads the words and redirections of a simple command. As long as only assignments have been
read, `atStart` says so. -/
def simple : Nat → Nat → Bool → Parts → Reader Command
  | 0, line, _, parts => return parts.finish line
  | bound + 1, line, atStart, parts => do
    watch { aliases := atStart }
    match ← symbol bound with
    | .word =>
      let word := (← get).word
      if atStart && word.isAssignment then
        simple bound line true { parts with assignments := word :: parts.assignments }
      else simple bound line false { parts with words := word :: parts.words }
    | .redirect =>
      let redirect ← target bound
      simple bound line atStart { parts with redirects := redirect :: parts.redirects }
    | .opening =>
      match parts with
      | { assignments := [], words := [word], redirects := [] } => define bound word
      | _ =>
        returnSymbol
        return parts.finish line
    | _ =>
      returnSymbol
      return parts.finish line

/-- Reads a function behind its name and an opening parenthesis. -/
def define : Nat → Word → Reader Command
  | 0, _ => return .nothing
  | bound + 1, word => do
    if (← symbol bound) ≠ .closing then unexpected (some .closing)
    let name := (word.text?).getD []
    if !isName name || specialBuiltins.contains (plain name) then fail "Bad function name"
    watch atCommand
    return .define name (← command bound)

end

end LineShell.Script.Reader
