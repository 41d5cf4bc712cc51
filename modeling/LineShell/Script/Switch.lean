import LineShell.Programs.Basic

/-! Switches: what a script can turn on and off for itself. -/

namespace LineShell.Script

/-- A switch. -/
inductive Switch
  /-- Ends the script when a command fails. -/
  | errexit
  /-- Leaves patterns as they are. -/
  | noglob
  | ignoreeof
  | interactive
  | monitor
  /-- Reads commands, but runs none. -/
  | noexec
  /-- The script is the standard input. -/
  | stdin
  /-- Shows each command before it runs. -/
  | xtrace
  /-- Shows each line of the script when it is read. -/
  | verbose
  | vi
  | emacs
  /-- Keeps files from being replaced by redirections. -/
  | noclobber
  /-- Gives all variables to programs. -/
  | allexport
  | notify
  /-- Takes a variable without a value for an error. -/
  | nounset
  | privileged
  | nolog
  | debug
  deriving DecidableEq, Repr, Inhabited

namespace Switch

/-- The switches, with the letters of those that have one, and their names. -/
def all : List (Switch × Option Char × String) :=
  [(.errexit, some 'e', "errexit"), (.noglob, some 'f', "noglob"),
    (.ignoreeof, some 'I', "ignoreeof"), (.interactive, some 'i', "interactive"),
    (.monitor, some 'm', "monitor"), (.noexec, some 'n', "noexec"), (.stdin, some 's', "stdin"),
    (.xtrace, some 'x', "xtrace"), (.verbose, some 'v', "verbose"), (.vi, some 'V', "vi"),
    (.emacs, some 'E', "emacs"), (.noclobber, some 'C', "noclobber"),
    (.allexport, some 'a', "allexport"), (.notify, some 'b', "notify"),
    (.nounset, some 'u', "nounset"), (.privileged, some 'p', "privileged"),
    (.nolog, none, "nolog"), (.debug, none, "debug")]

/-- The switch that has a letter. -/
def ofLetter? (letter : UInt8) : Option Switch :=
  (all.find? fun entry => entry.2.1 = some (Char.ofNat letter.toNat)).map (·.1)

/-- The switch that has a name. -/
def ofName? (name : Bytes) : Option Switch :=
  (all.find? fun entry => bytes entry.2.2 = name).map (·.1)

/-- Turns a switch on or off. -/
def turn (switches : List Switch) (switch : Switch) (on : Bool) : List Switch :=
  let others := switches.filter (· ≠ switch)
  if on then switch :: others else others

/-- Turns a switch on or off by its letter, which turns the other way of editing off. -/
def turnByLetter (switches : List Switch) (switch : Switch) (on : Bool) : List Switch :=
  let turned := turn switches switch on
  match switch, on with
  | .vi, true => turn turned .emacs false
  | .emacs, true => turn turned .vi false
  | _, _ => turned

/-- The letters of the switches that are on, the last one first. -/
def letters (switches : List Switch) : Bytes :=
  all.reverse.filterMap fun (switch, letter, _) =>
    if switches.contains switch then letter.map fun c => UInt8.ofNat c.toNat else none

/-- The commands that would bring every switch to where it is. -/
def commands (switches : List Switch) : Bytes :=
  Programs.joinLines (all.map fun (switch, _, name) =>
    bytes ("set " ++ (if switches.contains switch then "-o " else "+o ") ++ name))

/-- A table of all switches. -/
def overview (switches : List Switch) : Bytes :=
  Programs.joinLines (bytes "Current option settings" :: all.map fun (switch, _, name) =>
    let gap := String.ofList (List.replicate (16 - name.length) ' ')
    bytes (name ++ gap ++ if switches.contains switch then "on" else "off"))

/-- A switch that is turned on is on. -/
theorem mem_turn_on (switches : List Switch) (switch : Switch) :
    switch ∈ turn switches switch true := by
  simp [turn]

/-- A switch that is turned off is off. -/
theorem not_mem_turn_off (switches : List Switch) (switch : Switch) :
    switch ∉ turn switches switch false := by
  simp [turn]

end Switch

end LineShell.Script
