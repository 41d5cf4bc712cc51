import LineShell.Flow

/-! Stages: single programs of a line, with the files and pipes they are to use already open. -/

namespace LineShell

/-- Where a stage reads from. -/
inductive Source
  | inherit
  | file (path : String) (handle : Handle)
  | pipe (handle : Handle)
  deriving DecidableEq, Repr, Inhabited

/-- Where a stage writes to. -/
inductive Sink
  | inherit
  | file (path : String) (handle : Handle)
  | pipe (handle : Handle)
  deriving DecidableEq, Repr, Inhabited

/-- The handle behind a source, unless it is inherited. -/
def Source.handle? : Source → Option Handle
  | .inherit => none
  | .file _ handle | .pipe handle => some handle

/-- The handle behind a sink, unless it is inherited. -/
def Sink.handle? : Sink → Option Handle
  | .inherit => none
  | .file _ handle | .pipe handle => some handle

/-- The writing end of a pipe, if that is what the sink is. -/
def Sink.pipe? : Sink → Option Handle
  | .pipe handle => some handle
  | _ => none

/-- One program of a line. -/
structure Stage where
  /-- The path that the command name was resolved to. -/
  program : String
  /-- The command name as it was typed, and the words after it. -/
  arguments : List String
  stdin : Source := .inherit
  stdout : Sink := .inherit
  stderr : Sink := .inherit
  /-- The last stage of a line; its exit code is the line's. -/
  terminal : Bool := false
  deriving DecidableEq, Repr, Inhabited

namespace Stage

/-- The command name as it was typed. -/
def name (stage : Stage) : String :=
  stage.arguments.headD ""

/-- The handles that a stage owns. -/
def handles (stage : Stage) : List Handle :=
  stage.stdin.handle?.toList ++ stage.stdout.handle?.toList ++ stage.stderr.handle?.toList

/-- A stage with one more argument. -/
def withArgument (stage : Stage) (word : String) : Stage :=
  { stage with arguments := stage.arguments ++ [word] }

end Stage

end LineShell
