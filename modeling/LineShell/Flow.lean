import LineShell.Error
import LineShell.System.Handle
import LineShell.System.WaitStatus
import LineShell.Text.Utf8

/-! Flows: what the interpreter does, as one request to the system after another. -/

namespace LineShell

/-- A program to start: a handle that is not given is inherited from the interpreter. -/
structure Command where
  program : String
  arguments : List String
  stdin : Option Handle := none
  stdout : Option Handle := none
  stderr : Option Handle := none
  deriving DecidableEq, Repr, Inhabited

/-- Whether a text that a program is started with holds the character that ends texts inside the
system. -/
def Command.holdsNul (command : Command) : Bool :=
  (command.program :: command.arguments).any fun text => text.toList.contains '\x00'

/-- A request of the interpreter to the system around it. -/
inductive Call
  /-- Finds the program that a command name stands for. -/
  | lookup (name : String)
  | openInput (path : String)
  /-- Creates or empties a file and opens it for writing. -/
  | openOutput (path : String)
  /-- Makes a pipe and gives its reading and its writing end. -/
  | pipe
  /-- Gives up a handle that the interpreter holds. -/
  | close (handle : Handle)
  /-- Starts a program and gives the number of its process. -/
  | spawn (command : Command)
  /-- Lets a task wait for a process and then give up a handle, while the interpreter goes on. -/
  | reap (process : Nat) (keeps : Option Handle)
  /-- Waits until a process has ended. -/
  | wait (process : Nat)
  /-- Waits until the task that waits for a process is done. -/
  | join (process : Nat)
  /-- Reads at most so many bytes from the standard input. -/
  | read (limit : Nat)
  /-- Offers bytes to the standard output. -/
  | write (data : Bytes)
  | flush
  /-- Writes to the standard error stream. -/
  | report (data : Bytes)
  deriving DecidableEq, Repr, Inhabited

/-- Whether a request is made to build a stage, to start it or to hand it on. -/
def Call.isForStage : Call → Bool
  | .lookup _ | .openInput _ | .openOutput _ | .pipe | .spawn _ | .reap .. => true
  | .close _ | .wait _ | .join _ | .read _ | .write _ | .flush | .report _ => false

/-- Whether a request is made for a stage whose command has been found and which has not been
started. -/
def Call.isWithinStage : Call → Bool
  | .openInput _ | .openOutput _ | .pipe | .spawn _ => true
  | .lookup _ | .close _ | .reap .. | .wait _ | .join _ | .read _ | .write _ | .flush | .report _ =>
    false

/-- Whether a request has nothing to do with the files, pipes and processes of a line. -/
def Call.isAside : Call → Bool
  | .join _ | .read _ | .write _ | .flush | .report _ => true
  | .lookup _ | .openInput _ | .openOutput _ | .pipe | .close _ | .spawn _ | .reap .. | .wait _ =>
    false

/-- What the system answers to a request. -/
abbrev Call.Reply : Call → Type
  | .lookup _ => Except LookupError String
  | .openInput _ | .openOutput _ => Except IoError Handle
  | .pipe => Except IoError (Handle × Handle)
  | .spawn _ => Except IoError Nat
  | .wait _ => Except IoError WaitStatus
  | .join _ => Option WaitStatus
  | .read _ => Except IoError Bytes
  | .write _ => Except IoError Nat
  | .flush => Except IoError Unit
  | .close _ | .reap .. | .report _ => Unit

/-- A computation that makes requests and goes on as they are answered. -/
inductive Flow (α : Type) : Type
  | done (result : α)
  | ask (call : Call) (next : call.Reply → Flow α)

/-- Anything that answers requests and changes as it does. -/
abbrev Handler (σ : Type) := (call : Call) → σ → call.Reply × σ

/-- A request together with the answer it got. -/
structure Event where
  call : Call
  reply : call.Reply

namespace Flow

variable {α β γ σ : Type}

/-- One request, for the sake of its answer. -/
def request (call : Call) : Flow call.Reply :=
  .ask call .done

/-- Goes on with the result of a flow. -/
def bind : Flow α → (α → Flow β) → Flow β
  | .done result, next => next result
  | .ask call rest, next => .ask call fun reply => bind (rest reply) next

instance : Monad Flow where
  pure := .done
  bind := bind

@[simp] theorem pure_eq_done (result : α) : (pure result : Flow α) = .done result :=
  rfl

@[simp] theorem done_bind (result : α) (next : α → Flow β) :
    (Flow.done result >>= next) = next result :=
  rfl

@[simp] theorem ask_bind (call : Call) (rest : call.Reply → Flow α) (next : α → Flow β) :
    (Flow.ask call rest >>= next) = .ask call fun reply => rest reply >>= next :=
  rfl

@[simp] theorem request_bind (call : Call) (next : call.Reply → Flow β) :
    (request call >>= next) = .ask call next :=
  rfl

/-- Doing nothing afterwards changes nothing. -/
theorem bind_done (flow : Flow α) : (flow >>= Flow.done) = flow := by
  induction flow with
  | done result => rfl
  | ask call rest ih =>
    rw [ask_bind]
    congr 1
    exact funext ih

/-- The order in which flows are joined does not matter. -/
theorem bind_assoc (flow : Flow α) (next : α → Flow β) (last : β → Flow γ) :
    ((flow >>= next) >>= last) = flow >>= fun result => next result >>= last := by
  induction flow with
  | done result => rfl
  | ask call rest ih =>
    simp only [ask_bind]
    congr 1
    exact funext ih

instance : LawfulMonad Flow :=
  LawfulMonad.mk' Flow bind_done (fun _ _ => rfl) bind_assoc

/-- Gives up handles, one after another. -/
def release : List Handle → Flow Unit
  | [] => .done ()
  | handle :: rest => .ask (.close handle) fun _ => release rest

/-- Carries a flow out. -/
def run (handler : Handler σ) : Flow α → σ → α × σ
  | .done result, state => (result, state)
  | .ask call next, state =>
    let answer := handler call state
    run handler (next answer.1) answer.2

@[simp] theorem run_done (handler : Handler σ) (result : α) (state : σ) :
    run handler (.done result) state = (result, state) :=
  rfl

@[simp] theorem run_ask (handler : Handler σ) (call : Call) (next : call.Reply → Flow α)
    (state : σ) : run handler (.ask call next) state =
      run handler (next (handler call state).1) (handler call state).2 :=
  rfl

/-- Carrying out two flows in a row is carrying out the second from where the first ended. -/
@[simp] theorem run_bind (handler : Handler σ) (flow : Flow α) (next : α → Flow β) (state : σ) :
    run handler (flow >>= next) state =
      run handler (next (run handler flow state).1) (run handler flow state).2 := by
  induction flow generalizing state with
  | done result => rfl
  | ask call rest ih => simp [ih]

/-- The events of carrying a flow out, in order. -/
def events (handler : Handler σ) : Flow α → σ → List Event
  | .done _, _ => []
  | .ask call next, state =>
    let answer := handler call state
    ⟨call, answer.1⟩ :: events handler (next answer.1) answer.2

@[simp] theorem events_done (handler : Handler σ) (result : α) (state : σ) :
    events handler (.done result) state = [] :=
  rfl

@[simp] theorem events_ask (handler : Handler σ) (call : Call) (next : call.Reply → Flow α)
    (state : σ) : events handler (.ask call next) state =
      ⟨call, (handler call state).1⟩ ::
        events handler (next (handler call state).1) (handler call state).2 :=
  rfl

/-- The events of two flows in a row are those of the first and then those of the second. -/
@[simp] theorem events_bind (handler : Handler σ) (flow : Flow α) (next : α → Flow β) (state : σ) :
    events handler (flow >>= next) state = events handler flow state ++
      events handler (next (run handler flow state).1) (run handler flow state).2 := by
  induction flow generalizing state with
  | done result => rfl
  | ask call rest ih => simp [ih]

/-- The handles that a flow gives up before it makes any other request. -/
def closings : Flow α → List Handle
  | .ask (.close handle) next => handle :: closings (next ())
  | _ => []

/-- The first request of a flow that does more than give up a handle. -/
def upcoming? : Flow α → Option Call
  | .ask (.close _) next => upcoming? (next ())
  | .ask call _ => some call
  | .done _ => none

end Flow

namespace Handler

/-- Answers as another handler does and keeps the events, the last one first. -/
def logged {σ : Type} (handler : Handler σ) : Handler (σ × List Event) :=
  fun call state =>
    let answer := handler call state.1
    (answer.1, answer.2, ⟨call, answer.1⟩ :: state.2)

/-- What a handler keeps of a flow are its events, and the flow does not notice. -/
theorem run_logged {α σ : Type} (handler : Handler σ) (flow : Flow α) (state : σ)
    (past : List Event) : flow.run handler.logged (state, past) =
      ((flow.run handler state).1, (flow.run handler state).2,
        (flow.events handler state).reverse ++ past) := by
  -- The log grows by one event for each request, so what is behind it is carried along.
  induction flow generalizing state past with
  | done result => rfl
  | ask call rest ih => simp [logged, ih]

end Handler

namespace Event

/-- The name that was looked up, if the event is a look-up. -/
def name? (event : Event) : Option String :=
  match event.call with
  | .lookup name => some name
  | _ => none

end Event

end LineShell
