import LineShell.Proofs.Flow.Unfolding
import LineShell.Repl

/-! Conversations: what the read loop looks like from outside, event by event, and what a standard
input is to it. -/

namespace LineShell

/-- Whether a request reads from the standard input. -/
def Call.isRead : Call → Bool
  | .read _ => true
  | .lookup _ | .openInput _ | .openOutput _ | .pipe | .close _ | .spawn _ | .reap .. | .wait _
  | .join _ | .write _ | .flush | .report _ => false

/-- The bytes that an event has put on the standard output. -/
def Event.printed : Event → Bytes
  | ⟨.write data, .ok taken⟩ => data.take taken
  | _ => []

/-- The standard input as the states of a handler show it: a content that is read from a place on,
and the place moves on as the content is read, by whomever. -/
structure Handler.Input {σ : Type} (handler : Handler σ) where
  content : Bytes
  place : σ → Nat
  /-- The states of which this holds. -/
  Sound : σ → Prop
  sound {state : σ} (sound : Sound state) (call : Call) : Sound (handler call state).2
  within {state : σ} (sound : Sound state) : place state ≤ content.length
  onward {state : σ} (sound : Sound state) (call : Call) : place state ≤ place (handler call state).2
  /-- A read gives some of what comes next, and nothing only at the end. -/
  read {state : σ} (sound : Sound state) {limit : Nat} (some : 0 < limit) :
    ∃ block, (handler (.read limit) state).1 = .ok block ∧ block <+: content.drop (place state) ∧
      place (handler (.read limit) state).2 = place state + block.length ∧
      (block = [] → place state = content.length)

namespace Handler.Input

variable {σ : Type} {handler : Handler σ} (input : handler.Input)

/-- What has not been read yet. -/
def unread (state : σ) : Bytes :=
  input.content.drop (input.place state)

/-- Whether nobody but the interpreter reads from the standard input. -/
def IsOwn : Prop :=
  ∀ (state : σ) (call : Call), input.Sound state → call.isRead = false →
    input.place (handler call state).2 = input.place state

/-- Whether the standard output takes what is written to it. -/
structure Prints : Prop where
  write {state : σ} (sound : input.Sound state) {data : Bytes} (given : data ≠ []) :
    ∃ taken, (handler (.write data) state).1 = .ok (taken + 1)
  flush {state : σ} (sound : input.Sound state) : (handler .flush state).1 = .ok ()

end Handler.Input

namespace Repl

/-- Some events that put bytes on the standard output, perhaps a few at a time, and do no more. -/
structure Shows (data : Bytes) (events : List Event) : Prop where
  writes : ∀ event ∈ events, ∃ offered, event.call = .write offered
  printed : events.flatMap Event.printed = data

/-- Some events that only read on. -/
def ReadsOn (events : List Event) : Prop :=
  ∀ event ∈ events, event.call = .read blockSize

/-- A line on the standard error stream. -/
def complaint (text : String) : Event :=
  ⟨.report (Utf8.ofString (text ++ "\n")), ()⟩

/-- What is done for one line of a session, and the session after it. Running a line says nothing
on the standard streams itself. -/
inductive Ran (session : Session) (line : Bytes) : List Event → Session → Prop
  | unreadable (invalid : Utf8.toString? line = none) :
      Ran session line [complaint "Reading input: stream did not contain valid UTF-8"] session
  | executed {text : String} {deeds : List Event} {after : Session}
      (valid : Utf8.toString? line = some text)
      (carried : (session.execute text).Unfolds deeds (.done (.ok (), after)))
      (silent : ∀ event ∈ deeds, event.call.isAside = false) :
      Ran session line deeds after
  /-- A line that fails leaves the session as it was. -/
  | failed {text : String} {deeds : List Event} {error : LineError}
      (valid : Utf8.toString? line = some text)
      (carried : (session.execute text).Unfolds deeds (.done (.error error, session)))
      (silent : ∀ event ∈ deeds, event.call.isAside = false) :
      Ran session line (deeds ++ [complaint error.message]) session

/-- A session of lines at the prompt: each is prompted for, read and run, and behind the last one
there is one more prompt. -/
inductive Rounds (prompt : Prompt) : Session → List Bytes → List Event → Prop
  | over {session : Session} {shown reads : List Event}
      (prompted : Shows (Utf8.ofString prompt.render) shown) (read : ReadsOn reads) :
      Rounds prompt session [] (shown ++ ⟨.flush, .ok ()⟩ :: reads)
  | line {session after : Session} {line : Bytes} {rest : List Bytes}
      {shown reads deeds events : List Event}
      (prompted : Shows (Utf8.ofString prompt.render) shown) (read : ReadsOn reads)
      (ran : Ran session line deeds after) (others : Rounds prompt after rest events) :
      Rounds prompt session (line :: rest)
        (shown ++ ⟨.flush, .ok ()⟩ :: reads ++ deeds ++ events)

end Repl

end LineShell
