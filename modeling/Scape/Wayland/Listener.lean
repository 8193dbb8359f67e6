import Scape.Wayland.Client
import Mathlib.Algebra.Group.Nat.Defs

/-!
# The listening socket, and the loop over the sources

`Wayland` is the event source of the listening socket: once it is readable it
accepts every pending connection, and wraps each in a `ClientConnection`. It and
the connections are sources of one event loop. A dispatch of that loop calls the
sources that are ready one after the other and returns the first error it gets
from one of them, which also ends the loop.

As in the client's model the kernel's answers are an input, a list for each call.
-/

namespace Scape.Wayland

def u32Max : Nat := 2 ^ 32 - 1

/-- `a + b` on `u32`; `none` is the overflow panic. -/
def u32Add (overflowChecks : Bool) (a b : Nat) : Option Nat :=
  if a + b ≤ u32Max then some (a + b)
  else if overflowChecks then none
  else some ((a + b) % (u32Max + 1))

theorem u32Add_le {overflowChecks : Bool} {a b n : Nat}
    (h : u32Add overflowChecks a b = some n) : n ≤ u32Max := by
  unfold u32Add at h
  split at h
  next hle =>
    cases h
    exact hle
  next =>
    split at h
    · cases h
    · cases h
      exact Nat.le_of_lt_succ (Nat.mod_lt _ (Nat.succ_pos _))

inductive WaylandEvent where
  | clientConnected (clientId : ClientId)
  deriving DecidableEq, Repr

/-- `ClientConnection::new`, which fails as `set_nonblocking` on the stream does. -/
def ClientConnection.new (nonblocking : Except ErrorKind Unit) (clientId : ClientId) :
    Except ErrorKind ClientId :=
  nonblocking.map fun _ => clientId

/-- What `listener.accept` returns, and for a stream what `set_nonblocking` on it
returns. -/
abbrev AcceptResult := Except ErrorKind (Except ErrorKind Unit)

section

set_option linter.dupNamespace false

/-- `listening` is whether `bind` has set the listener. -/
structure Wayland where
  listening : Bool
  nextClientId : ClientId
  inRange : nextClientId ≤ u32Max
  deriving DecidableEq, Repr

/-- How a call of a source comes back to the loop. -/
inductive Returned where
  | ok (action : PostAction)
  | error (e : ErrorKind)
  /-- the checked addition of `next_client_id` -/
  | overflow
  deriving DecidableEq, Repr

/-- A call of the listening source: the state it leaves, the events it hands to the
callback, and how it comes back, if it does. -/
structure AcceptCall where
  state : Wayland
  events : List WaylandEvent
  returned : Option Returned
  deriving DecidableEq, Repr

def AcceptCall.emit (event : WaylandEvent) (call : AcceptCall) : AcceptCall :=
  { call with events := event :: call.events }

namespace Wayland

variable (overflowChecks : Bool)

/-- The loop of `handle_new_clients`. The number is taken and the counter moved on
before the connection is created. -/
def handleNewClients (s : Wayland) : List AcceptResult → AcceptCall
  | [] => ⟨s, [], none⟩
  | .ok nonblocking :: rest =>
      let clientId := s.nextClientId
      match h : u32Add overflowChecks s.nextClientId 1 with
      | none => ⟨s, [], some .overflow⟩
      | some next =>
          let s : Wayland := ⟨s.listening, next, u32Add_le h⟩
          match ClientConnection.new nonblocking clientId with
          | .ok client => (s.handleNewClients rest).emit (.clientConnected client)
          | .error e => ⟨s, [], some (.error e)⟩
  | .error .wouldBlock :: _ => ⟨s, [], some (.ok .continue)⟩
  | .error e :: _ => ⟨s, [], some (.error e)⟩

def processEvents (s : Wayland) (readable : Bool) (results : List AcceptResult) :
    AcceptCall :=
  if readable ∧ s.listening then s.handleNewClients overflowChecks results
  else ⟨s, [], some (.ok .continue)⟩

end Wayland

end

/-! ## Dispatch -/

/-- A call the loop is about to make: of a client's source or of the listening
one, with the readiness it has found and the answers the call will get. -/
inductive SourceCall where
  | client (clientId : ClientId) (readable : Bool) (results : List ReadResult)
  | listener (readable : Bool) (results : List AcceptResult)

def returnedOf : Except ErrorKind PostAction → Returned
  | .ok action => .ok action
  | .error e => .error e

/-- What a call leaves: the listening source, and how the call comes back. -/
def SourceCall.run (overflowChecks : Bool) (s : Wayland) :
    SourceCall → Wayland × Option Returned
  | .client clientId readable results =>
      (s, (processEvents clientId readable results).result.map returnedOf)
  | .listener readable results =>
      let call := s.processEvents overflowChecks readable results
      (call.state, call.returned)

/-- The calls of the loop, over as many dispatches as they last: how many of them
came back fine, and what ended the loop if anything did. -/
def dispatch (overflowChecks : Bool) (s : Wayland) : List SourceCall → Nat × Option Returned
  | [] => (0, none)
  | call :: calls =>
      match call.run overflowChecks s with
      | (s, some (.ok _)) =>
          let (served, failure) := dispatch overflowChecks s calls
          (served + 1, failure)
      | (_, some failure) => (0, some failure)
      | (_, none) => (0, none)

end Scape.Wayland
