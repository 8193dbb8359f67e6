import Scape.Lib.EventLoop
import Scape.Shared.Message
import Mathlib.Algebra.Group.Int.Defs

/-!
# The display thread

The display thread's loop has two sources, its channel and the socket clients
connect to. The callback of the socket accepts one connection, reads from it once,
and drops it. An accepted stream blocks, so the read returns when there is a byte,
or the end of the stream, or an error, and not before; and the callback is a part of
the loop.

Clients connect, write, close and break their connections at any time, and other
threads send messages at any time, also while the thread is in a callback.
-/

namespace Scape.Display

open EventLoop

/-- What the client's end of a connection has come to. -/
inductive ClientEnd where
  | open
  | closed
  | broken
  deriving DecidableEq, Repr

/-- A connection: the bytes nobody has read yet, and its other end. -/
structure Connection where
  unread : List UInt8
  client : ClientEnd
  deriving DecidableEq, Repr

namespace Connection

/-- The buffer of the one read. -/
def bufferSize : Nat := 1024

/-- `stream.read(&mut buffer)`: how many bytes it returns, or that it returns an
error. `none` is a read that blocks. -/
def read (c : Connection) : Option (Except Unit Nat) :=
  if c.unread ≠ [] then some (.ok (min bufferSize c.unread.length))
  else
    match c.client with
    | .open => none
    | .closed => some (.ok 0)
    | .broken => some (.error ())

theorem read_eq_none_iff (c : Connection) :
    c.read = none ↔ c.unread = [] ∧ c.client = .open := by
  unfold read
  split
  next hne => simp [hne]
  next hnil =>
    rw [not_not] at hnil
    cases c.client <;> simp [hnil]

end Connection

/-- What a client does to one of its connections. -/
inductive ClientAction where
  | write (byte : UInt8)
  | close
  | break
  deriving DecidableEq, Repr

def Connection.after (c : Connection) : ClientAction → Connection
  | .write byte => { c with unread := c.unread ++ [byte] }
  | .close => { c with client := .closed }
  | .break => { c with client := .broken }

/-- Whatever a client does ends a read on the connection. -/
theorem Connection.after_read (c : Connection) (a : ClientAction) :
    (c.after a).read ≠ none := by
  rw [ne_eq, read_eq_none_iff]
  rintro ⟨hunread, hclient⟩
  cases a with
  | write byte => exact List.append_ne_nil_of_right_ne_nil _ (List.cons_ne_nil _ _) hunread
  | close | «break» => cases hclient

def i32Max : Int := 2 ^ 31 - 1

/-- `WaylandServer`, of which the counter is all that is read. -/
structure WaylandServer where
  nextClientId : Int
  deriving DecidableEq, Repr

namespace WaylandServer

def new : WaylandServer := ⟨1⟩

/-- `none` is the overflow panic. -/
def newClient (overflowChecks : Bool) (s : WaylandServer) : Option (Int × WaylandServer) :=
  if s.nextClientId < i32Max then some (s.nextClientId, ⟨s.nextClientId + 1⟩)
  else if overflowChecks then none
  else some (s.nextClientId, ⟨-i32Max - 1⟩)

end WaylandServer

/-- What the thread is in the middle of when it dispatches. -/
inductive Callback where
  | none
  /-- the callback of the channel -/
  | channel
  /-- the read on a stream it has accepted -/
  | read (c : Connection)
  deriving DecidableEq, Repr

/-- `server` is there if `start_display` came that far; its error is dropped. The
backlog holds the connections nobody has accepted. -/
structure DisplayState where
  shuttingDown : Bool
  server : Option WaylandServer
  backlog : List Connection
  channel : Channel DisplayMessage
  current : Callback

namespace DisplayState

def handleMessage (s : DisplayState) : DisplayMessage → DisplayState
  | .shutdown => { s with shuttingDown := true }
  | _ => s

def acceptable (s : DisplayState) : Bool := s.server.isSome && !s.backlog.isEmpty

/-- What other threads, clients and the kernel do. -/
inductive Outside where
  | push (message : DisplayMessage)
  | ping
  | connect
  /-- on a connection in the backlog, by its place there -/
  | pending (n : Nat) (a : ClientAction)
  /-- on the connection that is being read -/
  | accepted (a : ClientAction)

def outside (s : DisplayState) : Outside → DisplayState
  | .push message => { s with channel := s.channel.push message }
  | .ping => { s with channel := s.channel.ping }
  | .connect => { s with backlog := s.backlog ++ [⟨[], .open⟩] }
  | .pending n a => { s with backlog := s.backlog.modify n (·.after a) }
  | .accepted a =>
      match s.current with
      | .read c => { s with current := .read (c.after a) }
      | _ => s

inductive Own where
  | accept
  | read
  | drain
  | receive
  | drained
  | limit
  deriving DecidableEq, Repr

/-- The thread's own steps while it dispatches. It calls the sources that are ready
in any order, and is back in the loop when a callback has returned. -/
inductive Inside : DisplayState → Own → Option DisplayState → Prop
  | accept {s : DisplayState} {server : WaylandServer} {c : Connection}
      {rest : List Connection} {overflowChecks : Bool} {clientId : Int}
      {server' : WaylandServer} :
      s.current = .none → s.server = some server → s.backlog = c :: rest →
      server.newClient overflowChecks = some (clientId, server') →
      Inside s .accept
        (some { s with server := some server', backlog := rest, current := .read c })
  | overflow {s : DisplayState} {server : WaylandServer} {c : Connection}
      {rest : List Connection} {overflowChecks : Bool} :
      s.current = .none → s.server = some server → s.backlog = c :: rest →
      server.newClient overflowChecks = none → Inside s .accept none
  /-- The error is logged. The connection may be lost with it. -/
  | acceptFails {s : DisplayState} {c : Connection} {rest backlog : List Connection} :
      s.current = .none → s.server.isSome → s.backlog = c :: rest →
      backlog = rest ∨ backlog = c :: rest →
      Inside s .accept (some { s with backlog := backlog })
  /-- What was read is logged, and the stream is dropped. -/
  | read {s : DisplayState} {c : Connection} {result : Except Unit Nat} :
      s.current = .read c → c.read = some result →
      Inside s .read (some { s with current := .none })
  | drain {s : DisplayState} :
      s.current = .none → s.channel.pinged = true →
      Inside s .drain (some { s with channel := s.channel.drain, current := .channel })
  | receive {s : DisplayState} {message : DisplayMessage} {rest : List DisplayMessage} :
      s.current = .channel → s.channel.queue = message :: rest →
      Inside s .receive
        (some ({ s with channel := { s.channel with queue := rest } }.handleMessage message))
  | drained {s : DisplayState} :
      s.current = .channel → s.channel.queue = [] →
      Inside s .drained (some { s with current := .none })
  /-- The channel gives way after so many messages, and wakes itself for the
  rest. -/
  | limit {s : DisplayState} :
      s.current = .channel →
      Inside s .limit (some { s with channel := s.channel.ping, current := .none })

/-- The thread that runs all this. It queues no actions. -/
def loop : Loop DisplayState Empty (Outside ⊕ Own) where
  init := fun s =>
    s.shuttingDown = false ∧ (s.server = none ∨ s.server = some .new) ∧ s.current = .none
  outside := fun s e t => ∃ action, e = .inl action ∧ t = s.outside action
  ready := fun s => s.acceptable = true ∨ s.channel.pinged = true
  callback := fun s e t => ∃ own, e = .inr own ∧ Inside s own t
  busy := fun s => s.current ≠ .none
  queued := fun _ => []
  take := id
  exec := fun _ _ _ => False
  stops := fun s => s.shuttingDown = true

end DisplayState

end Scape.Display
