import Scape.Config.State
import Scape.Lib.EventLoop

/-!
# The config thread's loop

The loop of the config thread has its channel for a source and, when the
configuration comes from the XDG directories, the channel of the file watcher. What
Lua code queues are the idle actions of this loop. The state is created before the
loop runs, and the configuration is executed while it is created.

Messages may be on the channel before that, and arrive at any time after.
-/

namespace Scape.Config

open Scape EventLoop

inductive ConfigSource where
  | channel
  | watcher
  deriving DecidableEq, Repr

/-- For a changed file the watcher's channel holds what reading it will give.
`current` is the source whose callback is running. -/
structure ConfigThread (M : Mlua) where
  state : ConfigState M
  channel : Channel ConfigMessage
  watcher : Channel (Option (List UInt8))
  current : Option ConfigSource

namespace ConfigThread

variable {M : Mlua}

/-- What the senders do. -/
inductive Outside where
  | push (message : ConfigMessage)
  | ping
  | pushChange (read : Option (List UInt8))
  | pingWatcher

def outside (s : ConfigThread M) : Outside → ConfigThread M
  | .push message => { s with channel := s.channel.push message }
  | .ping => { s with channel := s.channel.ping }
  | .pushChange read => { s with watcher := s.watcher.push read }
  | .pingWatcher => { s with watcher := s.watcher.ping }

def Ready (s : ConfigThread M) : Prop :=
  s.channel.pinged = true ∨ (s.state.watching = true ∧ s.watcher.pinged = true)

inductive Own where
  | drain (source : ConfigSource)
  | message
  | change
  | returns
  deriving DecidableEq, Repr

/-- The state a callback leaves behind, if it does not panic. Errors are logged. -/
def leaves {α : Type} (s : ConfigThread M) (state : α → ConfigState M) :
    Except Panic α → Option (ConfigThread M)
  | .ok a => some { s with state := state a }
  | .error _ => none

/-- The thread's own steps while it dispatches. A callback returns when its channel
is empty, and may return earlier, having raised the flag again. -/
inductive Inside (I : Interpreter M) :
    ConfigThread M → Own → Option (ConfigThread M) → Prop
  | drain {s : ConfigThread M} :
      s.current = none → s.channel.pinged = true →
      Inside I s (.drain .channel)
        (some { s with channel := s.channel.drain, current := some .channel })
  | drainWatcher {s : ConfigThread M} :
      s.current = none → s.state.watching = true → s.watcher.pinged = true →
      Inside I s (.drain .watcher)
        (some { s with watcher := s.watcher.drain, current := some .watcher })
  | message {s : ConfigThread M} {message : ConfigMessage} {rest : List ConfigMessage} :
      s.current = some .channel → s.channel.queue = message :: rest →
      Inside I s .message
        ({ s with channel := { s.channel with queue := rest } }.leaves Prod.fst
          (s.state.handleMessage I message))
  | change {s : ConfigThread M} {read : Option (List UInt8)}
      {rest : List (Option (List UInt8))} :
      s.current = some .watcher → s.watcher.queue = read :: rest →
      Inside I s .change
        ({ s with watcher := { s.watcher with queue := rest } }.leaves id
          (s.state.configChanged I read))
  | drained {s : ConfigThread M} :
      (s.current = some .channel ∧ s.channel.queue = []) ∨
        (s.current = some .watcher ∧ s.watcher.queue = []) →
      Inside I s .returns (some { s with current := none })
  | limit {s : ConfigThread M} :
      s.current = some .channel →
      Inside I s .returns (some { s with channel := s.channel.ping, current := none })
  | limitWatcher {s : ConfigThread M} :
      s.current = some .watcher →
      Inside I s .returns (some { s with watcher := s.watcher.ping, current := none })

/-- The thread from the moment its state exists. -/
def loop (I : Interpreter M) (overflowChecks : Bool) (peers : Peers)
    (env : ConfigState.Surroundings) : Loop (ConfigThread M) (Idle M) (Outside ⊕ Own) where
  init := fun s =>
    s.current = none ∧
    ∃ sent, ConfigState.new I overflowChecks peers env = .ok (s.state, sent)
  outside := fun s e t => ∃ action, e = .inl action ∧ t = s.outside action
  ready := Ready
  callback := fun s e t => ∃ own, e = .inr own ∧ Inside I s own t
  busy := fun s => s.current ≠ none
  queued := fun s => s.state.idles
  take := fun s => { s with state := { s.state with idles := [] } }
  exec := fun s idle t =>
    ∃ peers, t = s.leaves Prod.fst (idle.exec overflowChecks peers s.state)
  stops := fun s => s.state.shuttingDown = true

end ConfigThread

end Scape.Config
