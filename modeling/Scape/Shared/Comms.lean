import Scape.Shared.Message

/-!
# `Comms`: sending to a thread that may be gone

A sender outlives nothing: when a thread's event loop is dropped its receiver
goes with it, and a send to it fails. For a module's channel the failure is
answered by asking the main thread to shut down; for the main thread's channel
there is nobody left to ask and the sender panics.

`Peers` records which receivers still exist, and `Comms.send` is the one body
the five methods share.
-/

namespace Scape

/-- A message together with the channel it is sent on. -/
inductive Envelope where
  | main (message : MainMessage)
  | display (message : DisplayMessage)
  | renderer (message : RendererMessage)
  | input (message : InputMessage)
  | config (message : ConfigMessage)

def Envelope.module : Envelope → Option Module
  | .main _ => none
  | .display _ => some .display
  | .renderer _ => some .renderer
  | .input _ => some .input
  | .config _ => some .config

def Module.shutdown : Module → Envelope
  | .config => .config .shutdown
  | .input => .input .shutdown
  | .renderer => .renderer .shutdown
  | .display => .display .shutdown

structure Peers where
  main : Bool
  module : Module → Bool

def Peers.all : Peers := ⟨true, fun _ => true⟩

/-- What a send leaves on the channels; `none` is the panic of
`expect("Lost connection to the main thread")`. -/
def Comms.send (peers : Peers) (e : Envelope) : Option Envelope :=
  match e.module with
  | none => if peers.main then some e else none
  | some m =>
      if peers.module m then some e
      else if peers.main then some (.main .shutdown) else none

/-- A send panics exactly when it needs the main thread and the main thread is
gone: always for a message to it, otherwise only when the module is gone too. -/
theorem Comms.send_eq_none_iff {peers : Peers} {e : Envelope} :
    Comms.send peers e = none ↔
      peers.main = false ∧ ∀ m, e.module = some m → peers.module m = false := by
  unfold Comms.send
  cases e.module with
  | none => simp
  | some m =>
      simp only [Option.some.injEq, forall_eq']
      cases hm : peers.module m <;> cases hmain : peers.main <;> simp

end Scape
