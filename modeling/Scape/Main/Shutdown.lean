import Scape.Shared.Comms
import Scape.Lib.Machine
import Mathlib.Logic.Function.Basic

/-!
# The main thread and the end of the others

The main thread does nothing but wait for a shutdown request, pass it on to the
four module threads, and leave once they are gone. It waits in calloop's loop:
block until a source is ready, run the callbacks of the ready sources, run the
closure of the iteration. Its two sources are its channel and, from the first
request on, a timer that forces the shutdown.

A channel of calloop is a queue and a flag that wakes the receiver. A sender puts
its message in the queue and raises the flag after that, and raises it once more
when it is dropped; the receiver, once woken, lowers the flag and then empties
the queue. Every one of these is a step of its own here, because the order of
them is what decides whether the main thread gets to look again.

A module thread, whatever ends its message loop, sends one more request, raises
the flag, drops its sender, and is finished some time after.
-/

namespace Scape.Main

open Scape

/-- Where the main thread is in its loop. -/
inductive LoopPhase where
  /-- blocked until a source is ready -/
  | waiting
  /-- running the callbacks of the ready sources -/
  | dispatching
  /-- in the callback of the channel -/
  | draining
  /-- in the handler of the first request, with these modules still to notify -/
  | notifying (rest : List Module)
  | checking
  | stopped
  deriving DecidableEq, Repr

/-- Where a module thread is. -/
inductive ThreadPhase where
  /-- in its message loop -/
  | running
  /-- in its message loop, having sent a request without raising the flag yet -/
  | requesting
  /-- out of its message loop: its receiver is gone -/
  | ended
  /-- its last request is sent, the flag not raised yet -/
  | reporting
  /-- the flag is raised, the sender still there -/
  | leaving
  /-- with nothing left to do -/
  | gone
  /-- what `JoinHandle::is_finished` sees -/
  | finished
  deriving DecidableEq, Repr

def ThreadPhase.listens : ThreadPhase → Bool
  | .running | .requesting => true
  | _ => false

def ThreadPhase.isFinished : ThreadPhase → Bool
  | .finished => true
  | _ => false

inductive Timer where
  | off
  | armed
  | due
  deriving DecidableEq, Repr

/-- The main thread, the four module threads, and the main thread's channel. Its
messages are all alike, so the queue is their number. `notified` and
`timersArmed` count what the main thread did and decide nothing. -/
structure App where
  loop : LoopPhase
  shuttingDown : Bool
  forceShuttingDown : Bool
  timer : Timer
  inbox : Nat
  pinged : Bool
  threads : Module → ThreadPhase
  notified : Module → Nat
  timersArmed : Nat

namespace App

def start : App where
  loop := .waiting
  shuttingDown := false
  forceShuttingDown := false
  timer := .off
  inbox := 0
  pinged := false
  threads := fun _ => .running
  notified := fun _ => 0
  timersArmed := 0

def peers (s : App) : Peers where
  main := s.loop != .stopped
  module := fun m => (s.threads m).listens

def setThread (s : App) (m : Module) (phase : ThreadPhase) : App :=
  { s with threads := Function.update s.threads m phase }

/-- A running module sends a message through `Comms`: to the main thread, or to
a module, which is a request to the main thread if that module is gone. If the
main thread is gone as well the sender panics. -/
def send (s : App) (m : Module) (e : Envelope) : App :=
  match Comms.send s.peers e with
  | some (.main .shutdown) => { s.setThread m .requesting with inbox := s.inbox + 1 }
  | some _ => s
  | none => s.setThread m .ended

/-- The send with which a thread ends; it is given up if nobody receives. -/
def report (s : App) (m : Module) : App :=
  if s.loop = .stopped then s.setThread m .leaving
  else { s.setThread m .reporting with inbox := s.inbox + 1 }

/-- The handler of a request takes it from the channel, and the first time
starts to notify the modules. -/
def receive (s : App) : App :=
  if s.shuttingDown then { s with inbox := s.inbox - 1 }
  else
    { s with
      inbox := s.inbox - 1
      shuttingDown := true
      loop := .notifying [.input, .display, .renderer, .config] }

/-- One of the four sends of the handler. A module that is gone makes it a
request of the main thread to itself. -/
def notify (s : App) (m : Module) (rest : List Module) : App :=
  let s' := { s with
    loop := .notifying rest
    notified := Function.update s.notified m (s.notified m + 1) }
  match Comms.send s.peers m.shutdown with
  | some (.main .shutdown) => { s' with inbox := s.inbox + 1, pinged := true }
  | _ => s'

/-- The end of the handler: the timer, or the force flag if the loop refuses
it. -/
def arm (s : App) (inserted : Bool) : App :=
  if inserted then
    { s with loop := .draining, timer := .armed, timersArmed := s.timersArmed + 1 }
  else { s with loop := .draining, forceShuttingDown := true }

/-- The condition in the closure of the main loop. -/
def mayStop (s : App) : Bool :=
  s.shuttingDown &&
    (s.threads .config).isFinished &&
    (s.threads .input).isFinished &&
    (s.threads .display).isFinished &&
    (s.threads .renderer).isFinished ||
  s.forceShuttingDown

theorem mayStop_iff (s : App) :
    s.mayStop = true ↔
      (s.shuttingDown = true ∧ ∀ m, s.threads m = .finished) ∨
        s.forceShuttingDown = true := by
  have hall : (∀ m, s.threads m = .finished) ↔
      s.threads .config = .finished ∧ s.threads .input = .finished ∧
        s.threads .display = .finished ∧ s.threads .renderer = .finished :=
    ⟨fun h => ⟨h _, h _, h _, h _⟩, fun ⟨hc, hi, hd, hr⟩ m => by cases m <;> assumption⟩
  have hfin : ∀ p : ThreadPhase, p.isFinished = true ↔ p = .finished := by
    intro p; cases p <;> simp [ThreadPhase.isFinished]
  rw [hall]
  simp only [mayStop, Bool.or_eq_true, Bool.and_eq_true, hfin]
  tauto

inductive Action where
  | send (m : Module) (e : Envelope)
  | ping (m : Module)
  | exit (m : Module)
  | report (m : Module)
  | drop (m : Module)
  | finish (m : Module)
  | elapse
  | wake
  | drain
  | receive
  | drained
  | limit
  | notify
  | arm (inserted : Bool)
  | fire
  | dispatched
  | check

/-- What any of the five threads may do next, and the clock. -/
inductive Step : App → Action → App → Prop
  | send {s : App} {m : Module} {e : Envelope} :
      s.threads m = .running → Step s (.send m e) (s.send m e)
  | ping {s : App} {m : Module} :
      s.threads m = .requesting →
      Step s (.ping m) { s.setThread m .running with pinged := true }
  /-- The message loop returns, fails or panics. -/
  | exit {s : App} {m : Module} :
      s.threads m = .running → Step s (.exit m) (s.setThread m .ended)
  | report {s : App} {m : Module} :
      s.threads m = .ended → Step s (.report m) (s.report m)
  | pingLast {s : App} {m : Module} :
      s.threads m = .reporting →
      Step s (.ping m) { s.setThread m .leaving with pinged := true }
  /-- A clone of the sender is dropped, in the message loop or on the way out. -/
  | drop {s : App} {m : Module} :
      s.threads m = .running ∨ s.threads m = .ended →
      Step s (.drop m) { s with pinged := true }
  | dropLast {s : App} {m : Module} :
      s.threads m = .leaving →
      Step s (.drop m) { s.setThread m .gone with pinged := true }
  | finish {s : App} {m : Module} :
      s.threads m = .gone → Step s (.finish m) (s.setThread m .finished)
  | elapse {s : App} : s.timer = .armed → Step s .elapse { s with timer := .due }
  | wake {s : App} :
      s.loop = .waiting → s.pinged = true ∨ s.timer = .due →
      Step s .wake { s with loop := .dispatching }
  | drain {s : App} :
      s.loop = .dispatching → s.pinged = true →
      Step s .drain { s with loop := .draining, pinged := false }
  | receive {s : App} :
      s.loop = .draining → 0 < s.inbox → Step s .receive s.receive
  | drained {s : App} :
      s.loop = .draining → s.inbox = 0 → Step s .drained { s with loop := .dispatching }
  /-- The channel gives way to the other sources after so many messages, and
  wakes itself for the rest. -/
  | limit {s : App} :
      s.loop = .draining → Step s .limit { s with loop := .dispatching, pinged := true }
  | notify {s : App} {m : Module} {rest : List Module} :
      s.loop = .notifying (m :: rest) → Step s .notify (s.notify m rest)
  | arm {s : App} {inserted : Bool} :
      s.loop = .notifying [] → Step s (.arm inserted) (s.arm inserted)
  | fire {s : App} :
      s.loop = .dispatching → s.timer = .due →
      Step s .fire { s with timer := .off, forceShuttingDown := true }
  | dispatched {s : App} :
      s.loop = .dispatching → Step s .dispatched { s with loop := .checking }
  | check {s : App} :
      s.loop = .checking →
      Step s .check { s with loop := if s.mayStop then .stopped else .waiting }

def system : Machine.System App Action where
  init := (· = start)
  step := Step

/-- The same steps as a function of the action. -/
def next (s : App) : Action → Option App
  | .send m e => if s.threads m = .running then some (s.send m e) else none
  | .ping m =>
      match s.threads m with
      | .requesting => some { s.setThread m .running with pinged := true }
      | .reporting => some { s.setThread m .leaving with pinged := true }
      | _ => none
  | .exit m => if s.threads m = .running then some (s.setThread m .ended) else none
  | .report m => if s.threads m = .ended then some (s.report m) else none
  | .drop m =>
      match s.threads m with
      | .running | .ended => some { s with pinged := true }
      | .leaving => some { s.setThread m .gone with pinged := true }
      | _ => none
  | .finish m => if s.threads m = .gone then some (s.setThread m .finished) else none
  | .elapse => if s.timer = .armed then some { s with timer := .due } else none
  | .wake =>
      if s.loop = .waiting ∧ (s.pinged = true ∨ s.timer = .due) then
        some { s with loop := .dispatching }
      else none
  | .drain =>
      if s.loop = .dispatching ∧ s.pinged = true then
        some { s with loop := .draining, pinged := false }
      else none
  | .receive => if s.loop = .draining ∧ 0 < s.inbox then some s.receive else none
  | .drained =>
      if s.loop = .draining ∧ s.inbox = 0 then some { s with loop := .dispatching }
      else none
  | .limit =>
      if s.loop = .draining then some { s with loop := .dispatching, pinged := true }
      else none
  | .notify =>
      match s.loop with
      | .notifying (m :: rest) => some (s.notify m rest)
      | _ => none
  | .arm inserted => if s.loop = .notifying [] then some (s.arm inserted) else none
  | .fire =>
      if s.loop = .dispatching ∧ s.timer = .due then
        some { s with timer := .off, forceShuttingDown := true }
      else none
  | .dispatched => if s.loop = .dispatching then some { s with loop := .checking } else none
  | .check =>
      if s.loop = .checking then
        some { s with loop := if s.mayStop then .stopped else .waiting }
      else none

theorem next_step {s t : App} {action : Action} (h : s.next action = some t) :
    Step s action t := by
  cases action with
  | ping m =>
      simp only [next] at h
      split at h
      next hm => cases h; exact .ping hm
      next hm => cases h; exact .pingLast hm
      next => cases h
  | drop m =>
      simp only [next] at h
      split at h
      next hm => cases h; exact .drop (.inl hm)
      next hm => cases h; exact .drop (.inr hm)
      next hm => cases h; exact .dropLast hm
      next => cases h
  | notify =>
      simp only [next] at h
      split at h
      next hloop => cases h; exact .notify hloop
      next => cases h
  | wake | drain | receive | drained | fire =>
      simp only [next, Option.ite_none_right_eq_some, Option.some.injEq] at h
      obtain ⟨⟨hloop, h'⟩, rfl⟩ := h
      constructor <;> assumption
  | send | exit | report | finish | elapse | limit | arm | dispatched | check =>
      simp only [next, Option.ite_none_right_eq_some, Option.some.injEq] at h
      obtain ⟨hguard, rfl⟩ := h
      constructor
      assumption

theorem reachable_follow {actions : List Action} {s : App}
    (h : Machine.follow next start actions = some s) : Machine.Reachable system s :=
  Machine.Reachable.follow (fun _ _ _ => next_step) (.init rfl) h

/-! ## Small facts -/

@[simp] theorem setThread_threads (s : App) (m : Module) (phase : ThreadPhase) :
    (s.setThread m phase).threads = Function.update s.threads m phase := rfl

@[simp] theorem setThread_shuttingDown (s : App) (m : Module) (phase : ThreadPhase) :
    (s.setThread m phase).shuttingDown = s.shuttingDown := rfl

theorem send_cases (s : App) (m : Module) (e : Envelope) :
    s.send m e = { s.setThread m .requesting with inbox := s.inbox + 1 } ∨
    s.send m e = s ∨ (s.send m e = s.setThread m .ended ∧ s.loop = .stopped) := by
  unfold send
  split
  next => exact .inl rfl
  next => exact .inr (.inl rfl)
  next hnone =>
    refine .inr (.inr ⟨rfl, ?_⟩)
    simpa [peers] using (Comms.send_eq_none_iff.mp hnone).1

theorem notify_cases (s : App) (m : Module) (rest : List Module) :
    s.notify m rest = { s with
      loop := .notifying rest
      notified := Function.update s.notified m (s.notified m + 1) } ∨
    s.notify m rest = { s with
      loop := .notifying rest
      notified := Function.update s.notified m (s.notified m + 1)
      inbox := s.inbox + 1
      pinged := true } := by
  unfold notify
  split
  next => exact .inr rfl
  next => exact .inl rfl

end App

end Scape.Main
