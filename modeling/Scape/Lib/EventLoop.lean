import Scape.Lib.Machine

/-!
# A thread that runs an event loop

The loop blocks until one of its sources is ready, runs callbacks of the ready
sources, runs the actions that were queued to be run when there is nothing else to
do, runs a closure that may end the loop, and blocks again. Other threads act on
the sources at any time. A callback can itself block, and a callback or an action
can end the thread by panicking.

The queue of actions is taken as a whole, once per round and after the sources, so
an action that is queued before the first round waits for a first event. If nothing
but the thread queues actions and no action queues another, then this is the only
way for the loop to block on a non-empty queue (`Loop.stranded_iff`).

`Channel` is the kind of source the threads talk through: a queue, and a flag that
wakes the receiver.
-/

namespace EventLoop

variable {σ α ε μ : Type*}

/-! ## Channels -/

structure Channel (μ : Type*) where
  queue : List μ
  pinged : Bool

namespace Channel

def empty : Channel μ := ⟨[], false⟩

/-- A send, in two steps. -/
def push (c : Channel μ) (m : μ) : Channel μ := { c with queue := c.queue ++ [m] }

def ping (c : Channel μ) : Channel μ := { c with pinged := true }

/-- The receiver lowers the flag before it looks into the queue. -/
def drain (c : Channel μ) : Channel μ := { c with pinged := false }

end Channel

/-! ## The loop -/

inductive Phase (α : Type*) where
  | waiting
  | dispatching
  /-- with these of the actions it has taken still to run -/
  | idling (batch : List α)
  | closing
  | ended
  deriving DecidableEq

/-- What a thread brings to the loop. `none` after a callback or an action is a
panic. -/
structure Loop (σ α ε : Type*) where
  init : σ → Prop
  outside : σ → ε → σ → Prop
  ready : σ → Prop
  callback : σ → ε → Option σ → Prop
  /-- in the middle of a callback -/
  busy : σ → Prop
  queued : σ → List α
  take : σ → σ
  exec : σ → α → Option σ → Prop
  stops : σ → Prop

inductive Action (ε : Type*) where
  | outside (e : ε)
  | wake
  | callback (e : ε)
  | dispatched
  | exec
  | idled
  | close

namespace Loop

inductive Step (L : Loop σ α ε) : Phase α × σ → Action ε → Phase α × σ → Prop
  | outside {p : Phase α} {s t : σ} {e : ε} :
      L.outside s e t → Step L (p, s) (.outside e) (p, t)
  | wake {s : σ} : L.ready s → Step L (.waiting, s) .wake (.dispatching, s)
  | callback {s t : σ} {e : ε} :
      L.callback s e (some t) → Step L (.dispatching, s) (.callback e) (.dispatching, t)
  | callbackPanics {s : σ} {e : ε} :
      L.callback s e none → Step L (.dispatching, s) (.callback e) (.ended, s)
  | dispatched {s : σ} :
      ¬ L.busy s → Step L (.dispatching, s) .dispatched (.idling (L.queued s), L.take s)
  | exec {s t : σ} {a : α} {batch : List α} :
      L.exec s a (some t) → Step L (.idling (a :: batch), s) .exec (.idling batch, t)
  | execPanics {s : σ} {a : α} {batch : List α} :
      L.exec s a none → Step L (.idling (a :: batch), s) .exec (.ended, s)
  | idled {s : σ} : Step L (.idling [], s) .idled (.closing, s)
  | stop {s : σ} : L.stops s → Step L (.closing, s) .close (.ended, s)
  | again {s : σ} : ¬ L.stops s → Step L (.closing, s) .close (.waiting, s)

def system (L : Loop σ α ε) : Machine.System (Phase α × σ) (Action ε) where
  init := fun x => x.1 = .waiting ∧ L.init x.2
  step := Step L

/-- Blocked until somebody else acts. -/
def Blocked (L : Loop σ α ε) (x : Phase α × σ) : Prop :=
  x.1 = .waiting ∧ ¬ L.ready x.2

/-- Blocked with actions queued. -/
def Stranded (L : Loop σ α ε) (x : Phase α × σ) : Prop :=
  L.Blocked x ∧ L.queued x.2 ≠ []

/-- Only callbacks queue actions, and what is ready stays ready until the thread
looks at it. -/
structure Tidy (L : Loop σ α ε) : Prop where
  outside_queued : ∀ s e t, L.outside s e t → L.queued t = L.queued s
  outside_ready : ∀ s e t, L.outside s e t → L.ready s → L.ready t
  take_queued : ∀ s, L.queued (L.take s) = []
  exec_queued : ∀ s a t, L.queued s = [] → L.exec s a (some t) → L.queued t = []

variable {L : Loop σ α ε}

/-- What is queued when the loop does not dispatch: nothing, unless it has not been
woken yet. -/
def Flushed (L : Loop σ α ε) : Phase α × σ → Prop
  | (.waiting, s) =>
      L.queued s = [] ∨
        ∃ s₀, L.init s₀ ∧ L.queued s = L.queued s₀ ∧ (L.ready s₀ → L.ready s)
  | (.idling _, s) => L.queued s = []
  | (.closing, s) => L.queued s = []
  | _ => True

theorem Step.flushed (h : L.Tidy) {x y : Phase α × σ} {a : Action ε} (hx : L.Flushed x)
    (hstep : Step L x a y) : L.Flushed y := by
  cases hstep with
  | @outside p s t e hout =>
      have hq := h.outside_queued _ _ _ hout
      cases p with
      | waiting =>
          refine hx.imp (fun hnil => hq.trans hnil) ?_
          rintro ⟨s₀, hinit, hq₀, hready⟩
          exact ⟨s₀, hinit, hq.trans hq₀, fun hr => h.outside_ready _ _ _ hout (hready hr)⟩
      | idling | closing => exact hq.trans hx
      | dispatching | ended => trivial
  | wake | callback | callbackPanics | execPanics | stop => trivial
  | dispatched => exact h.take_queued _
  | exec hexec => exact h.exec_queued _ _ _ hx hexec
  | idled => exact hx
  | again => exact .inl hx

theorem reachable_flushed (h : L.Tidy) {x : Phase α × σ}
    (hx : Machine.Reachable L.system x) : L.Flushed x := by
  refine Machine.ReachableUnder.invariant (I := L.Flushed) ?_ ?_ hx
  · rintro ⟨p, s⟩ ⟨rfl, hinit⟩
    exact .inr ⟨s, hinit, rfl, id⟩
  · exact fun x a y hx _ hstep => hstep.flushed h hx

/-- The loop can block on a non-empty queue if and only if it can start with one
while nothing is ready. -/
theorem stranded_iff (h : L.Tidy) :
    (∃ x, Machine.Reachable L.system x ∧ L.Stranded x) ↔
      ∃ s, L.init s ∧ ¬ L.ready s ∧ L.queued s ≠ [] := by
  constructor
  · rintro ⟨⟨p, s⟩, hx, ⟨rfl, hready⟩, hqueued⟩
    rcases reachable_flushed h hx with hnil | ⟨s₀, hinit, hq, hr⟩
    · exact absurd hnil hqueued
    · refine ⟨s₀, hinit, fun hr₀ => hready (hr hr₀), ?_⟩
      rw [← hq]
      exact hqueued
  · rintro ⟨s, hinit, hready, hqueued⟩
    exact ⟨(.waiting, s), .init ⟨rfl, hinit⟩, ⟨rfl, hready⟩, hqueued⟩

end Loop

end EventLoop
