import Scape.Display.Loop

/-!
# A client that connects and says nothing

The display thread reads from a stream as soon as it has accepted it. Whatever the
client does then lets the read return; as long as it does nothing, so does the
thread, and no message reaches it, not even the one that asks it to shut down.

The siblings of this code, `Wayland` and `ClientConnection`, set their sockets to
non-blocking. Here only the moment counts: a connection that has something to read,
or is over, when it is accepted does no harm.
-/

namespace Scape.Display

open EventLoop Machine

namespace DisplayState

variable {s t : DisplayState} {x y : Phase Empty × DisplayState}

/-- Inside a read on a stream that has no byte and is not over. -/
def Stalled (x : Phase Empty × DisplayState) : Prop :=
  x.1 = .dispatching ∧
  ∃ c, x.2.current = .read c ∧ c.unread = [] ∧ c.client = .open

/-- Only somebody else can act. -/
def Stuck (x : Phase Empty × DisplayState) : Prop :=
  ∀ a y, Loop.Step loop x a y → ∃ e, a = .outside e

/-- A connection is accepted only when there is something to read, or nothing to
come. -/
def Readable (x : Phase Empty × DisplayState) (a : EventLoop.Action (Outside ⊕ Own)) :
    Prop :=
  a = .callback (.inr .accept) → ∀ c, x.2.backlog.head? = some c → c.read ≠ none

/-- What the thread is reading can be read. -/
def Reads (x : Phase Empty × DisplayState) : Prop :=
  ∀ c, x.2.current = .read c → c.read ≠ none

theorem handleMessage_current (s : DisplayState) (message : DisplayMessage) :
    (s.handleMessage message).current = s.current := by
  cases message <;> rfl

theorem outside_reads {e : Outside} (h : ∀ c, s.current = .read c → c.read ≠ none) :
    ∀ c, (s.outside e).current = .read c → c.read ≠ none := by
  cases e with
  | accepted a =>
      intro c hc
      simp only [outside] at hc
      split at hc
      next c' _ =>
        cases hc
        exact c'.after_read a
      next => exact h c hc
  | push | ping | connect | pending => exact h

theorem Inside.reads {own : Own} (hstep : Inside s own (some t))
    (hreadable : own = .accept → ∀ c, s.backlog.head? = some c → c.read ≠ none) :
    ∀ c, t.current = .read c → c.read ≠ none := by
  intro c hc
  cases hstep with
  | accept _ _ hbacklog =>
      cases hc
      exact hreadable rfl c (by rw [hbacklog]; rfl)
  | acceptFails hcurrent =>
      rw [show s.current = .read c from hc] at hcurrent
      cases hcurrent
  | receive hcurrent =>
      rw [handleMessage_current] at hc
      rw [show s.current = .read c from hc] at hcurrent
      cases hcurrent
  | read | drain | drained | limit => cases hc

theorem Step.reads {a : EventLoop.Action (Outside ⊕ Own)} (hx : Reads x)
    (hreadable : Readable x a) (hstep : Loop.Step loop x a y) : Reads y := by
  cases hstep with
  | outside hout =>
      obtain ⟨action, -, rfl⟩ := hout
      exact outside_reads hx
  | callback hcall =>
      obtain ⟨own, rfl, hinside⟩ := hcall
      refine hinside.reads fun how => ?_
      subst how
      exact hreadable rfl
  | exec hexec => exact hexec.elim
  | wake | callbackPanics | dispatched | execPanics | idled | stop | again => exact hx

theorem reachable_reads (h : ReachableUnder loop.system Readable x) : Reads x := by
  refine h.invariant (I := Reads) ?_ fun _ _ _ hx hok hstep => Step.reads hx hok hstep
  rintro ⟨p, s⟩ ⟨-, -, -, hcurrent⟩ c hc
  rw [hcurrent] at hc
  cases hc

theorem Reads.not_stalled (h : Reads x) : ¬ Stalled x := by
  rintro ⟨-, c, hcurrent, hunread, hclient⟩
  exact h c hcurrent ((c.read_eq_none_iff).mpr ⟨hunread, hclient⟩)

/-! ## What stalls the loop -/

theorem Stalled.stuck (h : Stalled x) : Stuck x := by
  obtain ⟨p, s⟩ := x
  obtain ⟨rfl, c, hcurrent, hunread, hclient⟩ := h
  replace hcurrent : s.current = .read c := hcurrent
  have hread : c.read = none := (c.read_eq_none_iff).mpr ⟨hunread, hclient⟩
  have hinside : ∀ own t, ¬ Inside s own t := by
    rintro own t (⟨hc⟩ | ⟨hc⟩ | ⟨hc⟩ | ⟨hc, hresult⟩ | ⟨hc⟩ | ⟨hc⟩ | ⟨hc⟩ | ⟨hc⟩)
    case read =>
      rw [hcurrent] at hc
      cases hc
      rw [hread] at hresult
      cases hresult
    all_goals
      rw [hcurrent] at hc
      cases hc
  intro a y hstep
  cases hstep with
  | outside => exact ⟨_, rfl⟩
  | callback hcall | callbackPanics hcall =>
      obtain ⟨own, -, hin⟩ := hcall
      exact absurd hin (hinside _ _)
  | dispatched hbusy =>
      refine absurd ?_ hbusy
      show s.current ≠ .none
      rw [hcurrent]
      exact fun h => by cases h

/-- A thread that has been woken has a step to take, or has ended, or is inside a
read that blocks. -/
theorem moves (hx : Reads x) (hended : x.1 ≠ .ended) (hpinged : x.2.channel.pinged = true) :
    ¬ Stuck x := by
  obtain ⟨p, s⟩ := x
  intro hstuck
  have own : ∀ {a : EventLoop.Action (Outside ⊕ Own)} {y : Phase Empty × DisplayState},
      Loop.Step loop (p, s) a y → (∀ e, a ≠ .outside e) → False := by
    intro a y hstep hne
    obtain ⟨e, he⟩ := hstuck a y hstep
    exact hne e he
  cases p with
  | waiting => exact own (.wake (.inr hpinged)) nofun
  | idling batch =>
      cases batch with
      | nil => exact own .idled nofun
      | cons a _ => exact a.elim
  | closing =>
      by_cases hstops : s.shuttingDown = true
      · exact own (.stop hstops) nofun
      · exact own (.again hstops) nofun
  | ended => exact hended rfl
  | dispatching =>
      cases hcurrent : s.current with
      | none => exact own (.dispatched (not_not_intro hcurrent)) nofun
      | channel => exact own (.callback ⟨.limit, rfl, .limit hcurrent⟩) nofun
      | read c =>
          obtain ⟨result, hresult⟩ := Option.ne_none_iff_exists'.mp (hx c hcurrent)
          exact own (.callback ⟨.read, rfl, .read hcurrent hresult⟩) nofun

theorem accept_stalled {c : Connection}
    (hstep : Loop.Step loop x (.callback (.inr .accept)) y) (hcurrent : y.2.current = .read c)
    (hnot : ¬ Readable x (.callback (.inr .accept))) : Stalled y := by
  have hblocks : ∃ c, x.2.backlog.head? = some c ∧ c.read = none := by
    simpa [Readable] using hnot
  obtain ⟨c', hhead, hread⟩ := hblocks
  cases hstep with
  | callback hcall =>
      obtain ⟨own, hown, hin⟩ := hcall
      cases hown
      cases hin with
      | accept _ _ hbacklog =>
          rw [hbacklog] at hhead
          cases hhead
          exact ⟨rfl, c', rfl, (c'.read_eq_none_iff).mp hread⟩
      | acceptFails hnone =>
          rw [show _ = Callback.read c from hcurrent] at hnone
          cases hnone
  | callbackPanics hcall =>
      obtain ⟨own, hown, hin⟩ := hcall
      cases hown
      cases hin with
      | overflow hnone =>
          rw [show _ = Callback.read c from hcurrent] at hnone
          cases hnone

/-- A run that accepts no connection before there is something to read never stalls,
and the flag of the channel always gets the thread to act. Accepting one too early
stalls it, and then nothing does. -/
theorem never_stalls_when_readable (x : Phase Empty × DisplayState) :
    (ReachableUnder loop.system Readable x →
      ¬ Stalled x ∧ (x.2.channel.pinged = true → x.1 ≠ .ended → ¬ Stuck x)) ∧
    (∀ y c, Loop.Step loop x (.callback (.inr .accept)) y → y.2.current = .read c →
      ¬ Readable x (.callback (.inr .accept)) → Stalled y ∧ Stuck y) := by
  refine ⟨fun h => ?_, fun y c hstep hcurrent hnot => ?_⟩
  · have hreads := reachable_reads h
    exact ⟨hreads.not_stalled, fun hpinged hended => moves hreads hended hpinged⟩
  · have hstalled := accept_stalled hstep hcurrent hnot
    exact ⟨hstalled, hstalled.stuck⟩

/-! ## A client that says nothing -/

/-- One client has connected, and has written this much. -/
def connected (unread : List UInt8) : DisplayState where
  shuttingDown := false
  server := some .new
  backlog := [⟨unread, .open⟩]
  channel := .empty
  current := .none

/-- The thread has accepted the client, and the main thread has asked for a
shutdown. -/
def reading (unread : List UInt8) : DisplayState where
  shuttingDown := false
  server := some ⟨2⟩
  backlog := []
  channel := ⟨[.shutdown], true⟩
  current := .read ⟨unread, .open⟩

theorem accepts (unread : List UInt8) :
    Loop.Step loop (.dispatching, connected unread) (.callback (.inr .accept))
      (.dispatching, { reading unread with channel := .empty }) := by
  have hnew : WaylandServer.new.newClient true = some (1, ⟨2⟩) := rfl
  exact .callback ⟨.accept, rfl, .accept rfl rfl rfl hnew⟩

theorem reading_reached {ok : Phase Empty × DisplayState → EventLoop.Action (Outside ⊕ Own) → Prop}
    {unread : List UInt8} (hok : ∀ x a, a ≠ .callback (.inr .accept) → ok x a)
    (haccept : ok (.dispatching, connected unread) (.callback (.inr .accept))) :
    ReachableUnder loop.system ok (.dispatching, reading unread) := by
  have hstart : ReachableUnder loop.system ok (.waiting, connected unread) :=
    .init ⟨rfl, rfl, .inr rfl, rfl⟩
  have hwoken : ReachableUnder loop.system ok (.dispatching, connected unread) :=
    .step hstart (hok _ .wake nofun) (.wake (.inl rfl))
  have haccepted := ReachableUnder.step hwoken haccept (accepts unread)
  have hpushed : ReachableUnder loop.system ok
      (.dispatching, { reading unread with channel := ⟨[.shutdown], false⟩ }) :=
    .step haccepted (hok _ (.outside (.inl (.push .shutdown))) nofun)
      (.outside ⟨_, rfl, rfl⟩)
  exact .step hpushed (hok _ (.outside (.inl .ping)) nofun) (.outside ⟨_, rfl, rfl⟩)

/-- The shutdown is on the channel and the flag is up, and nothing happens. -/
theorem silentClient_stalls :
    ∃ x, Reachable loop.system x ∧ Stalled x ∧ Stuck x ∧
      DisplayMessage.shutdown ∈ x.2.channel.queue ∧ x.2.channel.pinged = true := by
  have hreached : Reachable loop.system (.dispatching, reading []) :=
    reading_reached (fun _ _ _ => trivial) trivial
  have hstalled : Stalled (.dispatching, reading []) := ⟨rfl, _, rfl, rfl, rfl⟩
  exact ⟨_, hreached, hstalled, hstalled.stuck, List.mem_singleton_self _, rfl⟩

/-- A client that has written a byte is harmless, one that has not is not. -/
theorem oneByte_decides :
    (¬ Stalled (.dispatching, reading [0]) ∧ ¬ Stuck (.dispatching, reading [0])) ∧
    Stalled (.dispatching, { reading [] with channel := .empty }) := by
  have hreached : ReachableUnder loop.system Readable (.dispatching, reading [0]) := by
    refine reading_reached (fun x a hne how => absurd how hne) fun _ c hc => ?_
    cases hc
    exact fun h => by cases h
  have hnot : ¬ Readable (.dispatching, connected []) (.callback (.inr .accept)) :=
    fun h => h rfl _ rfl rfl
  have hone := (never_stalls_when_readable (.dispatching, reading [0])).1 hreached
  have hnone := (never_stalls_when_readable (.dispatching, connected [])).2
  exact ⟨⟨hone.1, hone.2 rfl nofun⟩, (hnone _ _ (accepts []) rfl hnot).1⟩

end DisplayState

end Scape.Display
