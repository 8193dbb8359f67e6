import Scape.Proofs.ShutdownOnce

/-!
# The wake-up that comes too early

A module thread raises the main thread's flag for the last time and ends after
that. The main thread, woken, asks whether the threads have ended. If it asks in
between, it hears no, blocks, and nobody is left to wake it but the timer.

`LosesWakeup` is that moment: the closure runs with the channel drained and the
flag down, every thread is done with its sender, and one of them is not finished.
A run that avoids it never gets stuck, because a blocked main thread then either
has its flag up or is owed a wake-up by a thread that has yet to let go of its
sender. And from every such moment the main thread can get stuck: it blocks, and
the threads end.
-/

namespace Scape.Main

open Scape Machine

namespace App

variable {s t : App} {action : Action}

/-- The main thread is blocked while it is shutting down and all threads have
finished, with nothing on its channel and its flag down. -/
def Stuck (s : App) : Prop :=
  s.loop = .waiting ∧ s.shuttingDown = true ∧ s.inbox = 0 ∧ s.pinged = false ∧
  ∀ m, s.threads m = .finished

def HasLeft (phase : ThreadPhase) : Prop := phase = .gone ∨ phase = .finished

instance (phase : ThreadPhase) : Decidable (HasLeft phase) :=
  inferInstanceAs (Decidable (_ ∨ _))

/-- The closure is about to send the main thread back to sleep for good. -/
def LosesWakeup (s : App) : Prop :=
  s.shuttingDown = true ∧ s.mayStop = false ∧ s.inbox = 0 ∧ s.pinged = false ∧
  ∀ m, HasLeft (s.threads m)

instance (s : App) : Decidable (Stuck s) :=
  inferInstanceAs (Decidable (_ ∧ _ ∧ _ ∧ _ ∧ _))

instance (s : App) : Decidable (LosesWakeup s) :=
  inferInstanceAs (Decidable (_ ∧ _ ∧ _ ∧ _ ∧ _))

def Prompt (s : App) (action : Action) : Prop := action = .check → ¬ LosesWakeup s

/-- Once stuck, only the timer moves anything. -/
theorem Stuck.step (h : Stuck s) (hstep : Step s action t) :
    action = .elapse ∨ (action = .wake ∧ s.timer = .due) := by
  obtain ⟨hloop, -, -, hpinged, hfinished⟩ := h
  cases hstep with
  | elapse => exact .inl rfl
  | wake _ hready =>
      rcases hready with hp | hdue
      · rw [hpinged] at hp; cases hp
      · exact .inr ⟨rfl, hdue⟩
  | send hm | ping hm | exit hm | report hm | pingLast hm | dropLast hm | finish hm =>
      rw [hfinished] at hm
      cases hm
  | drop hm =>
      rw [hfinished] at hm
      rcases hm with hm | hm <;> cases hm
  | drain hl | receive hl | drained hl | limit hl | notify hl | arm hl | fire hl
  | dispatched hl | check hl =>
      rw [hloop] at hl
      cases hl

/-! ## A message is never without a wake-up -/

/-- There is no thread in one of these phases that could be the one that
moves. -/
theorem other_thread {m : Module} {phase phase' : ThreadPhase} {P : ThreadPhase → Prop}
    (hm : s.threads m = phase) (hP : ¬ P phase)
    (h : ∃ m', P (s.threads m')) : ∃ m', P ((s.setThread m phase').threads m') := by
  obtain ⟨m', hm'⟩ := h
  have hne : m' ≠ m := fun he => hP (hm ▸ he ▸ hm')
  exact ⟨m', by rw [setThread_threads, Function.update_of_ne hne]; exact hm'⟩

theorem this_thread {m : Module} {phase : ThreadPhase} {P : ThreadPhase → Prop}
    (hP : P phase) : ∃ m', P ((s.setThread m phase).threads m') :=
  ⟨m, by rw [setThread_threads, Function.update_self]; exact hP⟩

def OwesPing (phase : ThreadPhase) : Prop := phase = .requesting ∨ phase = .reporting

/-- A message on the channel is being drained, has the flag up, or has a sender
that will put it up. -/
def Flagged (s : App) : Prop :=
  0 < s.inbox → s.pinged = true ∨ s.loop = .draining ∨ (∃ rest, s.loop = .notifying rest) ∨
    ∃ m, OwesPing (s.threads m)

theorem Flagged.setThread (h : Flagged s) {m : Module} {phase phase' : ThreadPhase}
    (hm : s.threads m = phase) (hphase : ¬ OwesPing phase) :
    Flagged (s.setThread m phase') := by
  intro hpos
  rcases h hpos with hp | hl | hl | ho
  · exact .inl hp
  · exact .inr (.inl hl)
  · exact .inr (.inr (.inl hl))
  · exact .inr (.inr (.inr (other_thread hm hphase ho)))

theorem Step.flagged (hstep : Step s action t) (h : Flagged s) : Flagged t := by
  cases hstep with
  | send hrun =>
      rename_i m e
      rcases send_cases s m e with hs | hs | ⟨hs, -⟩ <;> rw [hs]
      · exact fun _ => .inr (.inr (.inr (this_thread (.inl rfl))))
      · exact h
      · exact h.setThread hrun (by simp [OwesPing])
  | ping | pingLast | drop | dropLast | limit => exact fun _ => .inl rfl
  | exit hm | finish hm => exact h.setThread hm (by simp [OwesPing])
  | report hm =>
      unfold App.report
      split
      next => exact h.setThread hm (by simp [OwesPing])
      next => exact fun _ => .inr (.inr (.inr (this_thread (.inr rfl))))
  | drain => exact fun _ => .inr (.inl rfl)
  | drained _ hempty => exact fun hpos => absurd hempty (Nat.ne_of_gt hpos)
  | receive hloop =>
      unfold App.receive
      split
      next => exact fun _ => .inr (.inl hloop)
      next => exact fun _ => .inr (.inr (.inl ⟨_, rfl⟩))
  | notify =>
      rename_i m rest _
      rcases notify_cases s m rest with hs | hs <;> rw [hs] <;>
        exact fun _ => .inr (.inr (.inl ⟨rest, rfl⟩))
  | arm =>
      unfold App.arm
      split <;> exact fun _ => .inr (.inl rfl)
  | elapse | fire => exact h
  | wake hloop | dispatched hloop | check hloop =>
      intro hpos
      rcases h hpos with hp | hl | ⟨rest, hl⟩ | ho
      · exact .inl hp
      · rw [hloop] at hl; cases hl
      · rw [hloop] at hl; cases hl
      · exact .inr (.inr (.inr ho))

theorem reachable_flagged (h : Reachable system s) : Flagged s :=
  h.invariant (I := Flagged)
    (fun _ hs hpos => by rw [show _ = start from hs] at hpos; exact absurd hpos (by decide))
    fun _ _ _ hs _ hstep => Step.flagged hstep hs

/-! ## A blocked main thread is owed a wake-up -/

/-- While the main thread is blocked in a shutdown, its flag is up or a thread
has yet to raise it. -/
def Owed (s : App) : Prop :=
  s.loop = .waiting → s.shuttingDown = true →
    s.pinged = true ∨ ∃ m, ¬ HasLeft (s.threads m)

theorem Owed.setThread (h : Owed s) {m : Module} {phase phase' : ThreadPhase}
    (hm : s.threads m = phase) (hphase : HasLeft phase) :
    Owed (s.setThread m phase') := by
  intro hloop hshut
  exact (h hloop hshut).imp_right (other_thread (P := fun p => ¬ HasLeft p) hm
    (not_not_intro hphase))

theorem Step.owed (hstep : Step s action t) (hprompt : Prompt s action)
    (hf : Flagged s) (h : Owed s) : Owed t := by
  cases hstep with
  | send hrun =>
      rename_i m e
      rcases send_cases s m e with hs | hs | ⟨hs, -⟩ <;> rw [hs]
      · exact fun _ _ => .inr (this_thread (P := fun p => ¬ HasLeft p) (by decide))
      · exact h
      · exact fun _ _ => .inr (this_thread (P := fun p => ¬ HasLeft p) (by decide))
  | ping | pingLast | drop | dropLast => exact fun _ _ => .inl rfl
  | exit => exact fun _ _ => .inr (this_thread (P := fun p => ¬ HasLeft p) (by decide))
  | report =>
      unfold App.report
      split
      next hstop =>
        intro hloop
        rw [show s.loop = .waiting from hloop] at hstop
        cases hstop
      next => exact fun _ _ => .inr (this_thread (P := fun p => ¬ HasLeft p) (by decide))
  | finish hm => exact h.setThread hm (.inl rfl)
  | elapse => exact h
  | receive hloop =>
      unfold App.receive
      split
      next => intro hl; rw [show s.loop = .waiting from hl] at hloop; cases hloop
      next => intro hl; cases hl
  | notify =>
      rename_i m rest _
      rcases notify_cases s m rest with hs | hs <;> rw [hs] <;> intro hl <;> cases hl
  | arm =>
      unfold App.arm
      split <;> intro hl <;> cases hl
  | fire hloop => intro hl; rw [show s.loop = .waiting from hl] at hloop; cases hloop
  | wake | drain | drained | limit | dispatched => intro hl; cases hl
  | check hloop =>
      intro hwait hshut
      have hmay : s.mayStop = false := by
        cases hmay : s.mayStop with
        | false => rfl
        | true => rw [hmay] at hwait; cases hwait
      by_contra hnone
      simp only [not_or, not_exists, not_not, Bool.not_eq_true] at hnone
      obtain ⟨hpinged, hleft⟩ := hnone
      refine hprompt rfl ⟨hshut, hmay, ?_, hpinged, hleft⟩
      -- A message left over would have its flag up, or a sender still to raise it.
      by_contra hpos
      rcases hf (Nat.pos_of_ne_zero hpos) with hp | hl | ⟨rest, hl⟩ | ⟨m, ho⟩
      · rw [show s.pinged = false from hpinged] at hp; cases hp
      · rw [hloop] at hl; cases hl
      · rw [hloop] at hl; cases hl
      · rcases hleft m with hl | hl <;> rcases ho with ho | ho <;>
          rw [show s.threads m = _ from hl] at ho <;> cases ho

theorem reachable_owed (h : ReachableUnder system Prompt s) : Owed s :=
  h.invariant_using (I := Owed) (fun _ hs => reachable_flagged hs.reachable)
    (fun _ hs _ hshut => by rw [show _ = start from hs] at hshut; cases hshut)
    fun _ _ _ hf ho hprompt hstep => Step.owed hstep hprompt hf ho

/-! ## And back -/

theorem finish_all (s : App) (ms : List Module) (hleft : ∀ m, HasLeft (s.threads m)) :
    ∃ t, Reachable (system.onwards s) t ∧ t.loop = s.loop ∧ t.shuttingDown = s.shuttingDown ∧
      t.inbox = s.inbox ∧ t.pinged = s.pinged ∧
      ∀ m, (m ∈ ms → t.threads m = .finished) ∧ HasLeft (t.threads m) := by
  induction ms with
  | nil => exact ⟨s, .init rfl, rfl, rfl, rfl, rfl, fun m => ⟨by simp, hleft m⟩⟩
  | cons m ms ih =>
      obtain ⟨t, ht, hloop, hshut, hinbox, hpinged, hthreads⟩ := ih
      rcases (hthreads m).2 with hm | hm
      · refine ⟨t.setThread m .finished, ht.next (Step.finish hm), hloop, hshut, hinbox,
          hpinged, fun m' => ?_⟩
        rw [setThread_threads]
        by_cases he : m' = m
        · subst he
          rw [Function.update_self]
          exact ⟨fun _ => rfl, .inr rfl⟩
        · rw [Function.update_of_ne he]
          refine ⟨fun hmem => (hthreads m').1 ?_, (hthreads m').2⟩
          exact (List.mem_cons.mp hmem).resolve_left he
      · refine ⟨t, ht, hloop, hshut, hinbox, hpinged, fun m' => ⟨fun hmem => ?_, (hthreads m').2⟩⟩
        rcases List.mem_cons.mp hmem with rfl | hmem
        · exact hm
        · exact (hthreads m').1 hmem

theorem stuck_of_losesWakeup (hloop : s.loop = .checking) (hloses : LosesWakeup s) :
    ∃ t, Reachable (system.onwards s) t ∧ Stuck t := by
  obtain ⟨hshut, hmay, hinbox, hpinged, hleft⟩ := hloses
  have hwait : Reachable (system.onwards s) { s with loop := .waiting } := by
    have hstep := Step.check hloop
    rw [hmay] at hstep
    exact .step (.init rfl) trivial hstep
  obtain ⟨t, ht, hloop', hshut', hinbox', hpinged', hthreads⟩ :=
    finish_all { s with loop := .waiting } [.config, .input, .renderer, .display] hleft
  refine ⟨t, .trans hwait ht, hloop', hshut'.trans hshut, hinbox'.trans hinbox,
    hpinged'.trans hpinged, fun m => (hthreads m).1 ?_⟩
  cases m <;> decide

/-- A run in which the closure never runs at the wrong moment never gets stuck,
and from every reachable wrong moment one can go on to where it is. -/
theorem never_stuck_when_prompt (s : App) :
    (ReachableUnder system Prompt s → ¬ Stuck s) ∧
    (Reachable system s → s.loop = .checking → LosesWakeup s →
      ∃ t, Reachable system t ∧ Reachable (system.onwards s) t ∧ Stuck t) := by
  refine ⟨fun h hstuck => ?_, fun h hloop hloses => ?_⟩
  · obtain ⟨hloop, hshut, -, hpinged, hfinished⟩ := hstuck
    rcases reachable_owed h hloop hshut with hp | ⟨m, hm⟩
    · rw [hpinged] at hp
      cases hp
    · exact hm (.inr (hfinished m))
  · obtain ⟨t, ht, hstuck⟩ := stuck_of_losesWakeup hloop hloses
    exact ⟨t, h.trans ht, ht, hstuck⟩

/-! ## A shutdown -/

/-- The input thread asks for a shutdown, the main thread passes it on, and the
modules end. All are finished but the renderer, which has let go of its sender. -/
def modulesEnd : List Action :=
  [.send .input (.main .shutdown), .ping .input, .wake, .drain, .receive,
    .notify, .notify, .notify, .notify, .arm true, .drained, .dispatched, .check,
    .exit .config, .report .config, .ping .config, .drop .config, .finish .config,
    .exit .input, .report .input, .ping .input, .drop .input, .finish .input,
    .exit .display, .report .display, .ping .display, .drop .display, .finish .display,
    .exit .renderer, .report .renderer, .ping .renderer, .drop .renderer]

/-- The main thread takes in what they have sent, up to the closure. -/
def lastMessages : List Action :=
  [.wake, .drain, .receive, .receive, .receive, .receive, .drained, .dispatched]

/-- The renderer finishes before the main thread looks. -/
def inTime : List Action := modulesEnd ++ .finish .renderer :: lastMessages ++ [.check]

/-- It has not when the main thread looks. -/
def renderersLastMoment : List Action := modulesEnd ++ lastMessages

/-- The step function of the runs that never let the closure run at the wrong moment. -/
def promptNext (s : App) : Action → Option App
  | .check => if LosesWakeup s then none else s.next .check
  | action => s.next action

theorem promptNext_step (h : s.promptNext action = some t) :
    Prompt s action ∧ Step s action t := by
  cases action with
  | check =>
      rw [promptNext, Option.ite_none_left_eq_some] at h
      exact ⟨fun _ => h.1, next_step h.2⟩
  | _ =>
      refine ⟨fun hcheck => ?_, next_step (show s.next _ = some t from h)⟩
      cases hcheck

theorem inTime_runs : (follow promptNext start inTime).isSome = true := by decide

theorem renderersLastMoment_runs :
    (follow next start renderersLastMoment).isSome = true := by decide

theorem inTime_reached :
    ∃ s, ReachableUnder system Prompt s ∧ s.shuttingDown = true ∧
      (∀ m, s.threads m = .finished) ∧ s.loop = .stopped := by
  exact ⟨_, ReachableUnder.follow (fun _ _ _ => promptNext_step) (.init rfl)
    (Option.some_get inTime_runs).symm, by decide, by decide, by decide⟩

theorem renderersLastMoment_reached :
    ∃ s, Reachable system s ∧ s.loop = .checking ∧ LosesWakeup s := by
  exact ⟨_, reachable_follow (Option.some_get renderersLastMoment_runs).symm,
    by decide, by decide⟩

/-- A shutdown in time ends well, and one with the renderer's last moment need not. -/
theorem stuck_after_renderersLastMoment :
    (∃ s, ReachableUnder system Prompt s ∧ s.shuttingDown = true ∧
      (∀ m, s.threads m = .finished) ∧ s.loop = .stopped ∧ ¬ Stuck s) ∧
    ∃ t, Reachable system t ∧ Stuck t := by
  constructor
  · obtain ⟨s, h, hshut, hfinished, hloop⟩ := inTime_reached
    exact ⟨s, h, hshut, hfinished, hloop, (never_stuck_when_prompt s).1 h⟩
  · obtain ⟨s, h, hloop, hloses⟩ := renderersLastMoment_reached
    obtain ⟨t, ht, -, hstuck⟩ := (never_stuck_when_prompt s).2 h hloop hloses
    exact ⟨t, ht, hstuck⟩

theorem renderer_finishes_later :
    (follow next start
      (renderersLastMoment ++ [.check, .finish .renderer])).isSome = true := by decide

/-- It has not, it does a moment later, and the main thread is stuck. -/
theorem stuck_reachable : ∃ s, Reachable system s ∧ Stuck s := by
  exact ⟨_, reachable_follow (Option.some_get renderer_finishes_later).symm, by decide⟩

end App

end Scape.Main
