import Scape.Main.Shutdown

/-!
# Shutdown is passed on once

Whatever order the threads end in, the main thread notifies each module once and
arms one timer, because the handler does both only on the request that sets
`shutting_down`, and nothing unsets it. The main loop stops only after that. And
a module that is gone has left a request behind, which is still on the channel
or has been taken from it by a main thread that is shutting down since.
-/

namespace Scape.Main

open Scape Machine

namespace App

variable {s t : App} {action : Action}

/-- The part of the handler that is still to come has not been done, the rest at
most once. -/
structure Orderly (s : App) : Prop where
  quiet : s.shuttingDown = false → (∀ m, s.notified m = 0) ∧ s.timersArmed = 0 ∧
    s.timer = .off ∧ s.forceShuttingDown = false ∧ s.loop ≠ .stopped
  todo : ∀ rest, s.loop = .notifying rest → s.shuttingDown = true ∧ rest.Nodup ∧
    (∀ m ∈ rest, s.notified m = 0) ∧ s.timersArmed = 0
  notified : ∀ m, s.notified m ≤ 1
  armed : s.timersArmed ≤ 1

theorem Orderly.start : Orderly start := by
  refine ⟨fun _ => ⟨fun _ => rfl, rfl, rfl, rfl, by simp [App.start]⟩, ?_,
    fun _ => Nat.zero_le _, Nat.zero_le _⟩
  intro rest h
  cases h

theorem Orderly.of_eq (h : Orderly s) (hshut : t.shuttingDown = s.shuttingDown)
    (hnot : t.notified = s.notified) (harmed : t.timersArmed = s.timersArmed)
    (htimer : s.timer = .off → t.timer = .off)
    (hforce : t.forceShuttingDown = s.forceShuttingDown) (hloop : t.loop = s.loop) :
    Orderly t where
  quiet := by
    rw [hshut, hnot, harmed, hforce, hloop]
    intro hq
    obtain ⟨h1, h2, h3, h4⟩ := h.quiet hq
    exact ⟨h1, h2, htimer h3, h4⟩
  todo := by
    rw [hloop, hshut, hnot, harmed]
    exact h.todo
  notified := by rw [hnot]; exact h.notified
  armed := by rw [harmed]; exact h.armed

theorem Orderly.of_loop (h : Orderly s) {phase : LoopPhase} (hphase : phase ≠ .stopped)
    (hnot : ∀ rest, phase ≠ .notifying rest) {pinged : Bool} :
    Orderly { s with loop := phase, pinged := pinged } where
  quiet := fun hq => by
    obtain ⟨h1, h2, h3, h4, -⟩ := h.quiet hq
    exact ⟨h1, h2, h3, h4, hphase⟩
  todo := fun rest hrest => absurd hrest (hnot rest)
  notified := h.notified
  armed := h.armed

theorem Orderly.receive (h : Orderly s) : Orderly s.receive := by
  unfold App.receive
  split
  next => exact h.of_eq rfl rfl rfl id rfl rfl
  next hshut =>
    obtain ⟨hnot, harmed, -, -, -⟩ := h.quiet (by simpa using hshut)
    refine ⟨(fun hq => nomatch hq), ?_, h.notified, h.armed⟩
    intro rest hrest
    cases hrest
    exact ⟨rfl, by decide, fun m _ => hnot m, harmed⟩

theorem Orderly.notify (h : Orderly s) {m : Module} {rest : List Module}
    (hloop : s.loop = .notifying (m :: rest)) : Orderly (s.notify m rest) := by
  obtain ⟨hshut, hnodup, hzero, harmed⟩ := h.todo _ hloop
  obtain ⟨hm, hnodup⟩ := List.nodup_cons.mp hnodup
  have hbase : Orderly { s with
      loop := .notifying rest
      notified := Function.update s.notified m (s.notified m + 1) } := by
    refine ⟨fun hq => ?_, ?_, fun m' => ?_, h.armed⟩
    · rw [hshut] at hq
      cases hq
    · intro rest' hrest
      cases hrest
      refine ⟨hshut, hnodup, fun m' hm' => ?_, harmed⟩
      have hne : m' ≠ m := fun he => hm (he ▸ hm')
      simp only [Function.update_of_ne hne]
      exact hzero m' (List.mem_cons_of_mem _ hm')
    · by_cases hm' : m' = m
      · subst hm'
        simp only [Function.update_self, hzero m' List.mem_cons_self]
        exact le_refl _
      · simp only [Function.update_of_ne hm']
        exact h.notified m'
  rcases notify_cases s m rest with hs | hs
  · rw [hs]
    exact hbase
  · rw [hs]
    exact hbase.of_eq rfl rfl rfl id rfl rfl

theorem Orderly.arm (h : Orderly s) {inserted : Bool} (hloop : s.loop = .notifying []) :
    Orderly (s.arm inserted) := by
  obtain ⟨hshut, -, -, harmed⟩ := h.todo _ hloop
  unfold App.arm
  split
  · refine ⟨fun hq => ?_, (fun rest hrest => nomatch hrest), h.notified, ?_⟩
    · rw [hshut] at hq
      cases hq
    · rw [harmed]
  · refine ⟨fun hq => ?_, (fun rest hrest => nomatch hrest), h.notified, h.armed⟩
    rw [hshut] at hq
    cases hq

theorem Step.orderly (hstep : Step s action t) (h : Orderly s) : Orderly t := by
  cases hstep with
  | send =>
      rename_i m e _
      rcases send_cases s m e with hs | hs | ⟨hs, -⟩ <;> rw [hs]
      · exact h.of_eq rfl rfl rfl id rfl rfl
      · exact h
      · exact h.of_eq rfl rfl rfl id rfl rfl
  | ping | exit | pingLast | drop | dropLast | finish =>
      exact h.of_eq rfl rfl rfl id rfl rfl
  | report =>
      unfold App.report
      split
      · exact h.of_eq rfl rfl rfl id rfl rfl
      · exact h.of_eq rfl rfl rfl id rfl rfl
  | elapse harmed =>
      refine h.of_eq rfl rfl rfl (fun hoff => ?_) rfl rfl
      rw [harmed] at hoff
      cases hoff
  | wake | drain | drained | limit | dispatched =>
      exact h.of_loop (by simp) (by simp)
  | receive => exact h.receive
  | notify hloop => exact h.notify hloop
  | arm hloop => exact h.arm hloop
  | fire hloop hdue =>
      refine ⟨fun hq => ?_, fun rest hrest => ?_, h.notified, h.armed⟩
      · -- A timer that is due was armed by the handler.
        have hoff := (h.quiet hq).2.2.1
        rw [hdue] at hoff
        cases hoff
      · rw [show s.loop = .notifying rest from hrest] at hloop
        cases hloop
  | check =>
      cases hmay : s.mayStop with
      | false => exact h.of_loop (by simp) (by simp)
      | true =>
          have hshut : s.shuttingDown = true := by
            by_contra hq
            obtain ⟨-, -, -, hforce, -⟩ := h.quiet (by simpa using hq)
            rcases (mayStop_iff s).mp hmay with ⟨hs, -⟩ | hf
            · exact hq hs
            · rw [hforce] at hf; cases hf
          refine ⟨fun hq => ?_, (fun rest hrest => nomatch hrest), h.notified, h.armed⟩
          rw [show s.shuttingDown = false from hq] at hshut
          cases hshut

theorem reachable_orderly (h : Reachable system s) : Orderly s :=
  h.invariant (I := Orderly) (fun _ hs => by rw [show _ = start from hs]; exact Orderly.start)
    fun _ _ _ hs _ hstep => Step.orderly hstep hs

/-! ## When the loop stops -/

/-- A stopped loop had what it takes to stop, and still has it: a finished
thread stays finished and the flags stay set. -/
def StoppedWell (s : App) : Prop := s.loop = .stopped → s.mayStop = true

/-- While a thread is unfinished only the force flag stops the loop, so that
the thread may move. -/
theorem mayStop_of_unfinished (h : s.mayStop = true) {m : Module} {phase : ThreadPhase}
    (hm : s.threads m = phase) (hphase : phase ≠ .finished)
    (hforce : t.forceShuttingDown = s.forceShuttingDown) : t.mayStop = true := by
  rw [mayStop_iff] at h ⊢
  rcases h with ⟨-, hfinished⟩ | hf
  · exact absurd (hm.symm.trans (hfinished m)) hphase
  · exact .inr (hforce ▸ hf)

theorem Step.stoppedWell (hstep : Step s action t) (h : StoppedWell s) :
    StoppedWell t := by
  intro hstop
  cases hstep with
  | send hrun =>
      rename_i m e
      rcases send_cases s m e with hs | hs | ⟨hs, -⟩ <;> rw [hs] at hstop ⊢
      · exact mayStop_of_unfinished (h hstop) hrun (by simp) rfl
      · exact h hstop
      · exact mayStop_of_unfinished (h hstop) hrun (by simp) rfl
  | ping hm | exit hm | pingLast hm | dropLast hm | finish hm =>
      exact mayStop_of_unfinished (h hstop) hm (by simp) rfl
  | drop => exact h hstop
  | report hm =>
      unfold App.report at hstop ⊢
      split at hstop
      next hloop =>
        rw [if_pos hloop]
        exact mayStop_of_unfinished (h hloop) hm (by simp) rfl
      next hloop => exact absurd hstop hloop
  | elapse => exact h hstop
  | receive hloop =>
      unfold App.receive at hstop
      split at hstop
      · rw [hloop] at hstop; cases hstop
      · cases hstop
  | notify hloop =>
      rename_i m rest
      rcases notify_cases s m rest with hs | hs <;> rw [hs] at hstop <;> cases hstop
  | arm =>
      unfold App.arm at hstop
      split at hstop <;> cases hstop
  | fire hloop => rw [hloop] at hstop; cases hstop
  | wake | drain | drained | limit | dispatched => cases hstop
  | check =>
      cases hmay : s.mayStop with
      | false => rw [hmay] at hstop; cases hstop
      | true => exact hmay

theorem reachable_stoppedWell (h : Reachable system s) : StoppedWell s :=
  h.invariant (I := StoppedWell) (fun _ hs hstop => by
      rw [show _ = start from hs] at hstop; cases hstop)
    fun _ _ _ hs _ hstep => Step.stoppedWell hstep hs

/-! ## What a thread leaves behind -/

def HasReported (phase : ThreadPhase) : Prop :=
  phase = .reporting ∨ phase = .leaving ∨ phase = .gone ∨ phase = .finished

/-- A thread that has sent its last request has been heard, or will be. -/
def Announced (s : App) : Prop :=
  ∀ m, HasReported (s.threads m) → s.shuttingDown = true ∨ 0 < s.inbox

theorem Announced.setThread (h : Announced s) {m : Module} {phase : ThreadPhase}
    (hphase : HasReported phase → HasReported (s.threads m))
    (hshut : t.shuttingDown = s.shuttingDown) (hinbox : s.inbox ≤ t.inbox)
    (hthreads : t.threads = Function.update s.threads m phase) : Announced t := by
  intro m' hm'
  have hbefore : HasReported (s.threads m') := by
    by_cases he : m' = m
    · subst he
      rw [hthreads, Function.update_self] at hm'
      exact hphase hm'
    · rwa [hthreads, Function.update_of_ne he] at hm'
  rw [hshut]
  exact (h m' hbefore).imp_right fun hlt => Nat.lt_of_lt_of_le hlt hinbox

theorem Announced.of_shuttingDown (h : s.shuttingDown = true) : Announced s :=
  fun _ _ => .inl h

theorem Step.announced (hstep : Step s action t) (ho : Orderly s) (h : Announced s) :
    Announced t := by
  cases hstep with
  | send hrun =>
      rename_i m e
      rcases send_cases s m e with hs | hs | ⟨hs, -⟩ <;> rw [hs]
      · exact h.setThread (by simp [HasReported]) rfl (Nat.le_succ _) rfl
      · exact h
      · exact h.setThread (by simp [HasReported]) rfl (le_refl _) rfl
  | ping => exact h.setThread (by simp [HasReported]) rfl (le_refl _) rfl
  | exit => exact h.setThread (by simp [HasReported]) rfl (le_refl _) rfl
  | report =>
      unfold App.report
      split
      next hloop =>
        -- Nobody listens: the main loop has stopped, so it was shutting down.
        refine .of_shuttingDown ?_
        by_contra hq
        exact (ho.quiet (by simpa using hq)).2.2.2.2 hloop
      next => exact fun _ _ => .inr (Nat.succ_pos _)
  | pingLast hm => exact h.setThread (by simp [HasReported, hm]) rfl (le_refl _) rfl
  | drop => exact h
  | dropLast hm => exact h.setThread (by simp [HasReported, hm]) rfl (le_refl _) rfl
  | finish hm => exact h.setThread (by simp [HasReported, hm]) rfl (le_refl _) rfl
  | receive =>
      unfold App.receive
      split
      next hshut => exact .of_shuttingDown hshut
      next => exact .of_shuttingDown rfl
  | notify hloop =>
      rename_i m rest
      have hshut := (ho.todo _ hloop).1
      rcases notify_cases s m rest with hs | hs <;> rw [hs] <;>
        exact .of_shuttingDown hshut
  | arm hloop =>
      have hshut := (ho.todo _ hloop).1
      unfold App.arm
      split <;> exact .of_shuttingDown hshut
  | elapse | wake | drain | drained | limit | fire | dispatched | check => exact h

theorem reachable_announced (h : Reachable system s) : Announced s :=
  h.invariant_using (I := Announced) (fun _ hs => reachable_orderly hs.reachable)
    (fun _ hs m hm => by
      rw [show _ = start from hs] at hm
      simp [HasReported, start] at hm)
    fun _ _ _ ho hs _ hstep => Step.announced hstep ho hs

/-- In every state the five threads reach: no module has been sent more than one
`Shutdown` by the main thread, and at most one timer has been armed; the main
loop has stopped only if it is shutting down and the modules have finished or the
force flag is set; and if a module has finished, the main thread is shutting down
or has a request to do so. -/
theorem shutdown_once (h : Reachable system s) :
    (∀ m, s.notified m ≤ 1) ∧ s.timersArmed ≤ 1 ∧
    (s.loop = .stopped → s.shuttingDown = true ∧
      ((∀ m, s.threads m = .finished) ∨ s.forceShuttingDown = true)) ∧
    (∀ m, s.threads m = .finished → s.shuttingDown = true ∨ 0 < s.inbox) := by
  have ho := reachable_orderly h
  refine ⟨ho.notified, ho.armed, fun hstop => ⟨?_, ?_⟩, fun m hm =>
    reachable_announced h m (.inr (.inr (.inr hm)))⟩
  · by_contra hq
    exact (ho.quiet (by simpa using hq)).2.2.2.2 hstop
  · exact ((mayStop_iff s).mp (reachable_stoppedWell h hstop)).imp_left And.right

/-- The config thread panics and leaves its request; the main thread takes it and
passes the shutdown on. -/
def configPanics : List Action :=
  [.exit .config, .report .config, .ping .config, .drop .config, .finish .config,
    .wake, .drain, .receive, .notify, .notify, .notify, .notify, .arm true]

theorem configPanics_runs : (follow next start configPanics).isSome = true := by decide

theorem shutdown_once_configPanics :
    ∃ s : App, s.threads .config = .finished ∧ s.notified .renderer = 1 ∧
      s.timersArmed ≤ 1 ∧ (s.shuttingDown = true ∨ 0 < s.inbox) := by
  have h := reachable_follow (Option.some_get configPanics_runs).symm
  exact ⟨_, by decide, by decide, (shutdown_once h).2.1,
    (shutdown_once h).2.2.2 .config (by decide)⟩

end App

end Scape.Main
