import Scape.Proofs.CallbackSafety

/-!
# Which runs leak a callback

`CallbackOwners` shows that a step loses a reference exactly if it sets
`on_connector_change` while it is set, or rejects the key name of a `Keymap`
message. A lost reference stays lost, since only its owner could give it back.
So the registered callbacks are those with an owner, after a run, if and only if
no step of the run was one of the two.
-/

namespace Scape.Config

open Scape Scape.Input Ledger Machine

namespace Link

variable {M : Mlua} {X : Xkb} {I : Interpreter M} {overflowChecks : Bool}
  {s t : Link M X} {action : LinkAction} {trace : List (Link M X × LinkAction)}

/-- What the store has in excess never shrinks, and grows at the leaking
steps. -/
theorem Step.excess_eq_zero_iff (h : Step I overflowChecks s action t)
    (hn : Numbered s.issued s.config.callbackState) (hs : s.book.Sound) :
    t.book.excess = 0 ↔ s.book.excess = 0 ∧ ¬ s.Leaks action := by
  obtain ⟨ms, hpath, hlosses⟩ := h.moves hn
  rw [hpath.excess hs, ← hlosses]
  omega

theorem run_excess_eq_zero_iff (h : Run (system I overflowChecks) trace s)
    (hroom : ∀ p ∈ trace, Unwrapped overflowChecks p.1 p.2) :
    s.book.excess = 0 ↔ ∀ p ∈ trace, ¬ p.1.Leaks p.2 := by
  induction h with
  | init hinit =>
      rw [Starts.book hinit]
      simp [Book.excess]
  | @step trace s t action hrun hstep ih =>
      have hroom' : ∀ p ∈ trace, Unwrapped overflowChecks p.1 p.2 :=
        fun p hp => hroom p (List.mem_append_left _ hp)
      have hreach := hrun.reachableUnder hroom'
      rw [Step.excess_eq_zero_iff hstep (reachable_numbered hreach)
        (reachable_sound hreach), ih hroom']
      simp [or_imp, forall_and]

/-- After a run, the registered callbacks are those bound to a key, those on the
way to the input thread or back, and those in the two hooks, if and only if the
run neither set `on_connector_change` while it was set nor rejected a key
name. -/
theorem live_eq_owned_iff (h : Run (system I overflowChecks) trace s)
    (hroom : ∀ p ∈ trace, Unwrapped overflowChecks p.1 p.2) :
    s.config.callbackState.live = s.owned.toFinset ↔ ∀ p ∈ trace, ¬ p.1.Leaks p.2 := by
  have hs := reachable_sound (h.reachableUnder hroom)
  rw [← run_excess_eq_zero_iff h hroom, ← hs.balanced_iff]
  exact hs.live_eq_iff

def setsConnectorHook : Script plainLua :=
  .call .onConnectorChange [.function "f"] fun _ => .done ()

theorem live_eq_owned_connectorHook :
    ∃ s : Link plainLua controlF1,
      Reachable (system (plainInterpreter fun _ => setsConnectorHook) true) s ∧
      s.config.onConnectorChange = some ⟨1⟩ ∧
      s.config.callbackState.live = s.owned.toFinset := by
  have hrun : Run (system (X := controlF1) (plainInterpreter fun _ => setsConnectorHook) true)
      _ _ :=
    .step (.step (.init ⟨[], false, .inr rfl, rfl⟩)
      (i := LinkAction.userConfig []) (.userConfig rfl rfl))
      (i := LinkAction.idle .all) (.idle rfl rfl rfl rfl)
  refine ⟨_, hrun.reachable, rfl,
    (live_eq_owned_iff hrun fun _ _ => .inl rfl).mpr ?_⟩
  simp [Leaks, ConfigState.afterLua, ConfigState.fresh]

/-- Read a second time, as when the file is saved, it leaves the callback of the
first time registered and nobody to name it. -/
theorem live_ne_owned :
    ∃ s : Link plainLua controlF1,
      Reachable (system (plainInterpreter fun _ => setsConnectorHook) true) s ∧
      s.config.callbackState.live ≠ s.owned.toFinset := by
  refine ⟨_, .step (.step (.step (.step
    (.init ⟨[], false, .inr rfl, rfl⟩)
    (i := LinkAction.userConfig []) trivial (.userConfig rfl rfl))
    (i := LinkAction.idle .all) trivial (.idle rfl rfl rfl rfl))
    (i := LinkAction.fileChanged (some [])) trivial (.fileChanged rfl rfl))
    (i := LinkAction.idle .all) trivial (.idle rfl rfl rfl rfl), ?_⟩
  decide

end Link

end Scape.Config
