import Scape.Proofs.CallbackOwners
import Scape.Proofs.Shortcuts
import Scape.Lib.Fifo

/-!
# No callback is run after it is forgotten

The input thread asks for a callback by name, and by the time the config thread
gets to the request the binding may be gone and the callback on its way out. It
still is only on its way: the request that forgets it was sent after, and the
channel keeps the order. So a `RunCallback` in the queue is for a callback that
is bound now or has its `ForgetCallback` behind it in the same queue, and both
are owners in the sense of `CallbackOwners`, which makes the callback a
registered one.
-/

namespace Scape.Config

open Scape Scape.Input Assoc Ledger Fifo

namespace Link

variable {M : Mlua} {X : Xkb} {I : Interpreter M} {overflowChecks : Bool}
  {s t : Link M X} {action : LinkAction}

def Bound (keymaps : Keymaps) (r : CallbackRef) : Prop :=
  ∃ mods key, keymaps.bound mods key = some r

/-- Every call in the queue is of a bound callback, or ahead of its end. -/
def CallsCovered (s : Link M X) : Prop :=
  Covered calledRef forgottenRef (Bound s.input.keymaps) s.toConfig

theorem Bound.mem_boundRefs {keymaps : Keymaps} {r : CallbackRef} (h : Bound keymaps r) :
    r ∈ boundRefs keymaps := by
  obtain ⟨mods, key, hbound⟩ := h
  unfold Keymaps.bound at hbound
  split at hbound
  next => cases hbound
  next keymap hkeymap =>
    exact Multiset.mem_bind.mpr
      ⟨keymap, mem_vals_of_lookup hkeymap, mem_vals_of_lookup hbound⟩

theorem Bound.bind {keymaps : Keymaps} {mods : Mods} {key : Keysym} {callback r : CallbackRef}
    (h : Bound keymaps r) :
    Bound (keymaps.bind mods key callback).1 r ∨ keymaps.bound mods key = some r := by
  obtain ⟨mods', key', hbound⟩ := h
  by_cases hsame : mods' = mods ∧ key' = key
  · obtain ⟨rfl, rfl⟩ := hsame
    exact .inr hbound
  · exact .inl ⟨mods', key', by rw [Keymaps.bound_bind, if_neg hsame]; exact hbound⟩

theorem inputMessage_covered {opened : Option Nat} {message : InputMessage}
    (h : s.CallsCovered) :
    Covered calledRef forgottenRef
      (Bound (s.input.handleMessage opened message).1.keymaps)
      (s.toConfig ++ configMessages (s.input.handleMessage opened message).2) := by
  cases message with
  | shutdown => simpa [InputState.handleMessage, configMessages, CallsCovered] using h
  | openFileInSessionForRenderer path =>
      have hnone : configMessages (s.input.handleMessage opened
          (.openFileInSessionForRenderer path)).2 = [] := by
        cases opened <;> rfl
      rw [hnone, List.append_nil]
      exact h
  | keymap keyName mods callback =>
      simp only [InputState.handleMessage]
      cases hkey : resolveKey X.tables keyName mods with
      | none =>
          rw [InputState.keymap_rejected hkey]
          simpa [configMessages, CallsCovered] using h
      | some binding =>
          obtain ⟨mods', key⟩ := binding
          obtain ⟨hkeymaps, hback⟩ := s.input.keymap_accepted callback hkey
          rw [hkeymaps, hback]
          cases hold : s.input.keymaps.bound mods' key with
          | none =>
              rw [Option.toList_none, List.map_nil, List.append_nil]
              refine h.mono fun r hr => ?_
              rcases hr.bind with hr | hr
              · exact hr
              · rw [hold] at hr; cases hr
          | some old =>
              refine h.send (fun r hr => ?_) (by simp [calledRef])
              rcases hr.bind with hr | hr
              · exact .inl hr
              · rw [hold] at hr
                cases hr
                exact .inr rfl

theorem Step.covered (h : Step I overflowChecks s action t) (hs : s.CallsCovered) :
    t.CallsCovered := by
  cases h with
  | defaultKeymap | userConfig | fileChanged | idle | toInput => exact hs
  | configMessage _ hqueue _ =>
      rw [CallsCovered, hqueue] at hs
      exact hs.tail
  | inputMessage => exact inputMessage_covered hs
  | key =>
      rename_i event
      simp only [CallsCovered, InputState.keymaps_handleKeyboardEvent,
        InputState.configMessages_handleKeyboardEvent]
      cases hcall : s.input.shortcut event with
      | none => simpa [CallsCovered] using hs
      | some callback =>
          refine hs.send (fun r hr => .inl hr) fun r hr => ?_
          cases hr
          exact ⟨_, _, hcall⟩
  | toConfig hcalled _ =>
      refine hs.send (fun r hr => .inl hr) fun r hr => ?_
      rw [hcalled] at hr
      cases hr

theorem reachable_covered
    (h : Machine.ReachableUnder (system I overflowChecks) (Unwrapped overflowChecks) s) :
    s.CallsCovered := by
  refine h.invariant (I := CallsCovered) (fun s hinit => ?_)
    fun _ _ _ hs _ hst => Step.covered hst hs
  obtain ⟨keymaps, xkbState, -, rfl⟩ := hinit
  trivial

/-! ## What is run is registered -/

theorem registered_of_owned {r : CallbackRef} (hs : s.book.Sound) (hr : r ∈ s.owned) :
    r ∈ s.config.callbackState.live :=
  hs.mem_live hr

theorem runs_registered {message : ConfigMessage} {queue : List ConfigMessage}
    {r : CallbackRef} (hs : s.book.Sound) (hc : s.CallsCovered)
    (hqueue : s.toConfig = message :: queue) (hr : s.config.runs message = some r) :
    r ∈ s.config.callbackState.live := by
  refine registered_of_owned hs ?_
  simp only [owned, Multiset.mem_add, Multiset.mem_coe, List.mem_filterMap]
  cases message with
  | runCallback callbackRef =>
      cases hr
      rw [CallsCovered, hqueue] at hc
      rcases hc.head rfl with hbound | ⟨m, hm, hforgotten⟩
      · exact .inl (.inl (.inl (.inl hbound.mem_boundRefs)))
      · exact .inl (.inl (.inr ⟨m, by rw [hqueue]; exact List.mem_cons_of_mem _ hm,
          hforgotten⟩))
  | startup =>
      simp only [ConfigState.runs] at hr
      exact .inl (.inr (by simp [hr]))
  | connectorChange outputs =>
      simp only [ConfigState.runs] at hr
      exact .inr (by simp [hr])
  | shutdown | forgetCallback | extraEnv | spawn => cases hr

/-- Whatever the two threads do, the next message to the config thread runs a
registered callback if it runs any, so that no call is answered with an unknown
reference; and no reference is handed out twice. -/
theorem callbacks_registered
    (h : Machine.ReachableUnder (system I overflowChecks) (Unwrapped overflowChecks) s) :
    (∀ message queue, s.toConfig = message :: queue →
      (∀ r, s.config.runs message = some r → r ∈ s.config.callbackState.live) ∧
      ∀ config effects r, s.config.handleMessage I message ≠
        .ok (config, effects, .error (.unknownCallback r))) ∧
    s.issued.Nodup := by
  have hs := reachable_sound h
  have hc := reachable_covered h
  refine ⟨fun message queue hqueue => ⟨fun r hr => runs_registered hs hc hqueue hr, ?_⟩,
    (reachable_numbered h).nodup⟩
  intro config effects r hhandle
  obtain ⟨r', hruns, hgone⟩ := (ConfigState.handleMessage_eq_ok hhandle).2.2 r rfl
  exact hgone (runs_registered hs hc hqueue hruns)

def mapsControlF1 : Script plainLua :=
  .call .mapKey [.table [(.string "key", .string "f1"), (.string "mods", .string "ctrl"),
    (.string "callback", .function "f")]] fun _ => .done ()

/-- The configuration is run, its action registers the callback, the input
thread binds it, and Control and F1 are pressed. -/
theorem controlF1_called :
    ∃ s : Link plainLua controlF1,
      Machine.ReachableUnder (system (plainInterpreter fun _ => mapsControlF1) true)
        (Unwrapped true) s ∧
      s.toConfig = [.runCallback ⟨1⟩] := by
  refine ⟨_, .step (.step (.step (.step (.step
    (.init ⟨[], false, .inr rfl, rfl⟩)
    (i := LinkAction.userConfig []) (.inl rfl) (.userConfig rfl rfl))
    (i := LinkAction.idle .all) (.inl rfl) (.idle rfl rfl rfl rfl))
    (i := LinkAction.inputMessage none) (.inl rfl) (.inputMessage rfl))
    (i := LinkAction.key ⟨37, .pressed, 0⟩) (.inl rfl) .key)
    (i := LinkAction.key ⟨67, .pressed, 0⟩) (.inl rfl) .key, ?_⟩
  rfl

theorem callbacks_registered_controlF1 :
    ∃ s : Link plainLua controlF1,
      s.toConfig = [.runCallback ⟨1⟩] ∧ ⟨1⟩ ∈ s.config.callbackState.live := by
  obtain ⟨s, hs, hqueue⟩ := controlF1_called
  exact ⟨s, hqueue, ((callbacks_registered hs).1 _ _ hqueue).1 _ rfl⟩

end Link

end Scape.Config
