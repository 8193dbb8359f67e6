import Scape.Display.Boot
import Scape.Proofs.IdleStranding
import Scape.Proofs.OutputStart

/-!
# The startup callback runs once

`check_readyness` latches: the flag goes up with the message, and never comes down. What
takes an argument is when its two conditions come true. XWayland's is set by one handler, which
gives up before if the window manager or its cursor fails. The other is set by an idle action
that `start_outputs` queues only if it meets no output that has been started. For the first
layout that is so whatever outputs there are, and one action is all that is needed.
-/

namespace Scape.Display

open Scape Fallible
open Scape.Config (ConfigError ConfigState Interpreter Mlua)

namespace Hotplug

variable {s t : Hotplug} {e : HotplugEvent} {W : World} {laid attached : Prop}

/-- What the two conditions come to, given whether there has been a layout and whether XWayland
has come up. -/
structure Latched (laid attached : Prop) (s : Hotplug) : Prop where
  called : s.readyState.onReadyCalled = (s.readyState.backendReady && s.readyState.xwaylandReady)
  startups : s.startups = if s.readyState.onReadyCalled then 1 else 0
  xwayland : s.readyState.xwaylandReady = true ↔ attached
  backend : 0 < s.idles ∨ s.readyState.backendReady = true ↔ laid
  unstarted : ¬ laid → s.startedOutputs = ∅

/-- A step that neither condition knows of. -/
structure Unnoticed (s t : Hotplug) : Prop where
  readyState : t.readyState = s.readyState
  startups : t.startups = s.startups
  idles : t.idles = s.idles
  startedOutputs : t.startedOutputs = s.startedOutputs

theorem Latched.unnoticed (h : Latched laid attached s) (ht : Unnoticed s t) :
    Latched laid attached t where
  called := by rw [ht.readyState]; exact h.called
  startups := by rw [ht.readyState, ht.startups]; exact h.startups
  xwayland := by rw [ht.readyState]; exact h.xwayland
  backend := by rw [ht.readyState, ht.idles]; exact h.backend
  unstarted := by rw [ht.startedOutputs]; exact h.unstarted

theorem unnoticed_refl (s : Hotplug) : Unnoticed s s := ⟨rfl, rfl, rfl, rfl⟩

/-! ## Devices and connectors -/

theorem addDevice_unnoticed {node : Nat} {answers : DeviceAnswers} :
    Unnoticed s (s.addDevice node answers).1 := by
  unfold addDevice
  split
  · exact unnoticed_refl s
  split
  · exact unnoticed_refl s
  split
  · exact unnoticed_refl s
  dsimp only
  split
  · exact ⟨rfl, rfl, rfl, rfl⟩
  · rw [insertBackend, dropSurfaces_eq]
    exact ⟨rfl, rfl, rfl, rfl⟩

theorem connectorConnected_unnoticed {node crtc : Nat} {connector : Connector}
    {answers : ConnectorAnswers} :
    Unnoticed s (s.connectorConnected node connector crtc answers).1 := by
  unfold connectorConnected
  split
  next => exact unnoticed_refl s
  next =>
    split
    · exact ⟨rfl, rfl, rfl, rfl⟩
    split
    · exact unnoticed_refl s
    dsimp only
    split
    · exact ⟨rfl, rfl, rfl, rfl⟩
    split
    · exact ⟨rfl, rfl, rfl, rfl⟩
    · rw [addSurface, dropSurfaces_eq]
      exact ⟨rfl, rfl, rfl, rfl⟩

theorem connectorDisconnected_unnoticed {node crtc : Nat} {connector : Connector} :
    Unnoticed s (s.connectorDisconnected node connector crtc) := by
  unfold connectorDisconnected
  split
  next => exact unnoticed_refl s
  next =>
    split
    · exact ⟨rfl, rfl, rfl, rfl⟩
    · dsimp only
      split <;> rw [dropSurfaces_eq] <;> exact ⟨rfl, rfl, rfl, rfl⟩

theorem removeBackend_unnoticed {node : Nat} : Unnoticed s (s.removeBackend node) := by
  unfold removeBackend
  split
  next => exact unnoticed_refl s
  next =>
    dsimp only
    rw [dropSurfaces_eq]
    exact ⟨rfl, rfl, rfl, rfl⟩

/-! ## The latch -/

theorem checkReadyness_cases (s : Hotplug) :
    (s.readyState.onReadyCalled = false ∧ s.readyState.backendReady = true ∧
      s.readyState.xwaylandReady = true ∧
      s.checkReadyness = { s with
        readyState := { s.readyState with onReadyCalled := true }
        startups := s.startups + 1 }) ∨
    ((s.readyState.onReadyCalled = true ∨
        (s.readyState.backendReady && s.readyState.xwaylandReady) = false) ∧
      s.checkReadyness = s) := by
  unfold checkReadyness
  obtain ⟨backendReady, xwaylandReady, onReadyCalled⟩ := s.readyState
  cases backendReady <;> cases xwaylandReady <;> cases onReadyCalled <;> simp

theorem startups_le_checkReadyness (s : Hotplug) : s.startups ≤ s.checkReadyness.startups := by
  rcases s.checkReadyness_cases with ⟨-, -, -, heq⟩ | ⟨-, heq⟩ <;> rw [heq]
  exact Nat.le_succ _

theorem startups_le_xwaylandReady (s : Hotplug) : s.startups ≤ s.xwaylandReady.startups :=
  startups_le_checkReadyness { s with
    readyState := { s.readyState with xwaylandReady := true } }

theorem startups_le_runIdle (s : Hotplug) : s.startups ≤ s.runIdle.startups := by
  unfold runIdle
  split
  next => exact le_rfl
  next idles hidles =>
    exact startups_le_checkReadyness { s with
      idles := idles
      readyState := { s.readyState with backendReady := true } }

/-- The check makes up for a condition that has come true. -/
theorem Latched.check (h : Latched laid attached s) {laid' attached' : Prop}
    (hcalled : t.readyState.onReadyCalled = s.readyState.onReadyCalled)
    (hbackend : s.readyState.backendReady = true → t.readyState.backendReady = true)
    (hxwayland : s.readyState.xwaylandReady = true → t.readyState.xwaylandReady = true)
    (hstartups : t.startups = s.startups)
    (hattached : t.readyState.xwaylandReady = true ↔ attached')
    (hlaid : 0 < t.idles ∨ t.readyState.backendReady = true ↔ laid')
    (hunstarted : ¬ laid' → t.startedOutputs = ∅) : Latched laid' attached' t.checkReadyness := by
  rcases t.checkReadyness_cases with ⟨hnot, hb, hx, heq⟩ | ⟨hdone, heq⟩ <;> rw [heq]
  · refine ⟨?_, ?_, hattached, hlaid, hunstarted⟩
    · simp [hb, hx]
    · simp [hstartups, h.startups, ← hcalled, hnot]
  · refine ⟨?_, ?_, hattached, hlaid, hunstarted⟩
    · rcases hdone with hdone | hnot
      · have hboth := h.called.symm.trans (hcalled.symm.trans hdone)
        obtain ⟨hb, hx⟩ := Bool.and_eq_true_iff.mp hboth
        rw [hdone, hbackend hb, hxwayland hx]
        rfl
      · rw [hnot, hcalled, h.called]
        by_contra hboth
        obtain ⟨hb, hx⟩ := Bool.and_eq_true_iff.mp (Bool.not_eq_false _ ▸ hboth)
        rw [hbackend hb, hxwayland hx] at hnot
        cases hnot
    · rw [hstartups, h.startups, hcalled]

theorem Latched.xwaylandReady (h : Latched laid attached s) :
    Latched laid True s.xwaylandReady :=
  h.check rfl id (fun _ => rfl) rfl (iff_of_true rfl trivial) h.backend h.unstarted

theorem Latched.runIdle (h : Latched laid attached s) : Latched laid attached s.runIdle := by
  unfold Hotplug.runIdle
  split
  next => exact h
  next idles hidles =>
    have hlaid : laid := h.backend.mp (.inl (by rw [hidles]; exact Nat.succ_pos idles))
    exact h.check rfl (fun _ => rfl) id rfl h.xwayland (iff_of_true (.inr rfl) hlaid)
      fun hnot => absurd hlaid hnot

/-! ## Layouts -/

theorem idles_le_startLoop (s : Hotplug) (outputs : List SmithayOutput) :
    s.idles ≤ (s.startLoop outputs).idles := by
  induction outputs generalizing s with
  | nil => exact Nat.le_succ _
  | cons output outputs ih =>
      rw [startLoop]
      split
      · exact le_rfl
      · exact ih { s with
          startedOutputs := insert output s.startedOutputs
          started := s.started ++ [output] }

theorem setLayout_ready (s : Hotplug) (spaces : HashMap String (List Output)) :
    (s.setLayout W spaces).readyState = s.readyState ∧
    (s.setLayout W spaces).startups = s.startups := by
  rw [setLayout, startOutputs, startLoop_eq]
  exact ⟨rfl, rfl⟩

/-- The first layout has an action queued, whatever outputs there are. -/
theorem Latched.setLayout (hs : s.Numbered) (h : Latched laid attached s)
    (spaces : HashMap String (List Output)) : Latched True attached (s.setLayout W spaces) := by
  obtain ⟨hready, hstartups⟩ := s.setLayout_ready (W := W) spaces
  refine ⟨?_, ?_, ?_, iff_of_true ?_ trivial, fun hnot => absurd trivial hnot⟩
  · rw [hready]
    exact h.called
  · rw [hready, hstartups]
    exact h.startups
  · rw [hready]
    exact h.xwayland
  rw [hready]
  by_cases hlaid : laid
  · refine (h.backend.mpr hlaid).imp_left fun hidle => hidle.trans_le ?_
    exact idles_le_startLoop { s with display := s.display.setLayout W spaces } _
  · have hnodup : (s.display.setLayout W spaces).outputs.values.Nodup := by
      rw [(State.setLayout_laysOut (W := W) hs.named spaces).outputs]
      exact values_nodup hs.named
    have hidles := (startLoop_idles_iff (s := { s with
      display := s.display.setLayout W spaces }) hnodup).mpr fun output _ => by
        show output ∉ s.startedOutputs
        rw [h.unstarted hlaid]
        exact Finset.notMem_empty output
    exact .inl (by rw [Hotplug.setLayout, startOutputs, hidles]; exact Nat.succ_pos _)

/-! ## What happens by itself -/

theorem Latched.apply (h : Latched laid attached s) (he : Own e) :
    Latched laid attached (s.apply e) ∧ s.startups ≤ (s.apply e).startups := by
  have hunnoticed : Unnoticed s (s.apply e) →
      Latched laid attached (s.apply e) ∧ s.startups ≤ (s.apply e).startups :=
    fun hsame => ⟨h.unnoticed hsame, hsame.startups.ge⟩
  cases e with
  | addDevice node answers => exact hunnoticed addDevice_unnoticed
  | scanEvent node event =>
      cases event with
      | connected connector crtc answers => exact hunnoticed connectorConnected_unnoticed
      | disconnected connector crtc => exact hunnoticed connectorDisconnected_unnoticed
  | removeBackend node => exact hunnoticed removeBackend_unnoticed
  | rehash outputs => exact hunnoticed ⟨rfl, rfl, rfl, rfl⟩
  | runIdle => exact ⟨h.runIdle, startups_le_runIdle s⟩
  | setLayout | startOutputs | xwaylandReady => exact he.elim

theorem own_numbered (hs : s.Numbered) (hadmits : s.Admits e) : (s.apply e).Numbered :=
  (step_replaces hs ⟨hadmits, rfl⟩).numbered hs

theorem SameOutputs.numbered {display : State} (h : s.SameOutputs display) (hs : s.Numbered) :
    Numbered { s with display } := by
  intro name output hlookup
  have hold := hs name output (h.1 ▸ hlookup)
  exact ⟨hold.1, h.2.symm ▸ hold.2⟩

end Hotplug

namespace Boot

open Hotplug

variable {M : Mlua} {I : Interpreter M} {overflowChecks : Bool} {s t : Boot M}
  {action : BootAction} {trace : List (Boot M × BootAction)}

/-- The hook that the config thread looks at in a step, when it gets `Startup`. -/
def hooks (s : Boot M) : BootAction → List (Option CallbackRef)
  | .configMessage =>
      (s.toConfig.head?.toList.filter IsStartup).map fun _ => s.config.onStartup
  | _ => []

/-- A layout is handled. -/
def LaysOut (s : Boot M) : BootAction → Prop
  | .message _ => ∃ message ∈ s.toDisplay.head?, IsLayout message
  | _ => False

/-- XWayland comes up, with a window manager that has its cursor. -/
def Attaches (_ : Boot M) : BootAction → Prop
  | .xwayland (.ready _ wmStarted cursorSet) => wmStarted = true ∧ cursorSet = true
  | _ => False

/-- The invariant of the two threads. `hooked` counts the messages that have been handled. -/
structure Booting (hooked : Nat) (laid attached : Prop) (s : Boot M) : Prop where
  numbered : s.display.Numbered
  latched : s.display.Latched laid attached
  sent : hooked + (s.toConfig.filter IsStartup).length = s.display.startups

variable {hooked : Nat} {laid attached : Prop}

theorem Booting.display (h : Booting hooked laid attached s) {display : Hotplug}
    {laid' attached' : Prop} (hnumbered : display.Numbered)
    (hlatched : display.Latched laid' attached')
    (hle : s.display.startups ≤ display.startups) :
    Booting hooked laid' attached' { s with
      display := display
      toConfig := s.toConfig ++ s.display.sent display } := by
  refine ⟨hnumbered, hlatched, ?_⟩
  have hall : (s.display.sent display).filter IsStartup = s.display.sent display :=
    List.filter_eq_self.mpr fun message hmem => by rw [List.eq_of_mem_replicate hmem]; rfl
  have hlength : (s.display.sent display).length = display.startups - s.display.startups :=
    List.length_replicate
  have hsent := h.sent
  show hooked + ((s.toConfig ++ s.display.sent display).filter IsStartup).length =
    display.startups
  rw [List.filter_append, hall, List.length_append, hlength]
  omega

/-- The display thread's outputs and conditions stay what they are. -/
theorem Booting.same (h : Booting hooked laid attached s) (hdisplay : t.display = s.display)
    (hsent : (t.toConfig.filter IsStartup).length = (s.toConfig.filter IsStartup).length) :
    Booting hooked laid attached t :=
  ⟨hdisplay ▸ h.numbered, hdisplay ▸ h.latched, by rw [hdisplay, hsent]; exact h.sent⟩

/-- A step in which none of the three happens. -/
theorem Booting.quiet (h : Booting hooked laid attached t) (hhooks : s.hooks action = [])
    (hlaid : ¬ LaysOut s action) (hattached : ¬ Attaches s action) :
    Booting (hooked + (s.hooks action).length) (laid ∨ LaysOut s action)
      (attached ∨ Attaches s action) t := by
  rw [hhooks, eq_false hlaid, eq_false hattached, or_false, or_false]
  exact h

theorem Booting.xwaylandEvent (h : Booting hooked laid attached s) (e : XWaylandEvent) :
    Booting hooked laid (attached ∨ Attaches s (.xwayland e)) (s.xwaylandEvent e) := by
  cases e with
  | error =>
      rw [eq_false (show ¬ Attaches s (.xwayland .error) from id), or_false]
      exact h.same rfl rfl
  | ready displayNumber wmStarted cursorSet =>
      rw [Boot.xwaylandEvent]
      split
      next hwm =>
        have hnot : ¬ Attaches s (.xwayland (.ready displayNumber wmStarted cursorSet)) :=
          fun hboth => by simp [hboth.1] at hwm
        rw [eq_false hnot, or_false]
        exact h
      split
      next hcursor =>
        have hnot : ¬ Attaches s (.xwayland (.ready displayNumber wmStarted cursorSet)) :=
          fun hboth => by simp [hboth.2] at hcursor
        rw [eq_false hnot, or_false]
        exact h
      next hwm hcursor =>
        have hattaches : Attaches s (.xwayland (.ready displayNumber wmStarted cursorSet)) :=
          ⟨by simpa using hwm, by simpa using hcursor⟩
        rw [eq_true hattaches, or_true]
        have hnumbered : s.display.xwaylandReady.Numbered :=
          (step_replaces (e := .xwaylandReady) h.numbered ⟨trivial, rfl⟩).numbered h.numbered
        exact (h.display hnumbered h.latched.xwaylandReady
          (startups_le_xwaylandReady _)).same rfl rfl

theorem Step.booting (h : Booting hooked laid attached s)
    (hstep : Step I overflowChecks s action t) :
    Booting (hooked + (s.hooks action).length) (laid ∨ LaysOut s action)
      (attached ∨ Attaches s action) t := by
  cases hstep with
  | turn | toDisplay =>
      refine Booting.quiet ?_ rfl id id
      exact h.same rfl rfl
  | @configMessage message queue config effects result hqueue hhandled =>
      have hlength : (s.hooks .configMessage).length = ([message].filter IsStartup).length := by
        rw [hooks, hqueue]
        exact List.length_map _
      have hsent := h.sent
      rw [hqueue, ← List.singleton_append, List.filter_append, List.length_append] at hsent
      rw [eq_false (show ¬ LaysOut s .configMessage from id),
        eq_false (show ¬ Attaches s .configMessage from id), or_false, or_false, hlength]
      exact ⟨h.numbered, h.latched, (Nat.add_assoc ..).trans hsent⟩
  | @toConfig message hother =>
      refine Booting.quiet (h.same rfl ?_) rfl id id
      show ((s.toConfig ++ [message]).filter IsStartup).length = _
      rw [List.filter_append, List.filter_cons_of_neg (Bool.eq_false_iff.mp hother)]
      exact congrArg List.length (List.append_nil _)
  | @layout W spaces queue hqueue =>
      have hlaysOut : LaysOut s (.message W) := ⟨.setLayout spaces, by rw [hqueue]; rfl, trivial⟩
      obtain ⟨-, hstartups⟩ := s.display.setLayout_ready (W := W) spaces
      rw [eq_true hlaysOut, or_true, eq_false (show ¬ Attaches s (.message W) from id), or_false]
      refine ⟨?_, h.latched.setLayout h.numbered spaces, h.sent.trans hstartups.symm⟩
      exact (step_replaces (e := .setLayout W spaces) h.numbered ⟨trivial, rfl⟩).numbered
        h.numbered
  | @message W message queue display hqueue hother hsame =>
      refine Booting.quiet ?_ rfl (fun hlaid => ?_) id
      · exact ⟨hsame.numbered h.numbered, h.latched.unnoticed ⟨rfl, rfl, rfl, rfl⟩, h.sent⟩
      · obtain ⟨first, hfirst, hlayout⟩ := hlaid
        rw [hqueue] at hfirst
        cases hfirst
        exact hother hlayout
  | @event display hsame =>
      refine Booting.quiet ?_ rfl id id
      exact ⟨hsame.numbered h.numbered, h.latched.unnoticed ⟨rfl, rfl, rfl, rfl⟩, h.sent⟩
  | @hotplug e howner hadmits =>
      obtain ⟨hlatched, hle⟩ := h.latched.apply howner
      refine Booting.quiet ?_ rfl id id
      exact h.display (own_numbered h.numbered hadmits) hlatched hle
  | @xwayland e =>
      rw [eq_false (show ¬ LaysOut s (.xwayland e) from id), or_false]
      exact h.xwaylandEvent e

/-! ## Whole runs -/

/-- What has happened in a run happened before its last step or in it. -/
theorem exists_append_iff {happens : Boot M → BootAction → Prop} :
    (∃ p ∈ trace ++ [(s, action)], happens p.1 p.2) ↔
      (∃ p ∈ trace, happens p.1 p.2) ∨ happens s action := by
  simp [or_and_right, exists_or]

theorem run_booting (h : Machine.Run (system I overflowChecks) trace s) :
    Booting (trace.flatMap fun p => p.1.hooks p.2).length (∃ p ∈ trace, LaysOut p.1 p.2)
      (∃ p ∈ trace, Attaches p.1 p.2) s := by
  induction h with
  | @init s hstart =>
      obtain ⟨peers, env, sent, -, hdisplay, hqueue, -⟩ := hstart
      have hnone : ∀ {happens : Boot M → BootAction → Prop},
          ¬ ∃ p ∈ ([] : List (Boot M × BootAction)), happens p.1 p.2 := by simp
      have hfresh : Machine.Reachable Hotplug.system fresh := .init fresh_initial
      refine ⟨?_, ⟨?_, ?_, ?_, ?_, ?_⟩, ?_⟩
      · rw [hdisplay]
        exact reachable_numbered hfresh
      · rw [hdisplay]
        rfl
      · rw [hdisplay]
        rfl
      · rw [hdisplay]
        exact iff_of_false nofun hnone
      · rw [hdisplay]
        exact iff_of_false nofun hnone
      · rw [hdisplay]
        exact fun _ => rfl
      · rw [hdisplay, hqueue]
        rfl
  | step hrun hstep ih =>
      rw [List.flatMap_append, List.flatMap_singleton, List.length_append,
        propext exists_append_iff, propext exists_append_iff]
      exact hstep.booting ih

/-- In every run, `Startup` is sent once both conditions have come true, and then never again,
and the config thread looks at its hook once for it. XWayland's condition comes true when it is
up with a window manager; the other when the loop gets to what the first layout has queued. -/
theorem startup_once (h : Machine.Run (system I overflowChecks) trace s) :
    (trace.flatMap fun p => p.1.hooks p.2).length + (s.toConfig.filter IsStartup).length =
      (if s.display.readyState.backendReady && s.display.readyState.xwaylandReady then 1 else 0) ∧
    (s.display.readyState.xwaylandReady = true ↔ ∃ p ∈ trace, Attaches p.1 p.2) ∧
    (0 < s.display.idles ∨ s.display.readyState.backendReady = true ↔
      ∃ p ∈ trace, LaysOut p.1 p.2) := by
  have hbooting := run_booting h
  refine ⟨?_, hbooting.latched.xwayland, hbooting.latched.backend⟩
  rw [hbooting.sent, hbooting.latched.startups, hbooting.latched.called]

/-- Has a function for the startup, and a layout without spaces. -/
def startupScript : Config.Script Config.plainLua :=
  .call .onStartup [.function "autostart"] fun _ => .call .setLayout [.table []] fun _ => .done ()

/-- The layout and XWayland, and the function is called. -/
theorem startup_once_autostart :
    ∃ (trace : List (Boot Config.plainLua × BootAction)) (s : Boot Config.plainLua),
      Machine.Run (system (Config.plainInterpreter fun _ => startupScript) true) trace s ∧
      (trace.flatMap fun p => p.1.hooks p.2) = [some ⟨1⟩] ∧
      (trace.flatMap fun p => p.1.hooks p.2).length + (s.toConfig.filter IsStartup).length =
        if s.display.readyState.backendReady && s.display.readyState.xwaylandReady then 1
        else 0 := by
  obtain ⟨config, sent, hnew⟩ : ∃ config sent, ConfigState.new
      (Config.plainInterpreter fun _ => startupScript) true .all Config.oneFile =
        .ok (config, sent) := ⟨_, _, rfl⟩
  have hstart : Starts (Config.plainInterpreter fun _ => startupScript) true
      ⟨config, .fresh, some ⟨false, none⟩, [], []⟩ := ⟨_, _, _, hnew, rfl, rfl, rfl⟩
  have h₀ : Machine.Run (system (Config.plainInterpreter fun _ => startupScript) true) []
      ⟨config, .fresh, some ⟨false, none⟩, [], []⟩ := .init hstart
  cases hnew
  have h₁ := h₀.step (@Step.turn _ _ _ _ .all .idle _ _ _ (fun _ => nofun) rfl)
  have h₂ := h₁.step (@Step.turn _ _ _ _ .all .idle _ _ _ (fun _ => nofun) rfl)
  have h₃ := h₂.step (.layout (W := .quiet) rfl)
  have h₄ := h₃.step (.hotplug (e := .runIdle) trivial trivial)
  have h₅ := h₄.step (.xwayland (e := .ready 1 true true))
  have h₆ := h₅.step (.configMessage rfl rfl)
  exact ⟨_, _, h₆, rfl, (startup_once h₆).1⟩

end Boot

end Scape.Display
