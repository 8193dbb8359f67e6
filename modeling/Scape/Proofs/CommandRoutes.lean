import Scape.Display.Commands
import Scape.Proofs.StackOrder
import Scape.Proofs.StepEffects

/-!
# Two routes for one command

Five commands exist as an action and as a message. What one of them does is compared by the
state that it ends in and by what it has done outside, where a program counts as started
whichever thread starts it.

The routes differ in two things. An action is not executed while the session is locked, and
a message is. And the action that focuses an app or starts it has no arguments to start it
with, and starts it itself. `routes_agree_iff` says for which states and commands this makes
no difference.

First, both dispatchers do to the state what they do in `Machine.lean` (`execute_refines`,
`handleDisplayMessage_refines`).
-/

namespace Scape.Display

open Scape Fallible

namespace Compositor

variable {W : World} {H : Host} {c d : Compositor} {action : Action} {message : DisplayMessage}

/-! ## The state -/

/-- What is left of a message to the config thread. -/
theorem config_cases (H : Host) (c : Compositor) (message : ConfigMessage) :
    (H.peers.module .config = true ∧
      c.config H message = .ok (c.log (.send (.config message)))) ∨
    (H.peers.module .config = false ∧
      (c.config H message = .ok (c.log (.send (.main .shutdown))) ∨
        c.config H message = .error .lostMain)) := by
  rw [config, Comms.send]
  dsimp only [Envelope.module]
  cases H.peers.module .config with
  | true => exact .inl ⟨rfl, rfl⟩
  | false =>
      cases H.peers.main with
      | true => exact .inr ⟨rfl, .inl rfl⟩
      | false => exact .inr ⟨rfl, .inr rfl⟩

/-- How far the start of a stream gets. -/
theorem startVideoStream_cases (H : Host) (c : Compositor) :
    ((c.pipewire <|> H.newPipewire) = none ∧ c.startVideoStream H = .ok c) ∨
    ∃ pipewire, (c.pipewire <|> H.newPipewire) = some pipewire ∧
      ((c.backendData ≠ .udev ∧ c.startVideoStream H = .error .noGbmDevice) ∨
      (c.backendData = .udev ∧
        (∀ gbmDevice, c.primaryGbm = some gbmDevice →
          H.startVideoStream pipewire gbmDevice = none) ∧
        c.startVideoStream H = .ok { c with pipewire := some pipewire }) ∨
      (c.backendData = .udev ∧ ∃ gbmDevice stream, c.primaryGbm = some gbmDevice ∧
        H.startVideoStream pipewire gbmDevice = some stream ∧
        c.startVideoStream H = .ok { c with
          pipewire := some pipewire
          nodeId := stream.nodeId
          videoStreams := c.videoStreams ++ [stream] })) := by
  cases hpipewire : c.pipewire <|> H.newPipewire with
  | none =>
      refine .inl ⟨rfl, ?_⟩
      rw [startVideoStream, hpipewire]
  | some pipewire =>
      refine .inr ⟨pipewire, rfl, ?_⟩
      rw [startVideoStream, hpipewire]
      dsimp only [gbmDevice]
      cases hbackend : c.backendData with
      | none => exact .inl ⟨fun he => (by cases he), rfl⟩
      | winit => exact .inl ⟨fun he => (by cases he), rfl⟩
      | udev =>
          cases hgbm : c.primaryGbm with
          | none => exact .inr (.inl ⟨rfl, fun _ he => (by cases he), rfl⟩)
          | some gbmDevice =>
              dsimp only [bind, Except.bind]
              cases hstream : H.startVideoStream pipewire gbmDevice with
              | none =>
                  refine .inr (.inl ⟨rfl, ?_, rfl⟩)
                  intro other he
                  cases he
                  exact hstream
              | some stream => exact .inr (.inr ⟨rfl, gbmDevice, stream, rfl, hstream, rfl⟩)

theorem execute_locked (hlocked : c.state.locked = true) (hne : ∀ vt, action ≠ .vtSwitch vt) :
    c.execute W H action = .ok c := by
  rw [execute.eq_def, hlocked]
  cases action with
  | vtSwitch vt => exact absurd rfl (hne vt)
  | _ => rfl

end Compositor

/-! ## The routes -/

/-- A command that is there as an action and as a message, with the arguments of both. -/
inductive Command where
  | vtSwitch (vt : Int)
  | moveWindow (window : Option Nat) (zone : String)
  | close
  | focusOrSpawn (appId command : String) (args : List String)
  | startVideoStream
  deriving DecidableEq, Repr

def Command.action : Command → Action
  | .vtSwitch vt => .vtSwitch vt
  | .moveWindow window zone => .moveWindow window zone
  | .close => .close
  | .focusOrSpawn appId command _ => .focusOrSpawn appId command
  | .startVideoStream => .startVideoStream

def Command.message : Command → DisplayMessage
  | .vtSwitch vt => .vtSwitch vt
  | .moveWindow _ zone => .moveCurrentWindowToZone zone
  | .close => .closeCurrentWindow
  | .focusOrSpawn appId command args => .focusOrSpawn appId command args
  | .startVideoStream => .startVideoStream

/-- The config thread starts what it is told to, with these arguments. -/
def Effect.outcome : Effect → Effect
  | .send (.config (.spawn command args)) => .spawn command args
  | e => e

namespace Compositor

variable {W : World} {H : Host} {c d : Compositor} {command : Command} {e : Effect}
  {failure : Failure}

def outcome (c : Compositor) : Compositor := { c with effects := c.effects.map Effect.outcome }

def SameEffect (x y : Except Failure Compositor) : Prop := x.map outcome = y.map outcome

/-- A stream can neither be started nor be prepared for. -/
def NoStream (H : Host) (c : Compositor) : Prop :=
  (c.pipewire = none ∧ H.newPipewire = none) ∨
    ∃ pipewire, c.pipewire = some pipewire ∧ c.backendData = .udev ∧
      ∀ gbmDevice, c.primaryGbm = some gbmDevice → H.startVideoStream pipewire gbmDevice = none

/-- Where it makes no difference which of the routes a command takes. -/
def Agrees (W : World) (H : Host) (c : Compositor) : Command → Prop
  | .vtSwitch _ => True
  | .moveWindow _ _ =>
      c.state.locked → ∀ window, c.state.keyboardFocus ≠ some (.window window)
  | .close => c.state.locked → c.state.spaces.first.windows = []
  | .focusOrSpawn appId _ args =>
      c.state.locked = false ∧
        (c.state.windowsOf W appId ≠ [] ∨ args = [] ∧ H.peers.module .config = true)
  | .startVideoStream => c.state.locked → c.NoStream H

theorem sameEffect_refl (x : Except Failure Compositor) : SameEffect x x := rfl

theorem sameEffect_ok : SameEffect (.ok c) (.ok d) ↔ c.outcome = d.outcome :=
  ⟨fun h => Except.ok.inj h, fun h => congrArg Except.ok h⟩

theorem not_sameEffect_error : ¬ SameEffect (.ok c) (.error failure) :=
  fun h => by cases h

/-- One more thing has been done outside. -/
theorem outcome_ne_log {s : State} : c.outcome ≠ ({ c with state := s }.log e).outcome := by
  intro h
  have heffects : c.effects.map Effect.outcome = (e :: c.effects).map Effect.outcome :=
    congrArg Compositor.effects h
  rw [List.map_cons] at heffects
  exact List.cons_ne_self _ _ heffects.symm

theorem outcome_ne_state {s : State} (hne : c.state ≠ s) :
    c.outcome ≠ { c with state := s }.outcome :=
  fun h => hne (congrArg Compositor.state h)

/-! ## What a message does while the session is locked -/

theorem placeWindow_differs {window : WorkspaceWindow} {zone : Option String} :
    ¬ SameEffect (.ok c) (c.placeWindow W H window zone) := by
  rw [placeWindow]
  split
  · exact not_sameEffect_error
  · cases c.state.placeWindow W c.state.spaces.firstKey window zone with
    | error panic => exact not_sameEffect_error
    | ok s =>
        intro h
        exact outcome_ne_log (sameEffect_ok.mp h)

theorem moveCurrentWindow_same_iff {zoneName : String} :
    SameEffect (.ok c) (c.moveCurrentWindow W H zoneName) ↔
      ∀ window, c.state.keyboardFocus ≠ some (.window window) := by
  rw [moveCurrentWindow]
  split
  next window hfocus =>
    exact iff_of_false placeWindow_differs fun h => h window hfocus
  next hother => exact iff_of_true (sameEffect_refl _) hother

theorem closeCurrentWindow_same_iff :
    SameEffect (.ok c) (.ok c.closeCurrentWindow) ↔ c.state.spaces.first.windows = [] := by
  rw [sameEffect_ok, closeCurrentWindow]
  cases hlast : c.state.spaces.first.windows.getLast? with
  | none => exact iff_of_true rfl (List.getLast?_eq_none_iff.mp hlast)
  | some window =>
      have hmem := List.mem_of_getLast? hlast
      refine iff_of_false ?_ (List.ne_nil_of_mem hmem)
      dsimp only
      split
      · refine outcome_ne_state fun hsame => ?_
        have hfirst : c.state.spaces.first = c.state.spaces.first.unmapElem window := by
          have hmodified := congrArg (fun s : State => s.spaces.value c.state.spaces.firstKey) hsame
          exact hmodified.trans (Function.update_self ..)
        rw [hfirst, Space.mem_windows_unmapElem] at hmem
        exact hmem.2 rfl
      · exact outcome_ne_log

theorem noStream_iff {pipewire : Pipewire}
    (hsome : (c.pipewire <|> H.newPipewire) = some pipewire) :
    c.NoStream H ↔ c.pipewire = some pipewire ∧ c.backendData = .udev ∧
      ∀ gbmDevice, c.primaryGbm = some gbmDevice →
        H.startVideoStream pipewire gbmDevice = none := by
  constructor
  · intro h
    obtain hnone | ⟨other, hother, hrest⟩ := h
    · rw [(Option.orElse_eq_none _ _).mpr hnone] at hsome
      cases hsome
    · rw [hother] at hsome
      cases hsome
      exact ⟨hother, hrest⟩
  · intro ⟨hpipewire, hrest⟩
    exact .inr ⟨pipewire, hpipewire, hrest⟩

theorem startVideoStream_same_iff :
    SameEffect (.ok c) (c.startVideoStream H) ↔ c.NoStream H := by
  obtain ⟨hnone, h⟩ | ⟨pipewire, hsome, h⟩ := startVideoStream_cases H c
  · rw [h]
    exact iff_of_true (sameEffect_refl _) (.inl ((Option.orElse_eq_none _ _).mp hnone))
  · rw [noStream_iff hsome]
    obtain ⟨hbackend, h⟩ | ⟨hbackend, hstream, h⟩ | ⟨-, gbmDevice, stream, hgbm, hstream, h⟩ := h
    · rw [h]
      exact iff_of_false not_sameEffect_error fun hnothing => hbackend hnothing.2.1
    · rw [h, sameEffect_ok]
      constructor
      · intro hsame
        exact ⟨congrArg Compositor.pipewire hsame, hbackend, hstream⟩
      · intro ⟨hpipewire, _⟩
        rw [← hpipewire]
    · rw [h, sameEffect_ok]
      refine iff_of_false ?_ ?_
      · intro hsame
        have hstreams : c.videoStreams = c.videoStreams ++ [stream] :=
          congrArg Compositor.videoStreams hsame
        exact List.cons_ne_nil _ _ (List.self_eq_append_right.mp hstreams)
      · intro ⟨_, _, hnothing⟩
        rw [hnothing gbmDevice hgbm] at hstream
        cases hstream

/-- A window of the app is there, and gets the focus, or the state is as it was. -/
theorem focusWindowByAppId_changes (s : State) (appId : String) :
    (s.windowsOf W appId ≠ [] ∧ ∃ t, s.focusWindowByAppId W appId = (t, true) ∧ s ≠ t) ∨
      s.windowsOf W appId = [] ∧ s.focusWindowByAppId W appId = (s, false) := by
  refine (State.focusWindowByAppId_eq s W appId).imp_left ?_
  intro ⟨window, hmem, _, heq⟩
  refine ⟨List.ne_nil_of_mem hmem, _, heq, ?_⟩
  intro hsame
  have hset : s.focusSet = .keyboard (.window window) :: s.focusSet := by
    have hfocus := congrArg State.focusSet hsame
    rw [State.focusWindow, Registry.get?_of_mem s.spaces.firstKey_mem] at hfocus
    exact hfocus
  exact List.cons_ne_self _ _ hset.symm

/-! ## Both routes -/

theorem config_differs {message : ConfigMessage} :
    ¬ SameEffect (.ok c) (c.config H message) := by
  obtain ⟨-, h⟩ | ⟨-, h | h⟩ := config_cases H c message
  · rw [h, sameEffect_ok]
    exact outcome_ne_log
  · rw [h, sameEffect_ok]
    exact outcome_ne_log
  · rw [h]
    exact not_sameEffect_error

theorem log_same_iff {e' : Effect} :
    SameEffect (.ok (c.log e)) (.ok (c.log e')) ↔ e.outcome = e'.outcome := by
  rw [sameEffect_ok]
  constructor
  · intro h
    have heffects : (e :: c.effects).map Effect.outcome = (e' :: c.effects).map Effect.outcome :=
      congrArg Compositor.effects h
    rw [List.map_cons, List.map_cons] at heffects
    exact List.head_eq_of_cons_eq heffects
  · intro h
    rw [outcome, outcome, log, log, List.map_cons, List.map_cons, h]

/-- The program is started by one thread as by the other, if there is the other and there
is nothing that it is started with. -/
theorem spawn_same_iff {program : String} {args : List String} :
    SameEffect (.ok (c.log (.spawn program []))) (c.config H (.spawn program args)) ↔
      args = [] ∧ H.peers.module .config = true := by
  obtain ⟨hconfig, h⟩ | ⟨hgone, h | h⟩ := config_cases H c (.spawn program args)
  · rw [h, log_same_iff, hconfig, and_iff_left rfl]
    constructor
    · intro he
      exact (Effect.spawn.inj he).2.symm
    · rintro rfl
      rfl
  · rw [h, log_same_iff, hgone]
    exact iff_of_false (fun he => by cases he) fun hboth => Bool.false_ne_true hboth.2
  · rw [h, hgone]
    exact iff_of_false not_sameEffect_error fun hboth => Bool.false_ne_true hboth.2

/-- The routes have the same effect exactly where they agree. -/
theorem routes_agree_iff (W : World) (H : Host) (c : Compositor) (command : Command) :
    SameEffect (c.execute W H command.action) (c.handleDisplayMessage W H command.message) ↔
      c.Agrees W H command := by
  cases hlocked : c.state.locked with
  | true =>
      cases command with
      | vtSwitch vt =>
          rw [Command.action, execute.eq_def, hlocked]
          exact iff_of_true (sameEffect_refl _) trivial
      | moveWindow window zone =>
          rw [Command.action, execute_locked hlocked (fun _ he => by cases he), Agrees,
            forall_prop_of_true hlocked]
          exact moveCurrentWindow_same_iff
      | close =>
          rw [Command.action, execute_locked hlocked (fun _ he => by cases he), Agrees,
            forall_prop_of_true hlocked]
          exact closeCurrentWindow_same_iff
      | startVideoStream =>
          rw [Command.action, execute_locked hlocked (fun _ he => by cases he), Agrees,
            forall_prop_of_true hlocked]
          exact startVideoStream_same_iff
      | focusOrSpawn appId program args =>
          rw [Command.action, execute_locked hlocked (fun _ he => by cases he), Agrees, hlocked]
          refine iff_of_false ?_ fun h => Bool.false_ne_true h.1.symm
          rw [Command.message, handleDisplayMessage]
          obtain ⟨-, t, heq, hne⟩ | ⟨-, heq⟩ :=
            focusWindowByAppId_changes (W := W) c.state appId
          · rw [heq, sameEffect_ok]
            exact outcome_ne_state hne
          · rw [heq]
            exact config_differs
  | false =>
      have hunlocked : ¬ c.state.locked = true := by rw [hlocked]; exact Bool.false_ne_true
      rw [execute.eq_def, hlocked, Bool.false_and, if_neg Bool.false_ne_true]
      cases command with
      | vtSwitch vt => exact iff_of_true (sameEffect_refl _) trivial
      | moveWindow | close | startVideoStream =>
          exact iff_of_true (sameEffect_refl _) fun h => absurd h hunlocked
      | focusOrSpawn appId program args =>
          rw [Agrees, hlocked, and_iff_right rfl]
          rw [Command.action, Command.message, handleDisplayMessage]
          dsimp only
          obtain ⟨hfound, t, heq, -⟩ | ⟨hnone, heq⟩ :=
            focusWindowByAppId_changes (W := W) c.state appId
          · rw [heq]
            exact iff_of_true (sameEffect_refl _) (.inl hfound)
          · rw [heq, or_iff_right (not_not.mpr hnone)]
            exact spawn_same_iff

/-! ## Where they differ -/

def idleHost : Host := ⟨.all, fun _ => (800, 600), none, fun _ _ => none⟩

def started : Compositor := ⟨.new, .udev, none, none, [], 0, []⟩

/-- The session is locked while a window is open. -/
def lockedWindow : Compositor :=
  { started with
    state := { State.new with sessionLock := some ⟨[]⟩ }.modifySpace "main" fun space =>
      space.mapElement (fun _ => 0) ⟨0, .wayland ⟨0⟩⟩ ⟨0, 0⟩ }

/-- Behind the lock a message closes the window, and the action does not. In the open the
message starts a program with its argument, and the action without. -/
theorem routes_differ :
    ¬ SameEffect (lockedWindow.execute .quiet idleHost Command.close.action)
      (lockedWindow.handleDisplayMessage .quiet idleHost Command.close.message) ∧
    ¬ SameEffect
      (started.execute .quiet idleHost (Command.focusOrSpawn "org.foot" "foot" ["-F"]).action)
      (started.handleDisplayMessage .quiet idleHost
        (Command.focusOrSpawn "org.foot" "foot" ["-F"]).message) := by
  constructor
  · have hlocked : lockedWindow.execute .quiet idleHost .close = .ok lockedWindow :=
      execute_locked rfl fun _ he => by cases he
    rw [Command.action, hlocked]
    exact closeCurrentWindow_same_iff.not.mpr (by decide)
  · have hspawn : started.execute .quiet idleHost (.focusOrSpawn "org.foot" "foot") =
        .ok (started.log (.spawn "foot" [])) := rfl
    rw [Command.action, hspawn]
    exact spawn_same_iff.not.mpr fun hboth => List.cons_ne_nil _ _ hboth.1

end Compositor

end Scape.Display
