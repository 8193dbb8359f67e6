import Scape.Display.Render
import Scape.Proofs.OutputLayout
import Scape.Proofs.SpaceNames

/-!
# What is shown while the session is locked

A lock screen has a surface for some of the outputs. It is there from a lock that is granted
to the next unlock, it begins with no surface at all, and a client that makes a surface for
an output replaces the one that the output had.

The display state is one of these lock screens, whatever else happens to it, and what is
rendered is read off it: while the session is locked an output shows the surface that the
lock screen has for it, or nothing, and otherwise no surface of a lock. The screen copies and
the video streams are filled from the same frame. Neither windows nor layers nor the cursor
leave the compositor by any of the three.
-/

namespace Scape.Display

open Scape Fallible

/-- The surface of each output, while there is a lock. -/
abbrev LockScreen := Option (SmithayOutput → Option LockSurface)

/-- What an event does to the lock screen. A lock that is asked for while the client of
another one is alive is not granted. -/
def LockScreen.next (screen : LockScreen) (i : World × Event) : LockScreen :=
  match i.2 with
  | .lock .lock => if screen.isSome && i.1.lockClientAlive then screen else some fun _ => none
  | .lock .unlock => none
  | .lock (.newSurface surface wlOutput) =>
      match screen, i.1.fromResource wlOutput with
      | some shown, some output => some (Function.update shown output (some surface))
      | screen, _ => screen
  | _ => screen

/-- The lock screen that the events of a run lead to. -/
def LockScreen.after (is : List (World × Event)) : LockScreen := is.foldl LockScreen.next none

/-- What an output shows of a lock screen. -/
def LockScreen.elements (shown : SmithayOutput → Option LockSurface) (output : SmithayOutput) :
    List OutputRenderElements :=
  (shown output).toList.map .waylandSurface

def SessionLock.shown (sessionLock : SessionLock) (output : SmithayOutput) :
    Option LockSurface :=
  (sessionLock.surfaces.find? fun entry => entry.1 = output).map Prod.snd

namespace State

variable {s t : State} {W : World} {e : Event}

/-- The lock screen of a state. -/
def lockScreen (s : State) : LockScreen := s.sessionLock.map SessionLock.shown

theorem isSome_lockScreen (s : State) : s.lockScreen.isSome = s.locked := Option.isSome_map

/-! ## The state is a lock screen -/

theorem lock_lockScreen : (s.lock W).lockScreen = s.lockScreen.next (W, .lock .lock) := by
  show _ = if s.lockScreen.isSome && W.lockClientAlive then _ else _
  rw [isSome_lockScreen, lock]
  split
  · rfl
  · rfl

theorem unlock_lockScreen : s.unlock.lockScreen = none := by
  rw [unlock]
  dsimp only
  split <;> rfl

/-- The surface of an output is replaced, and those of the others are kept. -/
theorem shown_insert (surfaces : List (SmithayOutput × LockSurface)) (output : SmithayOutput)
    (surface : LockSurface) :
    SessionLock.shown ⟨(output, surface) :: surfaces.filter fun entry => entry.1 ≠ output⟩ =
      Function.update (SessionLock.shown ⟨surfaces⟩) output (some surface) := by
  funext other
  by_cases he : other = output
  · subst he
    rw [Function.update_self, SessionLock.shown, List.find?_cons_of_pos (by simp)]
    rfl
  · rw [Function.update_of_ne he, SessionLock.shown, SessionLock.shown,
      List.find?_cons_of_neg (by simpa using Ne.symm he), List.find?_filter]
    congr 2
    funext entry
    by_cases hentry : entry.1 = other
    · simp [hentry, he]
    · simp [hentry]

theorem newLockSurface_lockScreen {surface : LockSurface} {wlOutput : WlOutput} :
    (s.newLockSurface W surface wlOutput).lockScreen =
      s.lockScreen.next (W, .lock (.newSurface surface wlOutput)) := by
  have hscreen : s.lockScreen = s.sessionLock.map SessionLock.shown := rfl
  rw [newLockSurface, LockScreen.next]
  dsimp only
  cases hlock : s.sessionLock with
  | none =>
      rw [hlock] at hscreen
      dsimp only
      rw [hscreen]
      rfl
  | some sessionLock =>
      rw [hlock] at hscreen
      cases W.fromResource wlOutput with
      | none =>
          dsimp only
          rw [hscreen]
          rfl
      | some output =>
          dsimp only
          rw [hscreen]
          exact congrArg some (shown_insert sessionLock.surfaces output surface)

/-- Each step does to the lock screen what its event says, and nothing else does. -/
theorem step_lockScreen (h : s.step W e = .ok t) : t.lockScreen = s.lockScreen.next (W, e) := by
  by_cases he : ∃ i, e = .lock i
  · obtain ⟨i, rfl⟩ := he
    cases h
    cases i with
    | lock => exact lock_lockScreen
    | unlock => exact unlock_lockScreen
    | newSurface => exact newLockSurface_lockScreen
  · have hkept : t.lockScreen = s.lockScreen :=
      congrArg (Option.map SessionLock.shown) (step_leaves (not_exists.mp he) t h).sessionLock
    rw [hkept]
    cases e with
    | lock i => exact absurd ⟨i, rfl⟩ he
    | _ => rfl

theorem run_lockScreen {is : List (World × Event)} (h : run next State.new is = .ok t) :
    t.lockScreen = .after is :=
  run_simulates (R := fun s screen => s.lockScreen = screen)
    (fun hs hstep => hs ▸ step_lockScreen hstep) rfl h

end State

/-! ## What is rendered -/

/-- An output shows what the lock screen has for it, or no surface of a lock. -/
def LockScreen.Shows (screen : LockScreen) (output : SmithayOutput)
    (elements : List OutputRenderElements) : Prop :=
  match screen with
  | some shown => elements = LockScreen.elements shown output
  | none => ∀ surface, .waylandSurface surface ∉ elements

/-- Nor does a copy or a stream show anything else. -/
structure LockScreen.ShownOn (screen : LockScreen) (output : SmithayOutput)
    (rendered : Rendered) : Prop where
  elements : screen.Shows output rendered.elements
  copies : ∀ copy ∈ rendered.copies, screen.Shows output copy.2
  streams : ∀ stream ∈ rendered.streams, screen.Shows output stream.2

variable {R : RenderWorld} {output : SmithayOutput} {space : Space}

theorem outputElements_shows {customElements : List CustomRenderElements}
    {showWindowPreview : Bool} {s : State} :
    s.lockScreen.Shows output
      (outputElements R output space customElements showWindowPreview s.sessionLock) := by
  rw [State.lockScreen]
  cases s.sessionLock with
  | some sessionLock =>
      show sessionLockElements output sessionLock =
        ((sessionLock.surfaces.find? _).map Prod.snd).toList.map _
      rw [sessionLockElements]
      split
      next surface hfound => rw [hfound]; rfl
      next hnone => rw [hnone]; rfl
  | none =>
      intro surface hmem
      rw [outputElements, List.mem_append, List.mem_append, List.mem_map, List.mem_map] at hmem
      rcases hmem with (⟨_, -, he⟩ | hpreview) | ⟨_, -, he⟩
      · cases he
      · split at hpreview
        · obtain ⟨_, -, he⟩ := List.mem_map.mp hpreview
          cases he
        · cases hpreview
      · cases he

namespace RenderState

variable {r r' : RenderState} {rendered : Rendered}

theorem pointerElements_state {geometry : Rectangle}
    {customElements : List CustomRenderElements}
    (h : r.pointerElements R geometry = .ok (r', customElements)) : r'.state = r.state := by
  rw [pointerElements] at h
  split at h
  · obtain ⟨scaled, -, hrest⟩ := bind_eq_ok_iff.mp h
    obtain ⟨timed, -, hdone⟩ := bind_eq_ok_iff.mp hrest
    cases hdone
    rfl
  · cases h
    rfl

theorem renderSurface_shows (h : r.renderSurface R output space = .ok (r', some rendered)) :
    r.state.lockScreen.ShownOn output rendered := by
  rw [renderSurface] at h
  obtain ⟨geometry, -, hrest⟩ := bind_eq_ok_iff.mp h
  obtain ⟨⟨u, customElements⟩, hpointer, hdone⟩ := bind_eq_ok_iff.mp hrest
  dsimp only at hdone
  rw [← pointerElements_state hpointer]
  split at hdone
  · cases hdone
    refine ⟨outputElements_shows, fun copy hcopy => ?_, fun stream hstream => ?_⟩
    · obtain ⟨_, -, rfl⟩ := List.mem_map.mp hcopy
      exact outputElements_shows
    · obtain ⟨_, -, rfl⟩ := List.mem_map.mp hstream
      exact outputElements_shows
  · cases hdone

theorem renderSurfaceCrtc_shows (h : r.renderSurfaceCrtc R output = .ok (r', some rendered)) :
    r.state.lockScreen.ShownOn output rendered := by
  rw [renderSurfaceCrtc] at h
  split at h
  · cases h
  · obtain ⟨space, -, hrest⟩ := bind_eq_ok_iff.mp h
    exact renderSurface_shows hrest

theorem renderWindow_shows (h : r.renderWindow R = .ok (r', some rendered)) :
    ∃ output, r.state.outputs.values.head? = some output ∧
      r.state.lockScreen.ShownOn output rendered := by
  rw [renderWindow] at h
  obtain ⟨output, houtput, hrest⟩ := bind_eq_ok_iff.mp h
  obtain ⟨spaceName, -, hrest⟩ := bind_eq_ok_iff.mp hrest
  obtain ⟨space, -, hdone⟩ := bind_eq_ok_iff.mp hrest
  refine ⟨output, expect_eq_ok_iff.mp houtput, ?_⟩
  dsimp only at hdone
  split at hdone
  · cases hdone
    exact ⟨outputElements_shows, fun _ hcopy => absurd hcopy List.not_mem_nil,
      fun _ hstream => absurd hstream List.not_mem_nil⟩
  · cases hdone

/-- After every run, what either backend renders of an output, for the screen, for a copy of it
or for a stream, is what the lock screen has for it, which the lock events of the run alone
decide. -/
theorem renders_lockScreen (is : List (World × Event)) (r r' : RenderState)
    (hrun : run State.next State.new is = .ok r.state) (R : RenderWorld) (rendered : Rendered) :
    (∀ output, r.renderSurfaceCrtc R output = .ok (r', some rendered) →
      (LockScreen.after is).ShownOn output rendered) ∧
    (r.renderWindow R = .ok (r', some rendered) →
      ∃ output, r.state.outputs.values.head? = some output ∧
        (LockScreen.after is).ShownOn output rendered) := by
  rw [← State.run_lockScreen hrun]
  exact ⟨fun _ => renderSurfaceCrtc_shows, renderWindow_shows⟩

/-- Where every `wl_output` is the panel. -/
def onPanel : World := { World.quiet with fromResource := fun _ => some State.panel }

/-- The panel is laid out, a window opens, and the session is locked. -/
def lockEvents : List (World × Event) :=
  [(onPanel, .connectorConnected "eDP-1" ⟨1920, 1080⟩),
    (onPanel, .message (.setLayout (State.panelLayout "main" []))),
    (onPanel, .xdg (.newToplevel ⟨0⟩)), (onPanel, .lock .lock),
    (onPanel, .lock (.newSurface ⟨7⟩ ⟨0⟩))]

/-- The cursor is hidden, and every window is on every output. -/
def lockWorld : RenderWorld where
  theme := ⟨fun _ => none, []⟩
  overflowChecks := false
  now := ⟨0⟩
  hotspot := fun _ => ⟨0, 0⟩
  surfaceAlive := fun _ => true
  elementsForOutput := fun space _ => space.windows
  spaceRenderElements := fun space _ => space.windows.map .element
  fps := none
  rendersFrame := true

def hiddenCursor : CursorState where
  status := .hidden
  images := fun _ => none
  size := 24
  scale := ⟨1, 1⟩
  pointerImages := []
  buffer := none
  time := ⟨0⟩
  nearestImagesLoaded := true
  nearestImages := []
  totalDelay := 0

/-- The panel shows the surface of the lock, and not the window; so does a stream of it. -/
theorem lockEvents_shown :
    ∃ (s : State) (rendered : Rendered) (r' : RenderState),
      run State.next State.new lockEvents = .ok s ∧ s.spaces.first.windows ≠ [] ∧
        RenderState.renderSurfaceCrtc lockWorld ⟨s, hiddenCursor, none, false, [], [⟨42⟩]⟩
          State.panel = .ok (r', some rendered) ∧
        rendered.elements = [.waylandSurface ⟨7⟩] ∧
        rendered.streams.map Prod.fst = [⟨42⟩] ∧
        ∀ stream ∈ rendered.streams, stream.2 = [.waylandSurface ⟨7⟩] := by
  have hshown := (renders_lockScreen lockEvents ⟨_, hiddenCursor, none, false, [], [⟨42⟩]⟩ _ rfl
    lockWorld _).1 State.panel rfl
  exact ⟨_, _, _, rfl, List.cons_ne_nil _ _, rfl, hshown.elements, rfl, hshown.streams⟩

end RenderState

end Scape.Display
