import Scape.Display.Space
import Scape.Lib.Registry
import Scape.Lib.Fallible

/-!
# The state of the display modules, and the world around it

`State` is what the display modules keep, as far as one of them decides anything by
it. The modules ask smithay, the clients and the hardware all the time: which window
lies under a point, which surface an X11 window has, whether a grab is active. The
answers they get in one step are a `World`; the next step may meet another one. Where
an answer is bound by what the state is, the world carries the law.

`State.spaces` always has an entry, since the first one is there from the start and
none is ever removed. `focus_set` belongs to nobody: it records what the code has
given the keyboard or the pointer to since the session was last locked.
-/

namespace Scape.Display

structure PopupSurface where
  id : Nat
  deriving DecidableEq, Repr

structure LockSurface where
  id : Nat
  deriving DecidableEq, Repr

structure LayerSurface where
  id : Nat
  surface : WlSurface
  deriving DecidableEq, Repr

structure WlOutput where
  id : Nat
  deriving DecidableEq, Repr

inductive Layer where
  | background
  | bottom
  | top
  | overlay
  deriving DecidableEq, Repr

/-- A window is one kind of target here; the source tells those of egui apart. -/
inductive KeyboardFocusTarget where
  | window (window : WorkspaceWindow)
  | layerSurface (layer : LayerSurface)
  | popup (popup : PopupSurface)
  | lockScreen (surface : LockSurface)
  deriving DecidableEq, Repr

inductive PointerFocusTarget where
  | wlSurface (surface : WlSurface)
  | x11Surface (surface : X11Surface)
  | ssd (window : WorkspaceWindow)
  | egui (window : WorkspaceWindow)
  deriving DecidableEq, Repr

inductive FocusTarget where
  | keyboard (target : KeyboardFocusTarget)
  | pointer (target : PointerFocusTarget)
  deriving DecidableEq, Repr

/-- `grab_start_data`: whether the grab began on a surface of the client that asks,
the touch point, and where. -/
structure GrabStartData where
  sameClient : Bool
  slot : Nat
  location : Point
  deriving DecidableEq, Repr

/-- Whose grab is active. A grab of smithay's may pass on what is under the pointer,
and it may hold it back. -/
inductive GrabOwner where
  | nobody
  | smithay (passes : Bool)
  | compositor
  deriving DecidableEq, Repr

structure World where
  appId : WorkspaceWindow → String
  alive : WorkspaceWindow → Bool
  zIndex : WorkspaceWindow → Nat
  /-- the size a window has given itself -/
  windowSize : WorkspaceWindow → Int × Int
  /-- the limits that it has set for it, zero for none -/
  minSize : WorkspaceWindow → Int × Int
  maxSize : WorkspaceWindow → Int × Int
  wlSurface : X11Surface → Option WlSurface
  overrideRedirect : X11Surface → Bool
  /-- whether `set_mapped` works -/
  mapsX11 : X11Surface → Bool
  x11Maximized : X11Surface → Bool
  x11Location : X11Surface → Point
  xwaylandRunning : Bool
  /-- where a window's bounding box begins, from its location -/
  bboxOffset : WorkspaceWindow → Point
  /-- the iteration order of a `HashMap` that has got a new key -/
  order : List String → List String
  order_perm : ∀ names, (order names).Perm names
  /-- the first value of the outputs -/
  anyOutput : List SmithayOutput → Option SmithayOutput
  anyOutput_isSome : ∀ outputs, (anyOutput outputs).isSome ↔ outputs ≠ []
  outputsForElement : Space → WorkspaceWindow → List SmithayOutput
  elementUnder : Space → Point → Option WorkspaceWindow
  elementUnder_mem : ∀ space point window,
    elementUnder space point = some window → window ∈ space.windows
  /-- the surface of a window under a point -/
  surfaceUnder : WorkspaceWindow → Point → Option PointerFocusTarget
  /-- of a layer map, the surface under a point on a layer -/
  layerUnder : List LayerSurface → Layer → Point → Option LayerSurface
  layerUnder_mem : ∀ layers layer point surface,
    layerUnder layers layer point = some surface → surface ∈ layers
  layerSurfaceUnder : LayerSurface → Point → Option WlSurface
  canReceiveKeyboardFocus : LayerSurface → Bool
  /-- exclusive keyboard interactivity -/
  exclusive : LayerSurface → Bool
  layer : LayerSurface → Layer
  pointerGrab : GrabOwner
  touchGrab : GrabOwner
  /-- a pointer constraint keeps the pointer where it is -/
  pointerHeld : Bool
  keyboardGrabbed : Bool
  inputMethodGrabbed : Bool
  hasTouch : Bool
  /-- the event ends the grab of the pointer -/
  grabReleased : Bool
  /-- of the pointer's grab, if there is one -/
  pointerStart : Option GrabStartData
  /-- of the pointer's grab, if it is the one the request names -/
  pointerGrabStart : Option GrabStartData
  touchGrabStart : Option GrabStartData
  fromResource : WlOutput → Option SmithayOutput
  clientOutputs : SmithayOutput → List WlOutput
  maximizable : WlSurface → Bool
  fullscreenable : WlSurface → Bool
  maximized : WlSurface → Bool
  fullscreen : WlSurface → Bool
  bufferDelta : WlSurface → Option Point
  syncSubsurface : WlSurface → Bool
  rootSurface : WlSurface → WlSurface
  popupRoot : PopupSurface → Option WlSurface
  /-- `grab_popup` and the test of the keyboard's grab let the popup grab -/
  popupGrabs : Bool
  /-- the popup on top; the root has the focus if there is none -/
  currentPopup : Option PopupSurface
  lockClientAlive : Bool

/-- Every place the modelled functions can panic at. -/
inductive Panic where
  | space
  | zone (name : String)
  | window
  | noOutput
  | outputGeometry
  | elementLocation
  | activeSpace
  | surfaceData
  | grabStartData
  | fullscreenOutput
  | clamp
  | todo
  deriving DecidableEq, Repr

/-- `Resizing`, the one resize state that is ever entered. -/
structure ResizeData where
  left : Bool
  top : Bool
  initialWindowLocation : Point
  initialWindowSize : Int × Int
  deriving DecidableEq, Repr

structure SurfaceState where
  resizing : Option ResizeData
  deriving DecidableEq, Repr

inductive GrabKind where
  | move (initialWindowLocation : Point)
  | resize
  deriving DecidableEq, Repr

/-- The four surface grabs. Those of the pointer know the space of the window. -/
structure SurfaceGrab where
  startData : GrabStartData
  window : WorkspaceWindow
  spaceName : Option String
  kind : GrabKind
  deriving DecidableEq, Repr

structure SessionLock where
  surfaces : List (SmithayOutput × LockSurface)
  deriving DecidableEq, Repr

structure State where
  outputs : HashMap String SmithayOutput
  /-- `ActiveSpace` in the data of an output -/
  activeSpace : SmithayOutput → Option String
  spaces : Registry String Space
  zones : HashMap String Zone
  defaultZone : Option String
  windowRules : HashMap String WindowRule
  sessionLock : Option SessionLock
  layerSurfaces : List LayerSurface
  /-- the layer map of each output -/
  layerMaps : List (SmithayOutput × LayerSurface)
  /-- `ActiveSpace` in the data of a surface -/
  surfaceSpace : WlSurface → Option String
  surfaceData : WlSurface → Option SurfaceState
  fullscreenOutput : WlSurface → Option WlOutput
  oldGeometry : X11Surface → Option Point
  pointerLocation : Point
  /-- what the pointer was last said to be over; it gets it when a grab ends -/
  pendingFocus : Option PointerFocusTarget
  pointerGrab : Option SurfaceGrab
  touchGrab : Option SurfaceGrab
  keyboardFocus : Option KeyboardFocusTarget
  focusSet : List FocusTarget
  debugUi : Option WorkspaceWindow
  /-- the next identity of a window -/
  nextWindow : Nat
  /-- the next identity of an output -/
  nextOutput : Nat

namespace State

/-- `State::new`. -/
def new : State where
  outputs := ∅
  activeSpace := fun _ => none
  spaces := ⟨["main"], fun _ => .empty, List.nodup_singleton _, List.cons_ne_nil _ _⟩
  zones := ∅
  defaultZone := none
  windowRules := ∅
  sessionLock := none
  layerSurfaces := []
  layerMaps := []
  surfaceSpace := fun _ => none
  surfaceData := fun _ => none
  fullscreenOutput := fun _ => none
  oldGeometry := fun _ => none
  pointerLocation := ⟨0, 0⟩
  pendingFocus := none
  pointerGrab := none
  touchGrab := none
  keyboardFocus := none
  focusSet := []
  debugUi := none
  nextWindow := 0
  nextOutput := 0

def locked (s : State) : Bool := s.sessionLock.isSome

def modifySpace (s : State) (name : String) (f : Space → Space) : State :=
  { s with spaces := s.spaces.modify name f }

/-- `keyboard.set_focus`. -/
def setFocus (s : State) (target : KeyboardFocusTarget) : State :=
  { s with keyboardFocus := some target, focusSet := .keyboard target :: s.focusSet }

/-- The pointer enters what it is given, if it is given anything. -/
def setPointerFocus (s : State) (target : Option PointerFocusTarget) : State :=
  { s with focusSet := (target.map FocusTarget.pointer).toList ++ s.focusSet }

def freshWindow (s : State) (kind : WindowKind) : WorkspaceWindow × State :=
  (⟨s.nextWindow, kind⟩, { s with nextWindow := s.nextWindow + 1 })

end State

/-- `WorkspaceWindow::wl_surface`. -/
def World.surfaceOf (W : World) (window : WorkspaceWindow) : Option WlSurface :=
  match window.kind with
  | .wayland surface => some surface
  | .x11 surface => W.wlSurface surface
  | .egui => none

namespace State

variable (W : World)

/-- The iterator yields one result for each space, and only the first is taken. -/
def windowAndSpaceForSurface (s : State) (surface : WlSurface) :
    Option (WorkspaceWindow × String) :=
  (s.spaces.first.windows.find? fun window => W.surfaceOf window = some surface).map
    fun window => (window, s.spaces.firstKey)

/-- `space_of_window`, which asks the spaces one after the other. -/
def spaceOfWindow (s : State) (window : WorkspaceWindow) : Option String :=
  s.spaces.keys.findSome? fun name =>
    ((s.spaces.value name).windows.find? fun w => w = window).map fun _ => name

/-- The layer map of an output. -/
def layersOf (s : State) (output : SmithayOutput) : List LayerSurface :=
  (s.layerMaps.filter fun entry => entry.1 = output).map Prod.snd

variable {W} {s : State} {surface : WlSurface} {window : WorkspaceWindow} {name : String}

theorem windowAndSpaceForSurface_eq_some
    (h : s.windowAndSpaceForSurface W surface = some (window, name)) :
    name = s.spaces.firstKey ∧ window ∈ s.spaces.first.windows := by
  simp only [windowAndSpaceForSurface, Option.map_eq_some_iff, Prod.mk.injEq] at h
  obtain ⟨_, hfind, rfl, rfl⟩ := h
  exact ⟨rfl, List.mem_of_find?_eq_some hfind⟩

end State

end Scape.Display
