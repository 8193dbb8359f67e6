import Scape.Display.State

/-!
# Placing windows and laying out outputs

The functions of `composition.rs`: where a window goes, which window a command
focuses, and which outputs are mapped in which space; with them the two ends of an
output, which a connector brings and takes, and the look-ups a render begins with.

An output keeps the space it was first mapped in as its active space. The map of the
spaces may come to be iterated in another order when a layout names a new one.
-/

namespace Scape.Display

open Scape Fallible

/-- `HashMap::retain` by value. -/
def HashMap.retain {κ ν : Type} (m : HashMap κ ν) (p : ν → Bool) : HashMap κ ν :=
  ⟨m.entries.filter fun entry => p entry.2, m.nodupKeys.sublist List.filter_sublist⟩

namespace State

variable (W : World)

/-! ## Windows -/

/-- The name of the zone a window is placed by, if it is placed by one. -/
def zoneFor (s : State) (window : WorkspaceWindow) (zone : Option String) : Option String :=
  match zone with
  | some zoneName => some zoneName
  | none =>
      match s.windowRules.lookup (W.appId window) with
      | some rule => some rule.zone
      | none => s.defaultZone

def placement (s : State) (window : WorkspaceWindow) (zone : Option String) :
    Except Panic Rectangle :=
  match s.zoneFor W window zone with
  | some zoneName => do
      let zone ← expect (.zone zoneName) (s.zones.lookup zoneName)
      return ⟨⟨zone.x, zone.y⟩, zone.width, zone.height⟩
  | none => .ok ⟨⟨100, 100⟩, 2560, 1440⟩

def placeWindow (s : State) (spaceName : String) (window : WorkspaceWindow)
    (zone : Option String) : Except Panic State := do
  let _ ← expect .space (s.spaces.get? spaceName)
  let rect ← s.placement W window zone
  return s.modifySpace spaceName fun space => space.mapElement W.zIndex window rect.loc

def setZone (s : State) (zone : Zone) : State :=
  { s with
    defaultZone := if zone.default then some zone.name else s.defaultZone
    zones := s.zones.insert zone.name zone }

/-- The zones are cleared first. The default zone is not. -/
def setZones (s : State) (zones : List Zone) : State :=
  zones.foldl setZone { s with zones := ∅ }

def addWindowRule (s : State) (windowRule : WindowRule) : State :=
  { s with windowRules := s.windowRules.insert windowRule.appId windowRule }

/-- A space that is missing is logged. -/
def focusWindow (s : State) (window : WorkspaceWindow) (spaceName : String) : State :=
  match s.spaces.get? spaceName with
  | none => s
  | some _ =>
      (s.modifySpace spaceName fun space => space.raiseElement W.zIndex window).setFocus
        (.window window)

/-- The loop of `focus_window_by_app_id`, over the windows from the top: the first
match, but if that is the topmost window, the last one. -/
def findByAppId (appId : String) (i : Nat) (windowResult : Option WorkspaceWindow)
    (last : Bool) : List WorkspaceWindow → Option WorkspaceWindow
  | [] => windowResult
  | window :: windows =>
      if W.appId window = appId then
        if i = 0 then findByAppId appId (i + 1) (some window) true windows
        else if last then findByAppId appId (i + 1) (some window) last windows
        else some window
      else findByAppId appId (i + 1) windowResult last windows

def focusWindowByAppId (s : State) (appId : String) : State × Bool :=
  match findByAppId W appId 0 none false s.spaces.first.windows.reverse with
  | some window => (s.focusWindow W window s.spaces.firstKey, true)
  | none => (s, false)

/-! ## Outputs -/

/-- `get_or_insert_threadsafe(|| ActiveSpace(..))`. -/
def activate (s : State) (output : SmithayOutput) (spaceName : String) : State :=
  match s.activeSpace output with
  | some _ => s
  | none => { s with activeSpace := Function.update s.activeSpace output (some spaceName) }

/-- One round of the loop over the outputs of a space. An unknown output is
logged. -/
def mapConfigOutput (spaceName : String) (s : State) (configOutput : Output) : State :=
  match s.outputs.lookup configOutput.name with
  | none => s
  | some output =>
      (s.modifySpace spaceName fun space =>
        space.mapOutput output ⟨configOutput.x, configOutput.y⟩).activate output spaceName

def listed (configOutputs : List Output) (name : String) : Bool :=
  configOutputs.any fun configOutput => configOutput.name = name

/-- The loop that cleans up no longer mapped outputs. -/
def unmapUnlisted (s : State) (spaceName : String) (configOutputs : List Output) : State :=
  s.outputs.entries.foldl
    (fun s entry =>
      if listed configOutputs entry.1 then s
      else s.modifySpace spaceName fun space => space.unmapOutput entry.2) s

/-- One round of the loop over the spaces of a layout. -/
def layoutSpace (s : State) (spaceName : String) (configOutputs : List Output) : State :=
  (configOutputs.foldl (mapConfigOutput spaceName)
    { s with spaces := s.spaces.ensure spaceName .empty }).unmapUnlisted spaceName configOutputs

def setLayout (s : State) (spaces : HashMap String (List Output)) : State :=
  let t := spaces.entries.foldl (fun s entry => s.layoutSpace entry.1 entry.2) s
  if t.spaces.keys.length = s.spaces.keys.length then t
  else { t with spaces := t.spaces.reorder (W.order t.spaces.keys) (W.order_perm _) }

/-- The end of `connector_connected`. -/
def connectorConnected (s : State) (outputName : String) (mode : Mode) : State :=
  { s with
    outputs := s.outputs.insert outputName ⟨s.nextOutput, outputName, mode⟩
    nextOutput := s.nextOutput + 1 }

/-- The end of `connector_disconnected`. The output stays mapped where it is. -/
def connectorDisconnected (s : State) (output : SmithayOutput) : State :=
  { s with outputs := HashMap.retain s.outputs (· ≠ output) }

/-- The way of `render_surface_crtc` to the geometry in `render_surface`. -/
def renderSurface (s : State) (output : SmithayOutput) : Except Panic Unit :=
  match s.activeSpace output with
  | none => .ok ()
  | some spaceName => do
      let space ← expect .space (s.spaces.get? spaceName)
      let _ ← expect .outputGeometry (space.outputGeometry output)
      return ()

end State

end Scape.Display
