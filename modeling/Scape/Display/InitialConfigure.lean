import Scape.Display.XdgShell

/-!
# The initial configure

`ensure_initial_configure` of `shell.rs`. It ends every commit: what the surface is the
root of, a toplevel, a popup or a layer, is sent its initial configure, if it has not been
sent yet.

Each role of a surface keeps data of its own with the surface, and in there a flag that
says that the initial configure has been sent. smithay sets it with the first configure. A
surface has one role, for good, and no data of another.

`LayerMap::arrange`, which may tell a layer its new size, is left out.
-/

namespace Scape.Display

open Scape Fallible

/-- The roles that are sent configures. -/
inductive Role where
  | toplevel
  | popup
  | layer
  deriving DecidableEq, Repr

/-- `initial_configure_sent`, in the data of each role. -/
structure RoleData where
  /-- `XdgToplevelSurfaceData` -/
  xdgToplevel : Option Bool
  /-- `XdgPopupSurfaceData` -/
  xdgPopup : Option Bool
  /-- `LayerSurfaceData` -/
  layer : Option Bool
  deriving DecidableEq, Repr

/-- When the role is given. -/
def RoleData.new : Role → RoleData
  | .toplevel => ⟨some false, none, none⟩
  | .popup => ⟨none, some false, none⟩
  | .layer => ⟨none, none, some false⟩

inductive PopupKind where
  | xdg
  | inputMethod
  deriving DecidableEq, Repr

/-- `LayerMap::layer_for_surface`, by the root surface. -/
def layerForSurface (layers : List LayerSurface) (surface : WlSurface) : Option LayerSurface :=
  layers.find? fun layer => layer.surface = surface

/-- The data of the surface afterwards, and whether a configure was sent. Of an input
method's popup nothing is asked. For a layer the flag is looked up in the data of a
toplevel. -/
def ensureInitialConfigure (W : World) (findPopup : WlSurface → Option PopupKind)
    (layersOf : SmithayOutput → List LayerSurface) (space : Space) (surface : WlSurface)
    (data : RoleData) : RoleData × Bool :=
  match space.windows.find? fun window => W.surfaceOf window = some surface with
  | some window =>
      match window.kind with
      | .wayland _ =>
          if data.xdgToplevel = some true then (data, false)
          else ({ data with xdgToplevel := some true }, true)
      | _ => (data, false)
  | none =>
      match findPopup surface with
      | some .inputMethod => (data, false)
      | some .xdg =>
          if data.xdgPopup = some true then (data, false)
          else ({ data with xdgPopup := some true }, true)
      | none =>
          match space.outputs.find? fun mapped =>
            (layerForSurface (layersOf mapped.1) surface).isSome with
          | none => (data, false)
          | some _ =>
              if data.xdgToplevel.getD false then (data, false)
              else ({ data with layer := some true }, true)

/-- `CompositorHandler::commit` with what it sends. -/
def State.commitConfigure (W : World) (findPopup : WlSurface → Option PopupKind) (s : State)
    (surface : WlSurface) (data : RoleData) : Except Panic (State × RoleData × Bool) := do
  let s ← s.commitOffset W surface
  let spaceName ← expect .activeSpace (s.surfaceSpace surface)
  let space ← expect .space (s.spaces.get? spaceName)
  let configured := ensureInitialConfigure W findPopup s.layersOf space surface data
  return ((s.ensureSurfaceData surface).handleToplevelCommit W surface, configured)

end Scape.Display
