import Scape.Lib.Machine
import Scape.Lib.Assoc
import Scape.Lib.Fifo
import Scape.Lib.Ledger
import Scape.Lib.Segments
import Scape.Lib.Numeral
import Scape.Lib.Traverse
import Scape.Shared.Message
import Scape.Shared.Comms
import Scape.Input.Keymap
import Scape.Input.Keyboard
import Scape.Config.Lua
import Scape.Config.Callback
import Scape.Config.State
import Scape.Config.Link
import Scape.Main.Shutdown
import Scape.Wayland.Schema
import Scape.Wayland.Macro
import Scape.Wayland.Names
import Scape.Proofs.GeneratedCode
import Scape.Proofs.Shortcuts
import Scape.Proofs.ItemNames
import Scape.Proofs.KeyNames
import Scape.Proofs.KeyPairing
import Scape.Proofs.CallbackOwners
import Scape.Proofs.CallbackSafety
import Scape.Proofs.CallbackLeak
import Scape.Proofs.ConfigSurvival
import Scape.Proofs.ShutdownOnce
import Scape.Proofs.LostWakeup
import Scape.Proofs.Discriminants
import Scape.Wayland.Client
import Scape.Proofs.ClientStream
import Scape.Proofs.ClientIsolation
import Scape.Lib.EventLoop
import Scape.Display.Loop
import Scape.Proofs.DisplayStall
import Scape.Config.Loop
import Scape.Proofs.IdleStranding
import Scape.Display.Frame
import Scape.Proofs.FrameScheduling
import Scape.Display.InitialRender
import Scape.Proofs.InitialRetries
import Scape.Lib.Registry
import Scape.Lib.Stack
import Scape.Lib.Topmost
import Scape.Display.Space
import Scape.Display.State
import Scape.Display.Scene
import Scape.Display.Constraint
import Scape.Display.Composition
import Scape.Lib.Fallible
import Scape.Display.XdgShell
import Scape.Display.Resize
import Scape.Display.XwaylandShell
import Scape.Display.Input
import Scape.Display.Machine
import Scape.Display.Hotplug
import Scape.Display.Screencopy
import Scape.Proofs.Effects
import Scape.Proofs.RequestEffects
import Scape.Proofs.StepEffects
import Scape.Proofs.SuppressedKeys
import Scape.Proofs.SurfaceLookup
import Scape.Proofs.FocusEffects
import Scape.Proofs.SessionLock
import Scape.Proofs.HitTesting
import Scape.Proofs.HitTranslation
import Scape.Proofs.ScreenLimits
import Scape.Proofs.PointerConstraints
import Scape.Proofs.PointerFocus
import Scape.Proofs.PositionHint
import Scape.Proofs.ResizeAnchor
import Scape.Proofs.ResizeLifeCycle
import Scape.Proofs.ResizeLimits
import Scape.Proofs.DeviceSetUp
import Scape.Proofs.RequestSafety
import Scape.Proofs.ZoneConfiguration
import Scape.Proofs.ZonePlacement
import Scape.Proofs.OutputLayout
import Scape.Proofs.WindowExclusion
import Scape.Proofs.FocusMapped
import Scape.Proofs.OutputHotplug
import Scape.Proofs.OutputStart
import Scape.Proofs.ScreencopyEvents
import Scape.Proofs.ScreencopyContents
import Scape.Proofs.StackOrder
import Scape.Proofs.FocusAgreement
import Scape.Proofs.DebugWindow
import Scape.Display.Portals
import Scape.Proofs.PortalSessions
import Scape.Display.Commands
import Scape.Proofs.CommandRoutes
import Scape.Proofs.CloseFocused
import Scape.Display.InitialConfigure
import Scape.Proofs.ConfigureOnce
import Scape.Proofs.ActiveSpace
import Scape.Display.Maximize
import Scape.Proofs.MaximizeRestore
import Scape.Display.Layout
import Scape.Proofs.LayoutOrder
import Scape.Display.Position
import Scape.Proofs.PositionLimits
import Scape.Lib.Binary64
import Scape.Display.Cursor
import Scape.Proofs.CursorCache
import Scape.Proofs.CursorFrames
import Scape.Display.Egui
import Scape.Proofs.EguiKeys
import Scape.Proofs.SpaceNames
import Scape.Proofs.ThreadSurvival
import Scape.Proofs.SpaceLookups
import Scape.Display.Render
import Scape.Lib.Handles
import Scape.Input.Devices
import Scape.Display.Desk
import Scape.Display.Pipewire
import Scape.Proofs.DarkScreen
import Scape.Proofs.VideoStreams
import Scape.Proofs.KeyboardLeds
import Scape.Proofs.LockScreen
import Scape.Lib.Naming
import Scape.Proofs.KeyCalls
import Scape.Lib.Pairing
import Scape.Proofs.OutputSurfaces
import Scape.Lib.Levels
import Scape.Proofs.Restacking
import Scape.Proofs.LuaRuns
import Scape.Proofs.CommandOrder
import Scape.Renderer.State
import Scape.Renderer.Handover
import Scape.Proofs.FileHandover
import Scape.Display.Boot
import Scape.Proofs.StartupOnce
