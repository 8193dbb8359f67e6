import Scape.Display.Composition
import Scape.Display.Machine

/-!
# Devices, connectors and outputs

The udev handlers of `udev.rs` set up what an output needs. A device has an event source
and an entry in `backends`; a connector on it has an entry in the surfaces of the device,
a global that clients see, and an output in `outputs`. What the kernel and the GPU answer
decides how far a set-up gets: the functions end early with an error, and what they have
done by then is in the state they end with.

An output is mapped by `set_layout`, which then has the outputs started that are not.

`start_output` and the handlers of a connector unwrap answers of the renderer, which are
taken to be there. The mode of a connector is the preferred one, or its first.
-/

namespace Scape.Display

open Scape Fallible

structure UdevOutputId where
  deviceId : Nat
  crtc : Nat
  deriving DecidableEq, Repr

/-- Of a connector, what its set-up reads. -/
structure Connector where
  handle : Nat
  /-- the name of the interface with its number -/
  outputName : String
  mode : Mode
  deriving DecidableEq, Repr

/-- Of `SurfaceData`, what a hotplug is about. Its `Drop` removes the global. -/
structure Hotplug.SurfaceData where
  global : Nat
  output : SmithayOutput
  deriving DecidableEq, Repr

structure DeviceData where
  registrationToken : Nat
  surfaces : HashMap Nat Hotplug.SurfaceData
  nonDesktopConnectors : List (Nat × Nat)

structure ReadyState where
  backendReady : Bool
  xwaylandReady : Bool
  onReadyCalled : Bool
  deriving DecidableEq, Repr

/-- The display state with the data of the udev backend. The last two fields are of the
event loop and of the hardware: the idle callbacks that wait, and the outputs that
`start_output` has been called for. -/
structure Hotplug where
  display : State
  /-- `UdevOutputId` in the data of an output -/
  outputId : SmithayOutput → Option UdevOutputId
  startedOutputs : Finset SmithayOutput
  backends : HashMap Nat DeviceData
  /-- the `wl_output` globals that are advertised -/
  globals : List Nat
  nextGlobal : Nat
  /-- the sources of the event loop -/
  sources : List Nat
  nextSource : Nat
  readyState : ReadyState
  /-- how often `ConfigMessage::Startup` has been sent -/
  startups : Nat
  idles : Nat
  started : List SmithayOutput

/-- Why a set-up ends early. -/
inductive SetUpError where
  | deviceOpen
  | drmDevice
  | gbmDevice
  | addNode
  | noDevice
  | createSurface
  | getDriver
  | drmCompositor
  deriving DecidableEq, Repr

/-- What is answered while a device is added. -/
structure DeviceAnswers where
  opened : Bool
  drmCreated : Bool
  gbmCreated : Bool
  nodeAdded : Bool
  deriving DecidableEq, Repr

/-- What is answered while a connector is set up. -/
structure ConnectorAnswers where
  nonDesktop : Bool
  surfaceCreated : Bool
  driverFound : Bool
  compositorCreated : Bool
  deriving DecidableEq, Repr

/-- What a scan of the connectors has found, for those that have a CRTC. -/
inductive DrmScanEvent where
  | connected (connector : Connector) (crtc : Nat) (answers : ConnectorAnswers)
  | disconnected (connector : Connector) (crtc : Nat)

namespace Hotplug

/-! ## Parts -/

def insertSource (s : Hotplug) : Nat × Hotplug :=
  (s.nextSource, { s with sources := s.nextSource :: s.sources, nextSource := s.nextSource + 1 })

def createGlobal (s : Hotplug) : Nat × Hotplug :=
  (s.nextGlobal, { s with globals := s.nextGlobal :: s.globals, nextGlobal := s.nextGlobal + 1 })

/-- `SurfaceData::drop`. -/
def dropSurface (s : Hotplug) (surface : SurfaceData) : Hotplug :=
  { s with globals := s.globals.filter (· ≠ surface.global) }

def dropSurfaces (s : Hotplug) (surfaces : List SurfaceData) : Hotplug :=
  surfaces.foldl dropSurface s

/-- A device that was there is dropped, with its surfaces. -/
def insertBackend (s : Hotplug) (node : Nat) (device : DeviceData) : Hotplug :=
  { s with backends := s.backends.insert node device }.dropSurfaces
    ((s.backends.lookup node).elim [] fun old => old.surfaces.values)

def setBackend (s : Hotplug) (node : Nat) (device : DeviceData) : Hotplug :=
  { s with backends := s.backends.insert node device }

/-- The output of the CRTC of a device. -/
def outputFor (s : Hotplug) (node crtc : Nat) : Option SmithayOutput :=
  s.display.outputs.values.find? fun output => s.outputId output = some ⟨node, crtc⟩

/-! ## Connectors -/

/-- The rest of `connector_connected`, once nothing can fail any more. -/
def addSurface (s : Hotplug) (node : Nat) (device : DeviceData) (connector : Connector)
    (crtc : Nat) (surface : SurfaceData) : Hotplug :=
  let s := s.setBackend node { device with surfaces := device.surfaces.insert crtc surface }
  let s := s.dropSurfaces (device.surfaces.lookup crtc).toList
  { s with display := s.display.connectorConnected connector.outputName connector.mode }

def connectorConnected (s : Hotplug) (node : Nat) (connector : Connector) (crtc : Nat)
    (answers : ConnectorAnswers) : Hotplug × Except SetUpError Unit :=
  match s.backends.lookup node with
  | none => (s, .error .noDevice)
  | some device =>
      if answers.nonDesktop then
        let connectors := device.nonDesktopConnectors ++ [(connector.handle, crtc)]
        (s.setBackend node { device with nonDesktopConnectors := connectors }, .ok ())
      else if !answers.surfaceCreated then (s, .error .createSurface)
      else
        let output := ⟨s.display.nextOutput, connector.outputName, connector.mode⟩
        let (global, s) := s.createGlobal
        let s := { s with outputId := Function.update s.outputId output (some ⟨node, crtc⟩) }
        if !answers.driverFound then (s, .error .getDriver)
        else if !answers.compositorCreated then (s, .error .drmCompositor)
        else (s.addSurface node device connector crtc ⟨global, output⟩, .ok ())

/-- A connector that is leased out is no output. -/
def connectorDisconnected (s : Hotplug) (node : Nat) (connector : Connector) (crtc : Nat) :
    Hotplug :=
  match s.backends.lookup node with
  | none => s
  | some device =>
      if device.nonDesktopConnectors.any (·.1 = connector.handle) then
        let connectors := device.nonDesktopConnectors.eraseP (·.1 = connector.handle)
        s.setBackend node { device with nonDesktopConnectors := connectors }
      else
        let s := s.setBackend node { device with surfaces := device.surfaces.erase crtc }
        let s := s.dropSurfaces (device.surfaces.lookup crtc).toList
        match s.outputFor node crtc with
        | none => s
        | some output => { s with display := s.display.connectorDisconnected output }

def scanEvent (node : Nat) (s : Hotplug) : DrmScanEvent → Hotplug
  | .connected connector crtc answers => (s.connectorConnected node connector crtc answers).1
  | .disconnected connector crtc => s.connectorDisconnected node connector crtc

/-! ## Devices -/

/-- With what the scan has found, if it has not failed. -/
def deviceChanged (s : Hotplug) (node : Nat) (scan : Option (List DrmScanEvent)) : Hotplug :=
  match s.backends.lookup node, scan with
  | some _, some events => events.foldl (scanEvent node) s
  | _, _ => s

/-- `device_added` up to the scan. -/
def addDevice (s : Hotplug) (node : Nat) (answers : DeviceAnswers) :
    Hotplug × Except SetUpError Unit :=
  if !answers.opened then (s, .error .deviceOpen)
  else if !answers.drmCreated then (s, .error .drmDevice)
  else if !answers.gbmCreated then (s, .error .gbmDevice)
  else
    let (registrationToken, s) := s.insertSource
    if !answers.nodeAdded then (s, .error .addNode)
    else (s.insertBackend node ⟨registrationToken, ∅, []⟩, .ok ())

def deviceAdded (s : Hotplug) (node : Nat) (answers : DeviceAnswers)
    (scan : Option (List DrmScanEvent)) : Hotplug × Except SetUpError Unit :=
  match s.addDevice node answers with
  | (s, .ok ()) => (s.deviceChanged node scan, .ok ())
  | (s, .error e) => (s, .error e)

/-- The end of `device_removed`. -/
def removeBackend (s : Hotplug) (node : Nat) : Hotplug :=
  match s.backends.lookup node with
  | none => s
  | some device =>
      let s := { s with
        backends := s.backends.erase node
        sources := s.sources.filter (· ≠ device.registrationToken) }
      s.dropSurfaces device.surfaces.values

/-- With the connectors that the scanner knows, each with its CRTC. -/
def deviceRemoved (s : Hotplug) (node : Nat) (crtcs : List (Connector × Nat)) : Hotplug :=
  match s.backends.lookup node with
  | none => s
  | some _ =>
      (crtcs.foldl (fun s p => s.connectorDisconnected node p.1 p.2) s).removeBackend node

/-! ## Starting outputs -/

/-- The loop of `start_outputs`, over the outputs that remain. It ends at the first that
is started already. -/
def startLoop (s : Hotplug) : List SmithayOutput → Hotplug
  | [] => { s with idles := s.idles + 1 }
  | output :: outputs =>
      if output ∈ s.startedOutputs then s
      else
        { s with
          startedOutputs := insert output s.startedOutputs
          started := s.started ++ [output] }.startLoop outputs

def startOutputs (s : Hotplug) : Hotplug := s.startLoop s.display.outputs.values

def setLayout (W : World) (s : Hotplug) (spaces : HashMap String (List Output)) : Hotplug :=
  { s with display := s.display.setLayout W spaces }.startOutputs

def checkReadyness (s : Hotplug) : Hotplug :=
  if !s.readyState.onReadyCalled && s.readyState.backendReady && s.readyState.xwaylandReady then
    { s with
      readyState := { s.readyState with onReadyCalled := true }
      startups := s.startups + 1 }
  else s

def backendReady (s : Hotplug) : Hotplug :=
  { s with readyState := { s.readyState with backendReady := true } }.checkReadyness

def xwaylandReady (s : Hotplug) : Hotplug :=
  { s with readyState := { s.readyState with xwaylandReady := true } }.checkReadyness

/-- The event loop runs an idle callback that waits. -/
def runIdle (s : Hotplug) : Hotplug :=
  match s.idles with
  | 0 => s
  | idles + 1 => { s with idles }.backendReady

/-- An update of the outputs map, as a hash map may come to be iterated otherwise. -/
def withOutputs (s : Hotplug) (outputs : HashMap String SmithayOutput) : Hotplug :=
  { s with display := { s.display with outputs } }

end Hotplug

/-! ## Steps -/

/-- What the udev backend does in one go. A device that is added or changes, or goes, is
several of these. -/
inductive HotplugEvent where
  | addDevice (node : Nat) (answers : DeviceAnswers)
  | scanEvent (node : Nat) (event : DrmScanEvent)
  | removeBackend (node : Nat)
  | setLayout (W : World) (spaces : HashMap String (List Output))
  | startOutputs
  | runIdle
  | xwaylandReady
  /-- a map with the outputs in another order -/
  | rehash (outputs : HashMap String SmithayOutput)

namespace Hotplug

def apply (s : Hotplug) : HotplugEvent → Hotplug
  | .addDevice node answers => (s.addDevice node answers).1
  | .scanEvent node event => scanEvent node s event
  | .removeBackend node => s.removeBackend node
  | .setLayout W spaces => s.setLayout W spaces
  | .startOutputs => s.startOutputs
  | .runIdle => s.runIdle
  | .xwaylandReady => s.xwaylandReady
  | .rehash outputs => s.withOutputs outputs

/-- What a step asks of its event: another order has the same outputs. -/
def Admits (s : Hotplug) : HotplugEvent → Prop
  | .rehash outputs => outputs.entries.Perm s.display.outputs.entries
  | _ => True

/-- Before a device has been added. -/
structure IsInitial (s : Hotplug) : Prop where
  display : s.display = State.new
  startedOutputs : s.startedOutputs = ∅
  started : s.started = []
  backends : s.backends = ∅
  readyState : s.readyState = ⟨false, false, false⟩
  startups : s.startups = 0

/-- Before anything has been added. -/
def fresh : Hotplug where
  display := State.new
  outputId := fun _ => none
  startedOutputs := ∅
  backends := ∅
  globals := []
  nextGlobal := 0
  sources := []
  nextSource := 0
  readyState := ⟨false, false, false⟩
  startups := 0
  idles := 0
  started := []

def system : Machine.System Hotplug HotplugEvent where
  init := IsInitial
  step s e t := s.Admits e ∧ t = s.apply e

/-- The state after some steps that no other order of the outputs comes between. -/
def applyAll (s : Hotplug) (events : List HotplugEvent) : Hotplug := events.foldl apply s

theorem deviceChanged_eq (s : Hotplug) (node : Nat) (events : List DrmScanEvent) :
    s.deviceChanged node (some events) =
      if (s.backends.lookup node).isSome then s.applyAll (events.map (.scanEvent node))
      else s := by
  rw [applyAll, List.foldl_map]
  unfold deviceChanged
  cases s.backends.lookup node with
  | none => rfl
  | some device => rfl

theorem deviceRemoved_eq (s : Hotplug) (node : Nat) (crtcs : List (Connector × Nat)) :
    s.deviceRemoved node crtcs =
      if (s.backends.lookup node).isSome then
        s.applyAll
          (crtcs.map (fun p => .scanEvent node (.disconnected p.1 p.2)) ++ [.removeBackend node])
      else s := by
  rw [applyAll, List.foldl_append, List.foldl_map, deviceRemoved]
  cases s.backends.lookup node with
  | none => rfl
  | some device => rfl

end Hotplug

end Scape.Display
