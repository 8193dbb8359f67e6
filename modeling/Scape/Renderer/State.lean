import Scape.Shared.Comms
import Scape.Lib.Fallible
import Mathlib.Data.Finset.Insert

/-!
# The renderer module

The renderer learns from udev which GPUs the seat has. It may not open the file of one: it
asks the input module, which has the session, and goes on when the file comes.

With the file of a GPU it sets up Vulkan. That set-up is not finished in the source, it ends
in `unimplemented!()`; every answer of the driver up to there is a parameter, and so are udev
and the file system.
-/

namespace Scape.Renderer

open Scape Fallible

inductive NodeType where
  | primary
  | control
  | render
  deriving DecidableEq, Repr

structure DrmNode where
  dev : Nat
  ty : NodeType
  deriving DecidableEq, Repr

structure Gpu where
  node : DrmNode
  fd : Nat
  deriving DecidableEq, Repr

/-- `listening` is of the event loop: whether udev is one of its sources. -/
structure RendererState where
  shuttingDown : Bool
  primaryGpu : Option DrmNode
  knownDrmDevices : Finset DrmNode
  gpus : HashMap DrmNode Gpu
  listening : Bool

/-! ## Vulkan -/

/-- What the loader and the driver answer. `none` and `false` are errors. -/
structure Vulkan where
  instanceExtensions : Option (List String)
  instanceCreated : Bool
  debugMessenger : Bool
  physicalDevices : Option (List Nat)
  deviceExtensions : Nat → Bool
  displayProperties : Nat → Option (List Nat)
  /-- of a physical device, a file and a display -/
  acquireDrmDisplay : Nat → Nat → Nat → Bool

inductive VulkanError where
  | instanceExtensions
  | extensionNotSupported (name : String)
  | instanceCreation
  | debugCallback
  | physicalDevices
  | noPhysicalDevices
  | deviceExtensions
  | displayProperties
  | acquireDrmDisplay
  deriving DecidableEq, Repr

inductive Panic where
  /-- `expect("Unable to create vulkan state")` -/
  | vulkanState (e : VulkanError)
  /-- `display_properties[0]` -/
  | noDisplay
  | unimplemented
  deriving DecidableEq, Repr

/-- Of its many handles, the display. -/
structure VulkanState where
  display : Nat
  deriving DecidableEq, Repr

def requiredExtensions : List String :=
  ["VK_EXT_debug_utils", "VK_EXT_acquire_drm_display", "VK_EXT_direct_mode_display",
    "VK_KHR_display", "VK_KHR_surface"]

def VulkanState.new (vulkan : Vulkan) (gpu : Gpu) :
    Except Panic (Except VulkanError VulkanState) :=
  match vulkan.instanceExtensions with
  | none => .ok (.error .instanceExtensions)
  | some supported =>
      match requiredExtensions.find? (· ∉ supported) with
      | some name => .ok (.error (.extensionNotSupported name))
      | none =>
          if !vulkan.instanceCreated then .ok (.error .instanceCreation)
          else if !vulkan.debugMessenger then .ok (.error .debugCallback)
          else
            match vulkan.physicalDevices with
            | none => .ok (.error .physicalDevices)
            | some [] => .ok (.error .noPhysicalDevices)
            | some (physicalDevice :: _) =>
                if !vulkan.deviceExtensions physicalDevice then .ok (.error .deviceExtensions)
                else
                  match vulkan.displayProperties physicalDevice with
                  | none => .ok (.error .displayProperties)
                  | some [] => .error .noDisplay
                  | some (display :: _) =>
                      if !vulkan.acquireDrmDisplay physicalDevice gpu.fd display then
                        .ok (.error .acquireDrmDisplay)
                      else .error .unimplemented

/-! ## Devices -/

/-- What udev and the file system answer. `none` and `false` are errors, but for the answer
to `primary_gpu`, which may be that there is none. -/
structure Udev where
  /-- `UdevBackend::new`, with the devices that are listed -/
  backend : Option (List (Nat × String))
  fromDevId : Nat → Option DrmNode
  fromPath : String → Option DrmNode
  /-- `DrmNode::node_with_type`, which may know no such node, or fail -/
  nodeWithType : DrmNode → NodeType → Option (Option DrmNode)
  primaryGpu : Option (Option String)
  allGpus : Option (List String)
  /-- whether the loop takes udev as a source -/
  inserted : Bool

inductive UdevEvent where
  | added (deviceId : Nat) (path : String)
  | changed (deviceId : Nat)
  | removed (deviceId : Nat)
  deriving DecidableEq, Repr

inductive RendererError where
  | udevBackend
  | drmNode
  | insertSource
  | primaryGpu
  | noPrimaryGpu
  deriving DecidableEq, Repr

namespace RendererState

def new : RendererState where
  shuttingDown := false
  primaryGpu := none
  knownDrmDevices := ∅
  gpus := ∅
  listening := false

def addDevice (st : RendererState) (node : DrmNode) (path : String) :
    RendererState × List Envelope :=
  ({ st with knownDrmDevices := insert node st.knownDrmDevices },
    [.input (.openFileInSessionForRenderer path)])

def deviceChanged (st : RendererState) (_node : DrmNode) : RendererState := st

def deviceRemoved (st : RendererState) (_node : DrmNode) : RendererState := st

/-- The loop over the devices that are listed. It ends at the first that is none of DRM. -/
def addListed (fromDevId : Nat → Option DrmNode) (st : RendererState) :
    List (Nat × String) → RendererState × List Envelope × Except RendererError Unit
  | [] => (st, [], .ok ())
  | (devId, path) :: devices =>
      match fromDevId devId with
      | none => (st, [], .error .drmNode)
      | some node =>
          let (st, asked) := st.addDevice node path
          let (st, rest, result) := addListed fromDevId st devices
          (st, asked ++ rest, result)

def selectPrimaryGpu (udev : Udev) (st : RendererState) :
    RendererState × Except RendererError Unit :=
  match udev.primaryGpu with
  | none => (st, .error .primaryGpu)
  | some path =>
      let renderNode := path.bind fun x =>
        (udev.fromPath x).bind fun node => (udev.nodeWithType node .render).bind id
      match renderNode <|> udev.allGpus.bind (List.findSome? udev.fromPath) with
      | none => (st, .error .noPrimaryGpu)
      | some primaryGpu => ({ st with primaryGpu := some primaryGpu }, .ok ())

def initUdevDeviceListenerForSeat (udev : Udev) (st : RendererState) :
    RendererState × List Envelope × Except RendererError Unit :=
  match udev.backend with
  | none => (st, [], .error .udevBackend)
  | some devices =>
      match st.addListed udev.fromDevId devices with
      | (st, asked, .error e) => (st, asked, .error e)
      | (st, asked, .ok ()) =>
          if !udev.inserted then (st, asked, .error .insertSource)
          else
            let (st, result) := { st with listening := true }.selectPrimaryGpu udev
            (st, asked, result)

/-- The callback of udev. The error over a device that is added is logged. -/
def udevEvent (fromDevId : Nat → Option DrmNode) (st : RendererState) :
    UdevEvent → RendererState × List Envelope
  | .added deviceId path =>
      match fromDevId deviceId with
      | none => (st, [])
      | some node => st.addDevice node path
  | .changed deviceId =>
      match fromDevId deviceId with
      | none => (st, [])
      | some node => (st.deviceChanged node, [])
  | .removed deviceId =>
      match fromDevId deviceId with
      | none => (st, [])
      | some node => (st.deviceRemoved node, [])

/-! ## Messages -/

def handleMessage (udev : Udev) (vulkan : Vulkan) (st : RendererState) :
    RendererMessage → Except Panic (RendererState × List Envelope × Except RendererError Unit)
  | .shutdown => .ok ({ st with shuttingDown := true }, [], .ok ())
  | .seatSessionCreated _ => .ok (st.initUdevDeviceListenerForSeat udev)
  | .seatSessionPaused => .ok (st, [], .ok ())
  | .seatSessionResumed => .ok (st, [], .ok ())
  | .fileOpenedInSession path fd =>
      match udev.fromPath path with
      | none => .ok (st, [], .error .drmNode)
      | some node => do
          let created ← VulkanState.new vulkan ⟨node, fd⟩
          let _ ← created.mapError Panic.vulkanState
          return (st, [.main .shutdown], .ok ())

end RendererState

end Scape.Renderer
