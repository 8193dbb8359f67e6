import Scape.Renderer.Handover
import Scape.Proofs.KeyboardLeds
import Mathlib.Data.Finset.Lattice.Lemmas

/-!
# A file for each GPU, and none to keep

Requests go one way and files come back the other, on two channels that other threads use as
well. Neither thread waits for the other. Still the requests are handled in the order in which
they are made, each once, and the files that the session has opened arrive in that order; a
request that the session refuses is never answered.

The renderer keeps none of the files. The first that is one of a GPU ends it, whatever the
driver answers: `VulkanState::new` has no way to return a state.
-/

namespace Scape.Renderer

open Scape Scape.Input Fallible

/-! ## What the renderer is told, and what it asks for -/

/-- The devices up to the first that is none of DRM. -/
def listed (fromDevId : Nat → Option DrmNode) (devices : List (Nat × String)) :
    List (DrmNode × String) :=
  (devices.takeWhile fun device => (fromDevId device.1).isSome).filterMap fun device =>
    (fromDevId device.1).map fun node => (node, device.2)

/-- The devices a message tells the renderer of. -/
def told (udev : Udev) : RendererMessage → List (DrmNode × String)
  | .seatSessionCreated _ => listed udev.fromDevId (udev.backend.getD [])
  | _ => []

/-- The device udev tells the renderer of. -/
def UdevEvent.told (fromDevId : Nat → Option DrmNode) : UdevEvent → List (DrmNode × String)
  | .added deviceId path => (fromDevId deviceId).toList.map fun node => (node, path)
  | _ => []

def request (device : DrmNode × String) : Envelope :=
  .input (.openFileInSessionForRenderer device.2)

theorem askedPath_requests (devices : List (DrmNode × String)) :
    (inputMessages (devices.map request)).filterMap askedPath = devices.map Prod.snd := by
  induction devices with
  | nil => rfl
  | cons device devices ih => exact congrArg (device.2 :: ·) ih

theorem VulkanState.new_ne_ok {vulkan : Vulkan} {gpu : Gpu} {state : VulkanState} :
    VulkanState.new vulkan gpu ≠ .ok (.ok state) := by
  unfold VulkanState.new
  repeat' split
  all_goals simp

namespace RendererState

variable {st st' : RendererState} {sent : List Envelope} {result : Except RendererError Unit}
  {udev : Udev} {vulkan : Vulkan} {fromDevId : Nat → Option DrmNode}
  {devices : List (DrmNode × String)} {message : RendererMessage}

/-- The renderer has asked for the files of the devices, and remembers their nodes. -/
structure Asked (devices : List (DrmNode × String)) (st st' : RendererState)
    (sent : List Envelope) : Prop where
  sent : sent = devices.map request
  known : st'.knownDrmDevices = st.knownDrmDevices ∪ (devices.map Prod.fst).toFinset
  gpus : st'.gpus = st.gpus

theorem asked_nothing (hknown : st'.knownDrmDevices = st.knownDrmDevices)
    (hgpus : st'.gpus = st.gpus) : Asked [] st st' [] :=
  ⟨rfl, by simp [hknown], hgpus⟩

theorem Asked.trans {st'' : RendererState} {devices' : List (DrmNode × String)}
    {sent' : List Envelope} (h : Asked devices st st' sent)
    (h' : Asked devices' st' st'' sent') : Asked (devices ++ devices') st st'' (sent ++ sent') := by
  refine ⟨?_, ?_, h'.gpus.trans h.gpus⟩
  · rw [h.sent, h'.sent, List.map_append]
  · rw [h'.known, h.known, Finset.union_assoc, List.map_append, List.toFinset_append]

theorem addDevice_asked (st : RendererState) (node : DrmNode) (path : String) :
    Asked [(node, path)] st (st.addDevice node path).1 (st.addDevice node path).2 := by
  refine ⟨rfl, ?_, rfl⟩
  show insert node st.knownDrmDevices = st.knownDrmDevices ∪ {node}
  rw [Finset.union_comm, Finset.insert_eq]

theorem addListed_asked (st : RendererState) (devices : List (Nat × String)) :
    Asked (listed fromDevId devices) st (st.addListed fromDevId devices).1
      (st.addListed fromDevId devices).2.1 := by
  induction devices generalizing st with
  | nil => exact asked_nothing rfl rfl
  | cons device devices ih =>
      cases hnode : fromDevId device.1 with
      | none =>
          have hlisted : listed fromDevId (device :: devices) = [] := by
            simp [listed, hnode]
          rw [addListed, hnode, hlisted]
          exact asked_nothing rfl rfl
      | some node =>
          have hlisted : listed fromDevId (device :: devices) =
              (node, device.2) :: listed fromDevId devices := by
            simp [listed, hnode]
          rw [addListed, hnode, hlisted]
          exact (st.addDevice_asked node device.2).trans (ih _)

theorem selectPrimaryGpu_fst (st : RendererState) (udev : Udev) :
    (st.selectPrimaryGpu udev).1.knownDrmDevices = st.knownDrmDevices ∧
    (st.selectPrimaryGpu udev).1.gpus = st.gpus := by
  unfold selectPrimaryGpu
  cases udev.primaryGpu with
  | none => exact ⟨rfl, rfl⟩
  | some path =>
      dsimp only
      split <;> exact ⟨rfl, rfl⟩

theorem init_asked (st : RendererState) (udev : Udev) :
    Asked (listed udev.fromDevId (udev.backend.getD [])) st
      (st.initUdevDeviceListenerForSeat udev).1
      (st.initUdevDeviceListenerForSeat udev).2.1 := by
  unfold initUdevDeviceListenerForSeat
  split
  next hnone =>
    rw [hnone]
    exact asked_nothing rfl rfl
  next listing hlisting =>
    have hasked : Asked (listed udev.fromDevId listing) st _ _ := st.addListed_asked listing
    rw [hlisting]
    split
    next heq =>
      rw [heq] at hasked
      exact hasked
    next st₁ sent heq =>
      rw [heq] at hasked
      split
      next => exact hasked
      next =>
        obtain ⟨hknown, hgpus⟩ := selectPrimaryGpu_fst { st₁ with listening := true } udev
        exact ⟨hasked.sent, hknown.trans hasked.known, hgpus.trans hasked.gpus⟩

theorem udevEvent_asked (st : RendererState) (fromDevId : Nat → Option DrmNode)
    (event : UdevEvent) :
    Asked (event.told fromDevId) st (st.udevEvent fromDevId event).1
      (st.udevEvent fromDevId event).2 := by
  cases event with
  | added deviceId path =>
      rw [udevEvent, UdevEvent.told]
      cases fromDevId deviceId with
      | none => exact asked_nothing rfl rfl
      | some node => exact st.addDevice_asked node path
  | changed deviceId | removed deviceId =>
      rw [udevEvent]
      cases fromDevId deviceId with
      | none => exact asked_nothing rfl rfl
      | some node => exact asked_nothing rfl rfl

/-- The renderer gets through a message unless it brings the file of a GPU. -/
theorem handleMessage_fileOpened {path : String} {fd : Nat} :
    (udev.fromPath path = none ∧
      st.handleMessage udev vulkan (.fileOpenedInSession path fd) =
        .ok (st, [], .error .drmNode)) ∨
    ∃ node panic, udev.fromPath path = some node ∧
      st.handleMessage udev vulkan (.fileOpenedInSession path fd) = .error panic := by
  rw [handleMessage]
  cases hnode : udev.fromPath path with
  | none => exact .inl ⟨rfl, rfl⟩
  | some node =>
      right
      refine ⟨node, ?_⟩
      dsimp only
      cases hnew : VulkanState.new vulkan ⟨node, fd⟩ with
      | error panic => exact ⟨panic, rfl, rfl⟩
      | ok created =>
          cases created with
          | error e => exact ⟨.vulkanState e, rfl, rfl⟩
          | ok state => exact absurd hnew VulkanState.new_ne_ok

theorem handleMessage_ok (h : st.handleMessage udev vulkan message = .ok (st', sent, result)) :
    Asked (told udev message) st st' sent ∧
    ∀ file, openedFile message = some file → udev.fromPath file.1 = none := by
  cases message with
  | seatSessionCreated =>
      have hasked := st.init_asked udev
      rw [Except.ok.inj h] at hasked
      exact ⟨hasked, nofun⟩
  | fileOpenedInSession path fd =>
      rcases handleMessage_fileOpened with ⟨hnone, heq⟩ | ⟨node, panic, -, heq⟩
      · rw [heq] at h
        cases h
        refine ⟨asked_nothing rfl rfl, fun file hfile => ?_⟩
        cases hfile
        exact hnone
      · rw [heq] at h
        cases h
  | shutdown | seatSessionPaused | seatSessionResumed =>
      cases h
      exact ⟨asked_nothing rfl rfl, nofun⟩

theorem handleMessage_error {panic : Panic}
    (h : st.handleMessage udev vulkan message = .error panic) :
    told udev message = [] ∧
    ∃ file node, openedFile message = some file ∧ udev.fromPath file.1 = some node := by
  cases message with
  | fileOpenedInSession path fd =>
      rcases handleMessage_fileOpened with ⟨-, heq⟩ | ⟨node, panic', hnode, -⟩
      · rw [heq] at h
        cases h
      · exact ⟨rfl, (path, fd), node, rfl, hnode⟩
  | seatSessionCreated | shutdown | seatSessionPaused | seatSessionResumed => cases h

end RendererState

/-! ## What the input module sends -/

variable {X : Xkb} {input input' : InputState X}

/-- The file a request is answered with. -/
def answer (served : String × Option Nat) : Option (String × Nat) :=
  served.2.map fun fd => (served.1, fd)

theorem rendererMessages_append (es es' : List (Effect X)) :
    rendererMessages (es ++ es') = rendererMessages es ++ rendererMessages es' :=
  List.filterMap_append

theorem rendererMessages_ledUpdates (st : InputState X) (ks : KeyboardState X) :
    rendererMessages (st.ledUpdates ks) = [] := by
  unfold InputState.ledUpdates rendererMessages
  split <;> simp

theorem rendererMessages_handleKeyboardEvent (st : InputState X) (event : KeyEvent) :
    rendererMessages (st.handleKeyboardEvent event).2 = [] := by
  unfold InputState.handleKeyboardEvent
  dsimp only
  split
  next =>
    rw [rendererMessages_append, rendererMessages_ledUpdates]
    rfl
  next =>
    split
    next => exact rendererMessages_ledUpdates ..
    next =>
      rw [rendererMessages_append, rendererMessages_ledUpdates]
      rfl

theorem rendererMessages_handleInputEvent {event : InputEvent} {effects : List (Effect X)}
    (h : input.handleInputEvent event = .ok (input', effects)) :
    rendererMessages effects = [] := by
  unfold InputState.handleInputEvent at h
  cases event with
  | deviceAdded device | deviceRemoved device =>
      dsimp only at h
      split at h <;> cases h <;> rfl
  | keyboard event =>
      have heq := rendererMessages_handleKeyboardEvent input event
      rw [Except.ok.inj h] at heq
      exact heq
  | _ => cases h

theorem handleMessage_opened (input : InputState X) (opened : Option Nat)
    (message : InputMessage) :
    (rendererMessages (input.handleMessage opened message).2).filterMap openedFile =
      (askedPath message).toList.filterMap fun path => answer (path, opened) := by
  cases message with
  | shutdown => rfl
  | keymap keyName mods callback =>
      have hnone : rendererMessages (input.keymap keyName mods callback).2 = [] := by
        unfold InputState.keymap rendererMessages
        split <;> simp
      rw [InputState.handleMessage, hnone]
      rfl
  | openFileInSessionForRenderer path => cases opened <;> rfl

/-! ## One step -/

namespace Handover

variable {s t : Handover X} {action : HandoverAction}
  {trace : List (Handover X × HandoverAction)}

/-- The requests that the input thread has not come to. -/
def requests (s : Handover X) : List String := s.toInput.filterMap askedPath

/-- The files that the renderer has not come to. -/
def files (s : Handover X) : List (String × Nat) := s.toRenderer.filterMap openedFile

/-- The devices that the renderer is told of in a step. -/
def tells (s : Handover X) : HandoverAction → List (DrmNode × String)
  | .rendererMessage udev _ => s.toRenderer.head?.toList.flatMap (told udev)
  | .udev fromDevId event => event.told fromDevId
  | _ => []

/-- The requests that go on the channel in a step. -/
def asks (s : Handover X) (action : HandoverAction) : List String :=
  if s.input.listens then (s.tells action).map Prod.snd else []

/-- The request that the input thread handles in a step, with what the session answers. -/
def serves (s : Handover X) : HandoverAction → List (String × Option Nat)
  | .inputMessage opened =>
      (s.toInput.head?.bind askedPath).toList.map fun path => (path, opened)
  | _ => []

/-- The file that goes on the channel in a step. -/
def opens (s : Handover X) (action : HandoverAction) : List (String × Nat) :=
  if s.renderer.listens then
    (s.serves action).filterMap answer
  else []

/-- The file that the renderer takes in a step, with the node that it is of, if it is one of
DRM. -/
def takes (s : Handover X) : HandoverAction → List ((String × Nat) × Option DrmNode)
  | .rendererMessage udev _ =>
      (s.toRenderer.head?.bind openedFile).toList.map fun file => (file, udev.fromPath file.1)
  | _ => []

theorem filterMap_cons_toList {α β : Type} (f : α → Option β) (a : α) (l : List α) :
    (a :: l).filterMap f = (f a).toList ++ l.filterMap f := by
  rw [List.filterMap_cons]
  cases f a <;> rfl

theorem sendInput_requests (s : Handover X) (messages : List InputMessage) :
    (s.sendInput messages).requests =
      s.requests ++ if s.input.listens then messages.filterMap askedPath else [] := by
  unfold requests sendInput
  dsimp only
  split
  · exact List.filterMap_append
  · exact (List.append_nil _).symm

theorem sendRenderer_files (s : Handover X) (messages : List RendererMessage) :
    (s.sendRenderer messages).files =
      s.files ++ if s.renderer.listens then messages.filterMap openedFile else [] := by
  unfold files sendRenderer
  dsimp only
  split
  · exact List.filterMap_append
  · exact (List.append_nil _).symm

/-- No file comes with the messages. -/
theorem sendRenderer_files_of_none {messages : List RendererMessage}
    (h : messages.filterMap openedFile = []) : (s.sendRenderer messages).files = s.files := by
  rw [sendRenderer_files, h, ite_self, List.append_nil]

/-- A request is handled, or made. -/
theorem Step.requests (hstep : Step s action t) :
    (s.serves action).map Prod.fst ++ t.requests = s.requests ++ s.asks action := by
  have hnone : s.tells action = [] → s.requests ++ s.asks action = s.requests := by
    intro htells
    rw [asks, htells]
    exact (congrArg (s.requests ++ ·) (ite_self _)).trans (List.append_nil _)
  cases hstep with
  | @inputMessage opened input message queue hinput hqueue =>
      rw [hnone rfl]
      show (s.serves (.inputMessage opened)).map Prod.fst ++ queue.filterMap askedPath =
        s.toInput.filterMap askedPath
      rw [serves, hqueue, filterMap_cons_toList]
      show ((askedPath message).toList.map _).map Prod.fst ++ _ = _
      rw [List.map_map]
      exact congrArg (· ++ queue.filterMap askedPath) (List.map_id' _)
  | @rendererMessage udev vulkan st st' message queue sent result hrenderer hqueue hok =>
      have hasked := (RendererState.handleMessage_ok hok).1
      have htells : s.tells (.rendererMessage udev vulkan) = told udev message := by
        rw [tells, hqueue]
        exact List.append_nil _
      rw [sendInput_requests, asks, htells, hasked.sent, askedPath_requests]
      rfl
  | @rendererPanics udev vulkan st message queue panic hrenderer hqueue herror =>
      refine (hnone ?_).symm
      rw [tells, hqueue]
      exact (List.append_nil _).trans (RendererState.handleMessage_error herror).1
  | @udev fromDevId event st hrenderer hlistening =>
      rw [sendInput_requests, asks, (st.udevEvent_asked fromDevId event).sent,
        askedPath_requests]
      rfl
  | @toInput message hother =>
      rw [hnone rfl, sendInput_requests]
      show s.requests ++ _ = _
      rw [List.filterMap_cons_none hother]
      exact (congrArg (s.requests ++ ·) (ite_self _)).trans (List.append_nil _)
  | inputStarts | inputEvent | inputPanics | session | inputEnds | rendererStops | toRenderer =>
      exact (hnone rfl).symm

/-- A file is taken, or sent. -/
theorem Step.files (hstep : Step s action t) :
    (s.takes action).map Prod.fst ++ t.files = s.files ++ s.opens action := by
  have hnone : s.serves action = [] → s.files ++ s.opens action = s.files := by
    intro hserves
    rw [opens, hserves]
    exact (congrArg (s.files ++ ·) (ite_self _)).trans (List.append_nil _)
  have hmessage : ∀ {udev : Udev} {vulkan : Vulkan} {message : RendererMessage}
      {queue : List RendererMessage}, s.toRenderer = message :: queue →
      (s.takes (.rendererMessage udev vulkan)).map Prod.fst ++ queue.filterMap openedFile =
        s.files := by
    intro udev vulkan message queue hqueue
    rw [takes, Handover.files, hqueue, filterMap_cons_toList]
    show ((openedFile message).toList.map _).map Prod.fst ++ _ = _
    rw [List.map_map]
    exact congrArg (· ++ queue.filterMap openedFile) (List.map_id' _)
  cases hstep with
  | @inputMessage opened input message queue hinput hqueue =>
      rw [sendRenderer_files, handleMessage_opened, opens, serves, hqueue]
      show s.files ++ _ = s.files ++ if s.renderer.listens then
        ((askedPath message).toList.map _).filterMap answer else []
      rw [List.filterMap_map]
      rfl
  | inputEvent hinput hok =>
      rw [hnone rfl]
      exact sendRenderer_files_of_none (by rw [rendererMessages_handleInputEvent hok]; rfl)
  | @session event input hinput =>
      rw [hnone rfl]
      exact sendRenderer_files_of_none (by cases event <;> rfl)
  | @toRenderer message hshutdown =>
      rw [hnone rfl]
      exact sendRenderer_files_of_none (by cases message <;> first | rfl | exact hshutdown.elim)
  | inputStarts =>
      rw [hnone rfl]
      exact sendRenderer_files_of_none rfl
  | rendererMessage hrenderer hqueue hok => exact (hmessage hqueue).trans (hnone rfl).symm
  | rendererPanics hrenderer hqueue herror => exact (hmessage hqueue).trans (hnone rfl).symm
  | inputPanics | inputEnds | udev | rendererStops | toInput => exact (hnone rfl).symm

/-- How the renderer stands, by the devices it has been told of and the files it has taken. -/
def Stands (devices : List (DrmNode × String))
    (taken : List ((String × Nat) × Option DrmNode)) : Thread RendererState → Prop
  | .starting => False
  | .running st =>
      (∀ file ∈ taken, file.2 = none) ∧ st.gpus = ∅ ∧
      st.knownDrmDevices = (devices.map Prod.fst).toFinset
  | .panicked =>
      ∃ earlier file node, taken = earlier ++ [(file, some node)] ∧
        ∀ file ∈ earlier, file.2 = none
  | .ended => ∀ file ∈ taken, file.2 = none

theorem Step.stands {devices : List (DrmNode × String)}
    {taken : List ((String × Nat) × Option DrmNode)} (hstep : Step s action t)
    (h : Stands devices taken s.renderer) :
    Stands (devices ++ s.tells action) (taken ++ s.takes action) t.renderer := by
  have hsame : ∀ {thread : Thread RendererState}, Stands devices taken thread →
      Stands (devices ++ []) (taken ++ []) thread := by
    intro thread hthread
    rw [List.append_nil, List.append_nil]
    exact hthread
  cases hstep with
  | @rendererMessage udev vulkan st st' message queue sent result hrenderer hqueue hok =>
      rw [hrenderer] at h
      obtain ⟨htaken, hgpus, hknown⟩ := h
      obtain ⟨hasked, hfile⟩ := RendererState.handleMessage_ok hok
      have htells : s.tells (.rendererMessage udev vulkan) = told udev message := by
        rw [tells, hqueue]
        exact List.append_nil _
      refine ⟨List.forall_mem_append.mpr ⟨htaken, fun file hmem => ?_⟩,
        hasked.gpus.trans hgpus, ?_⟩
      · rw [takes, hqueue] at hmem
        obtain ⟨file, hopened, rfl⟩ := List.mem_map.mp hmem
        exact hfile file (Option.mem_toList.mp hopened)
      · rw [htells, hasked.known, hknown, List.map_append, List.toFinset_append]
  | @rendererPanics udev vulkan st message queue panic hrenderer hqueue herror =>
      rw [hrenderer] at h
      obtain ⟨-, file, node, hopened, hnode⟩ := RendererState.handleMessage_error herror
      refine ⟨taken, file, node, congrArg (taken ++ ·) ?_, h.1⟩
      rw [takes, hqueue, ← hnode]
      show (openedFile message).toList.map _ = _
      rw [hopened]
      rfl
  | @udev fromDevId event st hrenderer hlistening =>
      rw [hrenderer] at h
      obtain ⟨htaken, hgpus, hknown⟩ := h
      have hasked := st.udevEvent_asked fromDevId event
      refine ⟨?_, hasked.gpus.trans hgpus, ?_⟩
      · show ∀ file ∈ taken ++ [], file.2 = none
        rw [List.append_nil]
        exact htaken
      · rw [hasked.known, hknown, tells, List.map_append, List.toFinset_append]
  | rendererStops hrenderer hshutdown =>
      rw [hrenderer] at h
      have hended : Stands devices taken .ended := h.1
      exact hsame hended
  | inputStarts | inputMessage | inputEvent | inputPanics | session | inputEnds | toInput
  | toRenderer => exact hsame h

/-! ## Whole runs -/

/-- In every run the requests are handled in the order in which they are made, each once. The
files that the session opens for them reach the renderer in that order, and nothing else does.
It goes on as long as none is of a GPU, keeping no file, and panics with the first that is. -/
theorem files_handed_over (h : Machine.Run (system (X := X)) trace s) :
    ((trace.flatMap fun p => p.1.serves p.2).map Prod.fst ++ s.requests =
      trace.flatMap fun p => p.1.asks p.2) ∧
    ((trace.flatMap fun p => p.1.takes p.2).map Prod.fst ++ s.files =
      trace.flatMap fun p => p.1.opens p.2) ∧
    Stands (trace.flatMap fun p => p.1.tells p.2) (trace.flatMap fun p => p.1.takes p.2)
      s.renderer := by
  refine ⟨?_, ?_, ?_⟩
  · rw [List.map_flatMap]
    show _ = [] ++ _
    refine h.conserves (fun u hu => ?_) (fun _ _ _ _ (_ : True) => Step.requests) fun _ _ => trivial
    rw [show u = start from hu]
    rfl
  · rw [List.map_flatMap]
    show _ = [] ++ _
    refine h.conserves (fun u hu => ?_) (fun _ _ _ _ (_ : True) => Step.files) fun _ _ => trivial
    rw [show u = start from hu]
    rfl
  · induction h with
    | init hinit =>
        cases hinit
        exact ⟨List.forall_mem_nil _, rfl, rfl⟩
    | step hrun hstep ih =>
        rw [List.flatMap_append, List.flatMap_append, List.flatMap_singleton,
          List.flatMap_singleton]
        exact hstep.stands ih

/-- A seat with one GPU. -/
def oneCard : Udev where
  backend := some [(57856, "/dev/dri/card0")]
  fromDevId := fun dev => some ⟨dev, .primary⟩
  fromPath := fun _ => some ⟨57856, .primary⟩
  nodeWithType := fun node ty => some (some { node with ty })
  primaryGpu := some (some "/dev/dri/card0")
  allGpus := some ["/dev/dri/card0"]
  inserted := true

/-- A driver that gives what it is asked for. -/
def obliging : Vulkan where
  instanceExtensions := some requiredExtensions
  instanceCreated := true
  debugMessenger := true
  physicalDevices := some [0]
  deviceExtensions := fun _ => true
  displayProperties := fun _ => some [0]
  acquireDrmDisplay := fun _ _ _ => true

theorem new_obliging {gpu : Gpu} : VulkanState.new obliging gpu = .error .unimplemented := by
  have hsupported : requiredExtensions.find? (· ∉ requiredExtensions) = none :=
    List.find?_eq_none.mpr (by simp)
  rw [VulkanState.new]
  simp only [obliging]
  rw [hsupported]
  rfl

/-- The file of the GPU is asked for, opened and taken, and the renderer is gone. -/
theorem files_handed_over_card :
    ∃ (trace : List (Handover Seat.capsLock × HandoverAction)) (s : Handover Seat.capsLock),
      Machine.Run system trace s ∧ s.renderer = .panicked ∧
      Stands (trace.flatMap fun p => p.1.tells p.2) (trace.flatMap fun p => p.1.takes p.2)
        s.renderer := by
  have h₀ : Machine.Run (system (X := Seat.capsLock)) [] start := .init rfl
  have h₁ := h₀.step (@Step.inputStarts _ start "seat0" true false rfl)
  have h₂ := h₁.step (@Step.rendererMessage _ _ oneCard obliging _ _ _ _ _ _ rfl rfl rfl)
  have h₃ := h₂.step (@Step.inputMessage _ _ (some 7) _ _ _ rfl rfl)
  have h₄ := h₃.step
    (@Step.rendererPanics _ _ oneCard obliging _ (.fileOpenedInSession _ 7) _ .unimplemented
      rfl rfl (congrArg (· >>= _) new_obliging))
  exact ⟨_, _, h₄, rfl, (files_handed_over h₄).2.2⟩

end Handover

end Scape.Renderer
