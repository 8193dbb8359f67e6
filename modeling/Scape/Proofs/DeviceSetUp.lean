import Scape.Display.Hotplug

/-!
# What a set-up that fails leaves behind

Adding a device and setting up a connector end early at the first step that fails. Most
of these steps come before anything has been done. Three come after: when the GPU node
cannot be added, the event source of the device is in the loop already, and when the
driver cannot be asked or the compositor not be made, clients see a global already.
Nothing takes either back, since what owns them has not been made yet.
-/

namespace Scape.Display

open Scape Fallible

/-- A set-up, with what is answered during it. -/
inductive SetUp where
  | device (node : Nat) (answers : DeviceAnswers) (scan : Option (List DrmScanEvent))
  | connector (node : Nat) (connector : Connector) (crtc : Nat) (answers : ConnectorAnswers)

namespace Hotplug

def setUp (s : Hotplug) : SetUp → Hotplug × Except SetUpError Unit
  | .device node answers scan => s.deviceAdded node answers scan
  | .connector node connector crtc answers => s.connectorConnected node connector crtc answers

/-- The globals, the event sources, the backends with their surfaces, the outputs. -/
def resources (s : Hotplug) :
    List Nat × List Nat × HashMap Nat DeviceData × HashMap String SmithayOutput :=
  (s.globals, s.sources, s.backends, s.display.outputs)

/-- The step that fails comes after one that cannot be undone. -/
def Leaks (s : Hotplug) : SetUp → Prop
  | .device _ answers _ =>
      answers.opened ∧ answers.drmCreated ∧ answers.gbmCreated ∧ !answers.nodeAdded
  | .connector node _ _ answers =>
      (s.backends.lookup node).isSome ∧ !answers.nonDesktop ∧ answers.surfaceCreated ∧
        !(answers.driverFound && answers.compositorCreated)

variable {s : Hotplug} {node crtc : Nat} {e : SetUpError} {connector : Connector}

theorem insertSource_resources : s.insertSource.2.resources ≠ s.resources := by
  intro h
  exact List.cons_ne_self _ _ (Prod.mk.inj (Prod.mk.inj h).2).1

theorem createGlobal_resources : s.createGlobal.2.resources ≠ s.resources := by
  intro h
  exact List.cons_ne_self _ _ (Prod.mk.inj h).1

/-- Where the data of outputs is no resource. -/
theorem resources_outputId {outputId : SmithayOutput → Option UdevOutputId} :
    { s with outputId }.resources = s.resources := rfl

theorem addDevice_atomic_iff {answers : DeviceAnswers}
    (h : (s.addDevice node answers).2 = .error e) :
    (s.addDevice node answers).1.resources = s.resources ↔
      ¬ s.Leaks (.device node answers none) := by
  obtain ⟨opened, drmCreated, gbmCreated, nodeAdded⟩ := answers
  cases opened with
  | false => exact iff_of_true rfl fun hleaks => by cases hleaks.1
  | true =>
      cases drmCreated with
      | false => exact iff_of_true rfl fun hleaks => by cases hleaks.2.1
      | true =>
          cases gbmCreated with
          | false => exact iff_of_true rfl fun hleaks => by cases hleaks.2.2.1
          | true =>
              cases nodeAdded with
              | false =>
                  exact iff_of_false insertSource_resources (not_not.mpr ⟨rfl, rfl, rfl, rfl⟩)
              | true => cases h

theorem deviceAdded_error {answers : DeviceAnswers} {scan : Option (List DrmScanEvent)}
    (h : (s.deviceAdded node answers scan).2 = .error e) :
    s.deviceAdded node answers scan = s.addDevice node answers := by
  rw [deviceAdded] at h ⊢
  cases hadd : s.addDevice node answers with
  | mk t result =>
      rw [hadd] at h
      cases result with
      | ok u => cases h
      | error e' => rfl

theorem connectorConnected_atomic_iff {answers : ConnectorAnswers}
    (h : (s.connectorConnected node connector crtc answers).2 = .error e) :
    (s.connectorConnected node connector crtc answers).1.resources = s.resources ↔
      ¬ s.Leaks (.connector node connector crtc answers) := by
  obtain ⟨nonDesktop, surfaceCreated, driverFound, compositorCreated⟩ := answers
  unfold connectorConnected at h ⊢
  cases hdevice : s.backends.lookup node with
  | none =>
      refine iff_of_true rfl fun hleaks => ?_
      have hsome : (s.backends.lookup node).isSome := hleaks.1
      rw [hdevice] at hsome
      cases hsome
  | some device =>
      have hsome : (s.backends.lookup node).isSome := by rw [hdevice]; rfl
      rw [hdevice] at h
      cases nonDesktop with
      | true => cases h
      | false =>
          cases surfaceCreated with
          | false => exact iff_of_true rfl fun hleaks => by cases hleaks.2.2.1
          | true =>
              cases driverFound with
              | false =>
                  refine iff_of_false (fun hsame => ?_) (not_not.mpr ⟨hsome, rfl, rfl, rfl⟩)
                  exact createGlobal_resources (resources_outputId.symm.trans hsame)
              | true =>
                  cases compositorCreated with
                  | false =>
                      refine iff_of_false (fun hsame => ?_) (not_not.mpr ⟨hsome, rfl, rfl, rfl⟩)
                      exact createGlobal_resources (resources_outputId.symm.trans hsame)
                  | true => cases h

/-- A set-up that ends early has changed nothing exactly when the step that fails is none
of the three. -/
theorem setUp_atomic_iff (s : Hotplug) (c : SetUp) (h : (s.setUp c).2 = .error e) :
    (s.setUp c).1.resources = s.resources ↔ ¬ s.Leaks c := by
  cases c with
  | device node answers scan =>
      have herror := deviceAdded_error h
      show (s.deviceAdded node answers scan).1.resources = s.resources ↔ _
      rw [herror]
      refine addDevice_atomic_iff (e := e) ?_
      rw [← herror]
      exact h
  | connector node connector crtc answers => exact connectorConnected_atomic_iff h

/-- A GPU with a panel. -/
def panelUp : Hotplug :=
  ((fresh.setUp (.device 0 ⟨true, true, true, true⟩ none)).1.setUp
    (.connector 0 ⟨0, "eDP-1", ⟨1920, 1080⟩⟩ 0 ⟨false, true, true, true⟩)).1

/-- A second connector without a surface leaves the panel as it is. -/
theorem setUp_atomic_noSurface :
    panelUp.globals = [0] ∧ panelUp.display.outputs.values = [⟨0, "eDP-1", ⟨1920, 1080⟩⟩] ∧
      (panelUp.setUp
        (.connector 0 ⟨1, "DP-1", ⟨2560, 1440⟩⟩ 1 ⟨false, false, true, true⟩)).1.resources =
          panelUp.resources := by
  refine ⟨rfl, rfl, (setUp_atomic_iff panelUp _ rfl).mpr fun hleaks => ?_⟩
  cases hleaks.2.2.1

/-- An event source and a global that are left. -/
theorem setUp_leaks :
    (fresh.setUp (.device 0 ⟨true, true, true, false⟩ none)).2 = .error .addNode ∧
      fresh.sources = [] ∧
      (fresh.setUp (.device 0 ⟨true, true, true, false⟩ none)).1.sources = [0] ∧
      let added := (fresh.setUp (.device 0 ⟨true, true, true, true⟩ none)).1
      let failed :=
        added.setUp (.connector 0 ⟨0, "DP-1", ⟨1920, 1080⟩⟩ 0 ⟨false, true, false, true⟩)
      failed.2 = .error .getDriver ∧ added.globals = [] ∧ failed.1.globals = [0] :=
  ⟨rfl, rfl, rfl, rfl, rfl, rfl⟩

end Hotplug

end Scape.Display
