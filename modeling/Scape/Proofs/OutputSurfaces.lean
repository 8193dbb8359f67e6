import Scape.Proofs.OutputStart
import Scape.Lib.Pairing

/-!
# Surfaces and outputs

What is drawn goes through a surface that a device has for one of its CRTCs, and what is laid
out is an output of `outputs`. A frame that is finished looks the output up by its
`UdevOutputId`; a layout knows outputs by name only. So the two registers have to agree: an
output is there exactly if the CRTC it was made for has the surface that draws it.

A disconnect keeps them together, whatever is connected. A connect does, when the output that
had the name is the one that the surface of the CRTC has drawn, and neither is the rule. A
device that is added again, or goes, has to be without surfaces. So the registers agree in a
run up to the first step of another kind (`paired_while_orderly`).
-/

namespace Scape.Display

open Scape Machine Pairing

/-- Nothing fails while a device is added. -/
def DeviceAnswers.Complete (answers : DeviceAnswers) : Prop :=
  answers.opened ∧ answers.drmCreated ∧ answers.gbmCreated ∧ answers.nodeAdded

/-- Nothing fails while an output is set up, and it is no connector for leases. -/
def ConnectorAnswers.Complete (answers : ConnectorAnswers) : Prop :=
  ¬ answers.nonDesktop ∧ answers.surfaceCreated ∧ answers.driverFound ∧
    answers.compositorCreated

namespace Hotplug

/-- The output that is drawn on a CRTC of a device. -/
def drawn (s : Hotplug) (id : UdevOutputId) : Option SmithayOutput :=
  (s.backends.lookup id.deviceId).bind fun device =>
    (device.surfaces.lookup id.crtc).map SurfaceData.output

/-- The outputs that are there are those that are drawn, each on the CRTC of its id. -/
def Agrees (s : Hotplug) : Prop := Paired s.drawn s.display.Connected s.outputId

/-- Devices come and go without surfaces, and an output that comes takes the place of the one
that its surface takes the place of. -/
def Orderly (s : Hotplug) : HotplugEvent → Prop
  | .addDevice node answers => answers.Complete → ∀ crtc, s.drawn ⟨node, crtc⟩ = none
  | .removeBackend node => ∀ crtc, s.drawn ⟨node, crtc⟩ = none
  | .scanEvent node (.connected connector crtc answers) =>
      (s.backends.lookup node).isSome → answers.Complete →
        s.drawn ⟨node, crtc⟩ = s.display.outputs.lookup connector.outputName
  | _ => True

variable {s t : Hotplug} {e : HotplugEvent} {output : SmithayOutput} {node crtc : Nat}
  {connector : Connector} {W : World} {id : UdevOutputId} {device : DeviceData}

/-! ## What is drawn -/

theorem drawn_congr (h : t.backends = s.backends) : t.drawn id = s.drawn id := by
  rw [drawn, drawn, h]

theorem drawn_setBackend_self :
    (s.setBackend node device).drawn ⟨node, crtc⟩ =
      (device.surfaces.lookup crtc).map SurfaceData.output := by
  rw [drawn, setBackend, AList.lookup_insert]
  rfl

theorem drawn_setBackend_of_ne (h : id.deviceId ≠ node) :
    (s.setBackend node device).drawn id = s.drawn id := by
  rw [drawn, setBackend, AList.lookup_insert_ne h, drawn]

theorem drawn_of_lookup (h : s.backends.lookup node = some device) :
    s.drawn ⟨node, crtc⟩ = (device.surfaces.lookup crtc).map SurfaceData.output := by
  rw [drawn, h]
  rfl

/-- Leases are no matter for the surfaces. -/
theorem drawn_setBackend_leases {connectors : List (Nat × Nat)}
    (h : s.backends.lookup node = some device) :
    (s.setBackend node { device with nonDesktopConnectors := connectors }).drawn id =
      s.drawn id := by
  obtain ⟨deviceId, crtc⟩ := id
  by_cases hnode : deviceId = node
  · rw [hnode, drawn_setBackend_self, drawn_of_lookup h]
  · exact drawn_setBackend_of_ne hnode

/-- The surface of one CRTC is set or taken away. -/
theorem drawn_setBackend_surfaces {surfaces : HashMap Nat SurfaceData}
    (h : s.backends.lookup node = some device)
    (hothers : ∀ crtc', crtc' ≠ crtc → surfaces.lookup crtc' = device.surfaces.lookup crtc')
    (hid : id ≠ ⟨node, crtc⟩) :
    (s.setBackend node { device with surfaces := surfaces }).drawn id = s.drawn id := by
  obtain ⟨deviceId, crtc'⟩ := id
  by_cases hnode : deviceId = node
  · subst hnode
    have hne : crtc' ≠ crtc := by
      rintro rfl
      exact hid rfl
    rw [drawn_setBackend_self, drawn_of_lookup h, hothers crtc' hne]
  · exact drawn_setBackend_of_ne hnode

theorem forall_ofDevice_iff {P : UdevOutputId → Prop} :
    (∀ id : UdevOutputId, id.deviceId = node → P id) ↔ ∀ crtc, P ⟨node, crtc⟩ := by
  constructor
  · exact fun hall crtc => hall ⟨node, crtc⟩ rfl
  · rintro hall ⟨deviceId, crtc⟩ rfl
    exact hall crtc

/-- The output that a finished frame looks up is the one that is drawn. -/
theorem outputFor_eq_drawn (hs : s.Numbered) (h : s.Agrees) :
    s.outputFor node crtc = s.drawn ⟨node, crtc⟩ := by
  rw [outputFor]
  cases hdrawn : s.drawn ⟨node, crtc⟩ with
  | none =>
      rw [List.find?_eq_none]
      intro output hmem hid
      have hconn := (State.mem_values_iff hs.named).mp hmem
      have hplaced := h.placed_eq hconn (of_decide_eq_true hid)
      rw [hdrawn] at hplaced
      cases hplaced
  | some output =>
      obtain ⟨hconn, hid⟩ := h.list _ _ hdrawn
      have hsome : (s.display.outputs.values.find? fun output =>
          s.outputId output = some ⟨node, crtc⟩).isSome :=
        List.find?_isSome.mpr
          ⟨output, (State.mem_values_iff hs.named).mpr hconn, decide_eq_true hid⟩
      obtain ⟨found, hfound⟩ := Option.isSome_iff_exists.mp hsome
      have hfoundId := List.find?_some hfound
      have hplaced := h.placed_eq ((State.mem_values_iff hs.named).mp
        (List.mem_of_find?_eq_some hfound)) (of_decide_eq_true hfoundId)
      rw [hfound, ← hplaced, hdrawn]

/-! ## Devices -/

theorem agrees_congr (hbackends : t.backends = s.backends)
    (houtputs : t.display.outputs = s.display.outputs) (hid : t.outputId = s.outputId) :
    t.Agrees ↔ s.Agrees :=
  paired_congr (fun _ => drawn_congr hbackends) (fun _ => State.connected_congr houtputs)
    fun _ _ => by rw [hid]

theorem insertBackend_agrees_iff (h : s.Agrees) {registrationToken : Nat} :
    (s.insertBackend node ⟨registrationToken, ∅, []⟩).Agrees ↔
      ∀ crtc, s.drawn ⟨node, crtc⟩ = none := by
  have hclear : (s.insertBackend node ⟨registrationToken, ∅, []⟩).Agrees ↔
      ∀ id : UdevOutputId, id.deviceId = node → s.drawn id = none := by
    rw [insertBackend, dropSurfaces_eq]
    refine Paired.clear_iff h (fun id hid => ?_) fun id hid => ?_
    · obtain ⟨deviceId, crtc⟩ := id
      obtain rfl : deviceId = node := hid
      exact drawn_setBackend_self
    · exact drawn_setBackend_of_ne hid
  exact hclear.trans forall_ofDevice_iff

theorem addDevice_agrees_iff (h : s.Agrees) {answers : DeviceAnswers} :
    (s.addDevice node answers).1.Agrees ↔ s.Orderly (.addDevice node answers) := by
  obtain ⟨opened, drmCreated, gbmCreated, nodeAdded⟩ := answers
  have hincomplete : ∀ {u : Hotplug}, u.Agrees →
      ¬ DeviceAnswers.Complete ⟨opened, drmCreated, gbmCreated, nodeAdded⟩ →
      (u.Agrees ↔ s.Orderly (.addDevice node ⟨opened, drmCreated, gbmCreated, nodeAdded⟩)) :=
    fun hu hnot => iff_of_true hu fun hcomplete => absurd hcomplete hnot
  cases opened with
  | false => exact hincomplete h fun hc => Bool.false_ne_true hc.1
  | true =>
      cases drmCreated with
      | false => exact hincomplete h fun hc => Bool.false_ne_true hc.2.1
      | true =>
          cases gbmCreated with
          | false => exact hincomplete h fun hc => Bool.false_ne_true hc.2.2.1
          | true =>
              have hsource : s.insertSource.2.Agrees := (agrees_congr rfl rfl rfl).mpr h
              cases nodeAdded with
              | false => exact hincomplete hsource fun hc => Bool.false_ne_true hc.2.2.2
              | true =>
                  refine (insertBackend_agrees_iff hsource).trans ?_
                  exact ⟨fun hall _ => hall, fun hall => hall ⟨rfl, rfl, rfl, rfl⟩⟩

theorem removeBackend_agrees_iff (h : s.Agrees) :
    (s.removeBackend node).Agrees ↔ ∀ crtc, s.drawn ⟨node, crtc⟩ = none := by
  rw [removeBackend]
  cases hlookup : s.backends.lookup node with
  | none =>
      refine iff_of_true h fun crtc => ?_
      rw [drawn, hlookup]
      rfl
  | some device =>
      dsimp only
      have hclear : (Hotplug.dropSurfaces { s with
          backends := s.backends.erase node
          sources := s.sources.filter (· ≠ device.registrationToken) }
            device.surfaces.values).Agrees ↔
          ∀ id : UdevOutputId, id.deviceId = node → s.drawn id = none := by
        rw [dropSurfaces_eq]
        refine Paired.clear_iff h (fun id hid => ?_) fun id hid => ?_
        · rw [drawn, hid, AList.lookup_erase]
          rfl
        · rw [drawn, AList.lookup_erase_ne hid, drawn]
      exact hclear.trans forall_ofDevice_iff

/-! ## Connectors -/

/-- The output that comes is new, and the one that had its name is not there any more. -/
theorem connected_connectorConnected (hs : s.Numbered) {name : String} {mode : Mode} :
    (s.display.connectorConnected name mode).Connected output ↔
      output = ⟨s.display.nextOutput, name, mode⟩ ∨
        s.display.Connected output ∧ output ∉ s.display.outputs.lookup name := by
  rw [State.Connected, State.connectorConnected]
  dsimp only
  by_cases hname : output.name = name
  · rw [hname, AList.lookup_insert, Option.some.injEq, eq_comm, or_iff_left_of_imp]
    rintro ⟨hconn, hnot⟩
    rw [State.Connected, hname] at hconn
    exact absurd hconn hnot
  · rw [AList.lookup_insert_ne hname]
    have hnew : output ≠ ⟨s.display.nextOutput, name, mode⟩ := by
      rintro rfl
      exact hname rfl
    rw [or_iff_right hnew]
    refine (and_iff_left ?_).symm
    intro hmem
    exact hname (hs name output hmem).1

theorem connected_connectorDisconnected {u : State} {gone : SmithayOutput} :
    (u.connectorDisconnected gone).Connected output ↔ u.Connected output ∧ output ≠ gone := by
  have hmem : (u.connectorDisconnected gone).Connected output ↔
      (⟨output.name, output⟩ : Σ _ : String, SmithayOutput) ∈ u.outputs.entries ∧
        decide (output ≠ gone) = true :=
    AList.mem_lookup_iff.trans List.mem_filter
  rw [hmem, decide_eq_true_eq, State.Connected]
  exact and_congr_left fun _ => AList.mem_lookup_iff.symm

theorem addSurface_agrees_iff (connector : Connector) (crtc : Nat) {u : Hotplug} {global : Nat}
    {new : SmithayOutput}
    (hs : s.Numbered) (h : s.Agrees) (hlookup : s.backends.lookup node = some device)
    (hnew : new = ⟨s.display.nextOutput, connector.outputName, connector.mode⟩)
    (hbackends : u.backends = s.backends) (hdisplay : u.display = s.display)
    (hid : u.outputId = Function.update s.outputId new (some ⟨node, crtc⟩)) :
    (u.addSurface node device connector crtc ⟨global, new⟩).Agrees ↔
      s.drawn ⟨node, crtc⟩ = s.display.outputs.lookup connector.outputName := by
  have hfresh : ∀ other, s.display.Connected other → other ≠ new := by
    rintro other hconn rfl
    have hlt := (hs other.name other hconn).2
    rw [hnew] at hlt
    exact lt_irrefl _ hlt
  have hu : u.backends.lookup node = some device := hbackends ▸ hlookup
  rw [addSurface, dropSurfaces_eq]
  dsimp only
  refine Paired.replace_iff h (n := new) (k := ⟨node, crtc⟩)
    (fun hconn => hfresh new hconn rfl) (fun other hold => ?_) ?_ (fun id hne => ?_)
    (fun other => ?_) ?_ fun other hconn => ?_
  · rw [State.Connected, (hs _ other hold).1]
    exact hold
  · exact drawn_setBackend_self.trans (by rw [AList.lookup_insert]; rfl)
  · rw [← drawn_congr hbackends]
    exact drawn_setBackend_surfaces hu (fun _ hcrtc => AList.lookup_insert_ne hcrtc) hne
  · show State.Connected (u.display.connectorConnected _ _) other ↔ _
    rw [hdisplay, connected_connectorConnected hs, hnew]
  · show u.outputId new = _
    rw [hid, Function.update_self]
  · show u.outputId other = _
    rw [hid, Function.update_of_ne (hfresh other hconn)]

theorem connectorConnected_agrees_iff (hs : s.Numbered) (h : s.Agrees)
    {answers : ConnectorAnswers} :
    (s.connectorConnected node connector crtc answers).1.Agrees ↔
      s.Orderly (.scanEvent node (.connected connector crtc answers)) := by
  unfold connectorConnected Orderly
  dsimp only
  cases hlookup : s.backends.lookup node with
  | none => exact iff_of_true h fun hsome => absurd hsome Bool.false_ne_true
  | some device =>
      obtain ⟨nonDesktop, surfaceCreated, driverFound, compositorCreated⟩ := answers
      cases nonDesktop with
      | true =>
          refine iff_of_true ?_ fun _ hc => absurd rfl hc.1
          exact (paired_congr (fun _ => drawn_setBackend_leases hlookup) (fun _ => Iff.rfl)
            fun _ _ => rfl).mpr h
      | false =>
          cases surfaceCreated with
          | false => exact iff_of_true h fun _ hc => absurd hc.2.1 Bool.false_ne_true
          | true =>
              -- an output that is not listed has its id already
              have hlisted : ∀ global : List Nat, ∀ nextGlobal : Nat, Hotplug.Agrees { s with
                  globals := global
                  nextGlobal := nextGlobal
                  outputId := Function.update s.outputId
                    ⟨s.display.nextOutput, connector.outputName, connector.mode⟩
                      (some ⟨node, crtc⟩) } := by
                intro global nextGlobal
                refine (paired_congr (fun _ => rfl) (fun _ => Iff.rfl) fun other hconn => ?_).mpr h
                refine Function.update_of_ne ?_ _ _
                rintro rfl
                exact lt_irrefl _ (hs _ _ hconn).2
              cases driverFound with
              | false =>
                  refine iff_of_true (hlisted _ _) fun _ hc => ?_
                  exact absurd hc.2.2.1 Bool.false_ne_true
              | true =>
                  cases compositorCreated with
                  | false =>
                      refine iff_of_true (hlisted _ _) fun _ hc => ?_
                      exact absurd hc.2.2.2 Bool.false_ne_true
                  | true =>
                      refine (addSurface_agrees_iff connector crtc hs h hlookup ?_ ?_ ?_ ?_).trans
                        ⟨fun hdrawn _ _ => hdrawn,
                          fun hall => hall rfl ⟨Bool.false_ne_true, rfl, rfl, rfl⟩⟩
                      all_goals rfl

theorem connectorDisconnected_agrees (hs : s.Numbered) (h : s.Agrees) :
    (s.connectorDisconnected node connector crtc).Agrees := by
  unfold connectorDisconnected
  dsimp only
  cases hlookup : s.backends.lookup node with
  | none => exact h
  | some device =>
      dsimp only
      split
      · exact (paired_congr (fun _ => drawn_setBackend_leases hlookup) (fun _ => Iff.rfl)
          fun _ _ => rfl).mpr h
      · generalize hu : (s.setBackend node
          { device with surfaces := device.surfaces.erase crtc }).dropSurfaces
            (device.surfaces.lookup crtc).toList = u
        rw [dropSurfaces_eq] at hu
        have hdisplay : u.display = s.display := by rw [← hu]; rfl
        have hid : u.outputId = s.outputId := by rw [← hu]; rfl
        have hfor : u.outputFor node crtc = s.drawn ⟨node, crtc⟩ := by
          rw [← outputFor_eq_drawn hs h, outputFor, outputFor, hdisplay, hid]
        have hgone : u.drawn ⟨node, crtc⟩ = none := by
          rw [← hu]
          exact drawn_setBackend_self.trans (by rw [AList.lookup_erase]; rfl)
        have hkept : ∀ id, id ≠ ⟨node, crtc⟩ → u.drawn id = s.drawn id := by
          intro id hne
          rw [← hu]
          exact drawn_setBackend_surfaces hlookup
            (fun _ hcrtc => AList.lookup_erase_ne hcrtc) hne
        have hwithdraw : ∀ listed' : SmithayOutput → Prop,
            (∀ other, listed' other ↔
              s.display.Connected other ∧ other ∉ s.drawn ⟨node, crtc⟩) →
            Paired u.drawn listed' u.outputId :=
          fun listed' hlisted => hid ▸ h.withdraw hgone hkept hlisted
        rw [hfor]
        cases hdrawn : s.drawn ⟨node, crtc⟩ with
        | none =>
            refine hwithdraw _ fun other => ?_
            rw [hdisplay, hdrawn]
            exact (and_iff_left (Option.not_mem_none other)).symm
        | some gone =>
            refine hwithdraw _ fun other => ?_
            show State.Connected (u.display.connectorDisconnected gone) other ↔ _
            rw [connected_connectorDisconnected, hdisplay, hdrawn, Option.mem_some_iff,
              eq_comm (a := gone)]

/-! ## Runs -/

theorem setLayout_agrees (hs : s.Numbered) (h : s.Agrees)
    (layout : HashMap String (List Output)) : (s.setLayout W layout).Agrees := by
  refine (agrees_congr ?_ ?_ ?_).mpr h
  · rw [setLayout, startOutputs, startLoop_eq]
  · rw [setLayout, startOutputs, startLoop_eq]
    exact (State.setLayout_laysOut hs.named layout).outputs
  · rw [setLayout, startOutputs, startLoop_eq]

theorem step_agrees_iff (hs : s.Numbered) (h : s.Agrees) (hstep : system.step s e t) :
    t.Agrees ↔ s.Orderly e := by
  obtain ⟨hadmits, rfl⟩ := hstep
  cases e with
  | addDevice node answers => exact addDevice_agrees_iff h
  | scanEvent node event =>
      cases event with
      | connected connector crtc answers => exact connectorConnected_agrees_iff hs h
      | disconnected connector crtc =>
          exact iff_of_true (connectorDisconnected_agrees hs h) trivial
  | removeBackend node => exact removeBackend_agrees_iff h
  | setLayout W layout => exact iff_of_true (setLayout_agrees hs h layout) trivial
  | startOutputs =>
      refine iff_of_true ?_ trivial
      refine (agrees_congr ?_ ?_ ?_).mpr h <;> rw [apply, startOutputs, startLoop_eq]
  | runIdle =>
      refine iff_of_true ?_ trivial
      rw [apply, runIdle]
      cases s.idles with
      | zero => exact h
      | succ idles =>
          dsimp only
          rw [backendReady, checkReadyness_eq]
          exact (agrees_congr rfl rfl rfl).mpr h
  | xwaylandReady =>
      refine iff_of_true ?_ trivial
      rw [apply, xwaylandReady, checkReadyness_eq]
      exact (agrees_congr rfl rfl rfl).mpr h
  | rehash outputs =>
      refine iff_of_true ?_ trivial
      have hconn : ∀ output, (s.withOutputs outputs).display.Connected output ↔
          s.display.Connected output := fun output =>
        Iff.of_eq (congrArg (· = some output) (AList.perm_lookup hadmits))
      exact (paired_congr (fun _ => rfl) hconn fun _ _ => rfl).mpr h

theorem IsInitial.agrees (h : s.IsInitial) : s.Agrees := by
  refine ⟨fun output hconn => ?_, fun id output hdrawn => ?_⟩
  · rw [h.display] at hconn
    cases hconn
  · rw [drawn, h.backends] at hdrawn
    cases hdrawn

/-- In every run, surfaces and outputs agree in all states exactly if all steps are orderly,
so that they agree up to the first step that is not. While they do, a finished frame finds
the output that its CRTC draws. -/
theorem agrees_throughout_iff (trace : List (Hotplug × HotplugEvent)) (h : Run system trace s) :
    ((∀ p ∈ trace, p.1.Orderly p.2) ↔ (∀ p ∈ trace, p.1.Agrees) ∧ s.Agrees) ∧
      (s.Agrees → ∀ node crtc, s.outputFor node crtc = s.drawn ⟨node, crtc⟩) := by
  refine ⟨?_, fun hagrees _ _ => outputFor_eq_drawn (reachable_numbered h.reachable) hagrees⟩
  induction h with
  | init hinit =>
      simp only [List.not_mem_nil, false_imp_iff, implies_true, true_and, true_iff]
      exact hinit.agrees
  | @step trace s t e hrun hstep ih =>
      have hs := reachable_numbered hrun.reachable
      simp only [List.forall_mem_append, List.forall_mem_singleton]
      rw [ih]
      constructor
      · rintro ⟨⟨hbefore, hagrees⟩, horderly⟩
        exact ⟨⟨hbefore, hagrees⟩, (step_agrees_iff hs hagrees hstep).mpr horderly⟩
      · rintro ⟨⟨hbefore, hagrees⟩, hafter⟩
        exact ⟨⟨hbefore, hagrees⟩, (step_agrees_iff hs hagrees hstep).mp hafter⟩

/-- A device comes, and the panel on it. -/
def panelComes (node : Nat) : List HotplugEvent :=
  [.addDevice node ⟨true, true, true, true⟩,
    .scanEvent node (.connected panelConnector 0 ⟨false, true, true, true⟩)]

def panelSteps : List (Hotplug × HotplugEvent) :=
  [(fresh, .addDevice 0 ⟨true, true, true, true⟩),
    (fresh.apply (.addDevice 0 ⟨true, true, true, true⟩),
      .scanEvent 0 (.connected panelConnector 0 ⟨false, true, true, true⟩))]

theorem panelSteps_run : Run system panelSteps panelConnected := by
  have hadded : Run system [_] _ :=
    run_apply (e := .addDevice 0 ⟨true, true, true, true⟩) (.init fresh_initial) trivial
  exact run_apply (e := .scanEvent 0 (.connected panelConnector 0 ⟨false, true, true, true⟩))
    hadded trivial

/-- The panel is drawn and is found. When a second device has a connector of that name, the
list loses the first panel. -/
theorem agrees_throughout_panel :
    panelConnected.outputFor 0 0 = some State.panel ∧
      ¬ (panelConnected.applyAll (panelComes 1)).Agrees := by
  have horderly : ∀ p ∈ panelSteps, p.1.Orderly p.2 := by
    intro p hp
    rcases List.mem_cons.mp hp with rfl | hp
    · exact fun _ _ => rfl
    · obtain rfl := List.mem_singleton.mp hp
      exact fun _ _ => rfl
  obtain ⟨hiff, hfound⟩ := agrees_throughout_iff panelSteps panelSteps_run
  obtain ⟨hbefore, hpanel⟩ := hiff.mp horderly
  have hadded : (panelConnected.apply (.addDevice 1 ⟨true, true, true, true⟩)).Agrees :=
    (addDevice_agrees_iff hpanel).mpr fun _ _ => rfl
  have hrun := run_apply (run_apply panelSteps_run
    (e := .addDevice 1 ⟨true, true, true, true⟩) trivial)
    (e := .scanEvent 1 (.connected panelConnector 0 ⟨false, true, true, true⟩)) trivial
  refine ⟨hfound hpanel 0 0, fun hsecond => ?_⟩
  have hall := (agrees_throughout_iff _ hrun).1.mpr ⟨?_, hsecond⟩
  · exact absurd (hall _ (List.mem_append_right _ (List.mem_singleton_self _)) rfl
      ⟨Bool.false_ne_true, rfl, rfl, rfl⟩) (by decide)
  · simp only [List.forall_mem_append, List.forall_mem_singleton]
    exact ⟨⟨hbefore, hpanel⟩, hadded⟩

end Hotplug

end Scape.Display
