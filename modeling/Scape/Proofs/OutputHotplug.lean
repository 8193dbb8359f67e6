import Scape.Display.Hotplug
import Scape.Proofs.OutputLayout

/-!
# Outputs that are gone

An output is kept in three places: under its name in `outputs`, in the spaces it is
mapped in, and among those that have been started. A layout and a start put only outputs
there that are in `outputs`. A disconnect takes an output out of `outputs` and out of
nothing else, and so does a connect, when two devices have a connector of one name.

So a step keeps the three together exactly when the output it takes out, if it takes one
out, is in neither of the other two (`step_tracked_iff`).
-/

namespace Scape.Display.Hotplug

open Scape Fallible Machine

/-- Every surface that a step drops takes its global, and nothing else. -/
theorem dropSurfaces_eq (s : Hotplug) (surfaces : List SurfaceData) :
    s.dropSurfaces surfaces = { s with globals := (s.dropSurfaces surfaces).globals } := by
  induction surfaces generalizing s with
  | nil => rfl
  | cons surface surfaces ih =>
      show (s.dropSurface surface).dropSurfaces surfaces = _
      rw [ih]
      rfl

/-- The output that a step takes out of `outputs`. -/
def dropped (s : Hotplug) : HotplugEvent → Option SmithayOutput
  | .scanEvent node (.connected connector crtc answers) =>
      match s.connectorConnected node connector crtc answers with
      | (_, .ok ()) =>
          if answers.nonDesktop then none else s.display.outputs.lookup connector.outputName
      | (_, .error _) => none
  | .scanEvent node (.disconnected connector crtc) =>
      match s.backends.lookup node with
      | none => none
      | some device =>
          if device.nonDesktopConnectors.any (·.1 = connector.handle) then none
          else s.outputFor node crtc
  | _ => none

/-- An output that is mapped in some space or has been started. -/
def Shown (s : Hotplug) (output : SmithayOutput) : Prop :=
  (∃ spaceName, (s.display.outputLocation spaceName output).isSome) ∨ output ∈ s.startedOutputs

/-- No output is shown that is not in `outputs`. -/
def Tracked (s : Hotplug) : Prop :=
  ∀ output, s.Shown output → output ∈ s.display.outputs.values

/-- The output that the step takes out is not shown. -/
def Spares (s : Hotplug) (e : HotplugEvent) : Prop :=
  ∀ output ∈ s.dropped e, ¬ s.Shown output

/-- Outputs are kept under their names, and the next one is new. -/
def Numbered (s : Hotplug) : Prop :=
  ∀ name output, s.display.outputs.lookup name = some output →
    output.name = name ∧ output.id < s.display.nextOutput

/-- What a hotplug leaves alone: where outputs are mapped, and which have been started. -/
structure Keeps (s t : Hotplug) : Prop where
  spaces : t.display.spaces = s.display.spaces
  startedOutputs : t.startedOutputs = s.startedOutputs
  started : t.started = s.started

/-- What is no matter for the outputs. -/
structure Apart (s t : Hotplug) : Prop where
  display : t.display = s.display
  startedOutputs : t.startedOutputs = s.startedOutputs
  started : t.started = s.started

/-- At most one output is taken out of `outputs`, and at most one comes. -/
structure Swaps (gone : Option SmithayOutput) (s t : Hotplug) : Prop where
  nextOutput : s.display.nextOutput ≤ t.display.nextOutput
  stays : ∀ output, s.display.Connected output → (t.display.Connected output ↔ output ∉ gone)
  comes : ∀ name output, t.display.outputs.lookup name = some output →
    s.display.outputs.lookup name = some output ∨
      (output.name = name ∧ output.id < t.display.nextOutput)

/-- A step does not hide the output that it takes out, and what it shows is there
afterwards. -/
structure Replaces (gone : Option SmithayOutput) (s t : Hotplug) : Prop extends
    Swaps gone s t where
  remains : ∀ output ∈ gone, s.Shown output → t.Shown output
  shows : ∀ output, t.Shown output → s.Shown output ∨ t.display.Connected output

/-- The calls of `start_outputs`. -/
def Calls : HotplugEvent → Prop
  | .setLayout _ _ | .startOutputs => True
  | _ => False

variable {s t : Hotplug} {e : HotplugEvent} {output : SmithayOutput} {node crtc : Nat}
  {connector : Connector} {W : World}

theorem Numbered.named (h : s.Numbered) : s.display.Named :=
  fun name output hlookup => (h name output hlookup).1

theorem shown_congr (h : Keeps s t) : t.Shown output ↔ s.Shown output := by
  unfold Shown State.outputLocation
  rw [h.spaces, h.startedOutputs]

theorem Swaps.replaces {gone : Option SmithayOutput} (h : Swaps gone s t) (hkeeps : Keeps s t) :
    Replaces gone s t where
  toSwaps := h
  remains _ _ := (shown_congr hkeeps).mpr
  shows _ hshown := .inl ((shown_congr hkeeps).mp hshown)

/-! ## Connectors -/

theorem swaps_none (houtputs : t.display.outputs = s.display.outputs)
    (hnext : t.display.nextOutput = s.display.nextOutput) : Swaps none s t where
  nextOutput := hnext.ge
  stays _ hconn := iff_of_true ((State.connected_congr houtputs).mpr hconn) nofun
  comes _ _ hlookup := .inl (by rwa [houtputs] at hlookup)

/-- The end of a connect. What had the name is taken out. -/
theorem swaps_insert (hs : s.Numbered)
    (hdisplay : t.display = s.display.connectorConnected connector.outputName connector.mode) :
    Swaps (s.display.outputs.lookup connector.outputName) s t where
  nextOutput := by
    rw [hdisplay]
    exact Nat.le_succ _
  stays output hconn := by
    obtain ⟨-, hid⟩ := hs output.name output hconn
    rw [State.Connected, hdisplay, State.connectorConnected]
    dsimp only
    by_cases hname : output.name = connector.outputName
    · rw [hname, AList.lookup_insert, ← hname, hconn]
      refine iff_of_false (fun he => ?_) fun hne => hne rfl
      -- the output that comes has a number of its own
      rw [← Option.some.inj he] at hid
      exact lt_irrefl _ hid
    · rw [AList.lookup_insert_ne hname]
      refine iff_of_true hconn fun hmem => hname ?_
      exact (hs connector.outputName output hmem).1
  comes name output hlookup := by
    rw [hdisplay, State.connectorConnected] at hlookup
    dsimp only at hlookup
    by_cases hname : name = connector.outputName
    · rw [hname, AList.lookup_insert] at hlookup
      rw [← Option.some.inj hlookup, hdisplay, hname]
      exact .inr ⟨rfl, Nat.lt_succ_self _⟩
    · rw [AList.lookup_insert_ne hname] at hlookup
      exact .inl hlookup

/-- The end of a disconnect. -/
theorem swaps_retain (gone : SmithayOutput)
    (hdisplay : t.display = s.display.connectorDisconnected gone) : Swaps (some gone) s t where
  nextOutput := by
    rw [hdisplay]
    exact le_rfl
  stays output hconn := by
    have hmem : t.display.Connected output ↔
        (⟨output.name, output⟩ : Σ _ : String, SmithayOutput) ∈ s.display.outputs.entries ∧
          output ≠ gone := by
      rw [State.Connected, hdisplay]
      refine AList.mem_lookup_iff.trans ?_
      refine List.mem_filter.trans ?_
      rw [decide_eq_true_eq]
    rw [hmem, Option.mem_some_iff, eq_comm (a := gone)]
    exact and_iff_right (AList.mem_lookup_iff.mp hconn)
  comes name output hlookup := by
    rw [hdisplay] at hlookup
    have hmem := AList.mem_lookup_iff.mp hlookup
    exact .inl (AList.mem_lookup_iff.mpr (List.mem_of_mem_filter hmem))

theorem connectorConnected_swaps (hs : s.Numbered) {answers : ConnectorAnswers} :
    Swaps (s.dropped (.scanEvent node (.connected connector crtc answers))) s
        (s.connectorConnected node connector crtc answers).1 ∧
      Keeps s (s.connectorConnected node connector crtc answers).1 := by
  obtain ⟨nonDesktop, surfaceCreated, driverFound, compositorCreated⟩ := answers
  unfold dropped connectorConnected
  dsimp only
  cases s.backends.lookup node with
  | none => exact ⟨swaps_none rfl rfl, rfl, rfl, rfl⟩
  | some device =>
      cases nonDesktop with
      | true => exact ⟨swaps_none rfl rfl, rfl, rfl, rfl⟩
      | false =>
          cases surfaceCreated with
          | false => exact ⟨swaps_none rfl rfl, rfl, rfl, rfl⟩
          | true =>
              cases driverFound with
              | false => exact ⟨swaps_none rfl rfl, rfl, rfl, rfl⟩
              | true =>
                  cases compositorCreated with
                  | false => exact ⟨swaps_none rfl rfl, rfl, rfl, rfl⟩
                  | true =>
                      dsimp only [addSurface]
                      rw [dropSurfaces_eq]
                      exact ⟨swaps_insert hs rfl, rfl, rfl, rfl⟩

theorem connectorDisconnected_swaps :
    Swaps (s.dropped (.scanEvent node (.disconnected connector crtc))) s
        (s.connectorDisconnected node connector crtc) ∧
      Keeps s (s.connectorDisconnected node connector crtc) := by
  unfold dropped connectorDisconnected
  dsimp only
  cases s.backends.lookup node with
  | none => exact ⟨swaps_none rfl rfl, rfl, rfl, rfl⟩
  | some device =>
      dsimp only
      by_cases hlease : device.nonDesktopConnectors.any (·.1 = connector.handle) = true
      · rw [if_pos hlease, if_pos hlease]
        exact ⟨swaps_none rfl rfl, rfl, rfl, rfl⟩
      · rw [if_neg hlease, if_neg hlease]
        generalize hu : (s.setBackend node
          { device with surfaces := device.surfaces.erase crtc }).dropSurfaces
            (device.surfaces.lookup crtc).toList = u
        rw [dropSurfaces_eq] at hu
        have hfor : u.outputFor node crtc = s.outputFor node crtc := by rw [← hu]; rfl
        have hkeeps : Keeps s u := by rw [← hu]; exact ⟨rfl, rfl, rfl⟩
        have hdisplay : u.display = s.display := by rw [← hu]; rfl
        rw [hfor]
        cases s.outputFor node crtc with
        | none => exact ⟨swaps_none (by rw [hdisplay]) (by rw [hdisplay]), hkeeps⟩
        | some gone =>
            refine ⟨swaps_retain gone ?_, hkeeps.spaces, hkeeps.startedOutputs,
              hkeeps.started⟩
            rw [← hdisplay]

/-! ## Layouts and starts -/

theorem startLoop_eq (s : Hotplug) (outputs : List SmithayOutput) :
    s.startLoop outputs =
      { s with
        startedOutputs := (s.startLoop outputs).startedOutputs
        started := (s.startLoop outputs).started
        idles := (s.startLoop outputs).idles } := by
  induction outputs generalizing s with
  | nil => rfl
  | cons output outputs ih =>
      rw [startLoop]
      split
      · rfl
      · rw [ih]

theorem startLoop_starts (outputs : List SmithayOutput)
    (h : output ∈ (s.startLoop outputs).startedOutputs) :
    output ∈ s.startedOutputs ∨ output ∈ outputs := by
  induction outputs generalizing s with
  | nil => exact .inl h
  | cons first outputs ih =>
      rw [startLoop] at h
      split at h
      · exact .inl h
      · rcases ih h with hold | hnew
        · rcases Finset.mem_insert.mp hold with he | hold
          · exact .inr (List.mem_cons.mpr (.inl he))
          · exact .inl hold
        · exact .inr (List.mem_cons_of_mem _ hnew)

/-- What the start of the outputs adds is one of them. -/
theorem startOutputs_shows (hs : s.display.Named) (h : s.startOutputs.Shown output) :
    s.Shown output ∨ s.display.Connected output := by
  rcases h with ⟨spaceName, hmapped⟩ | hstarted
  · rw [startOutputs, startLoop_eq] at hmapped
    exact .inl (.inl ⟨spaceName, hmapped⟩)
  · rcases startLoop_starts _ hstarted with hold | hnew
    · exact .inl (.inr hold)
    · exact .inr ((State.mem_values_iff hs).mp hnew)

theorem startOutputs_replaces (hs : s.Numbered) : Replaces none s s.startOutputs where
  nextOutput := by
    rw [startOutputs, startLoop_eq]
  stays output hconn := by
    rw [startOutputs, startLoop_eq]
    exact iff_of_true hconn nofun
  comes name output hlookup := by
    rw [startOutputs, startLoop_eq] at hlookup
    exact .inl hlookup
  remains := nofun
  shows output hshown := by
    refine (startOutputs_shows hs.named hshown).imp_right fun hconn => ?_
    rw [startOutputs, startLoop_eq]
    exact hconn

theorem setLayout_nextOutput {u : State} {layout : HashMap String (List Output)} :
    (u.setLayout W layout).nextOutput = u.nextOutput :=
  State.setLayout_keeps (fun _ _ => rfl) fun _ _ => rfl

theorem setLayout_replaces (hs : s.Numbered) (layout : HashMap String (List Output)) :
    Replaces none s { s with display := s.display.setLayout W layout } where
  nextOutput := setLayout_nextOutput.ge
  stays output hconn := by
    refine iff_of_true ?_ nofun
    exact (State.connected_congr (State.setLayout_laysOut hs.named layout).outputs).mpr hconn
  comes name output hlookup := by
    dsimp only at hlookup
    rw [(State.setLayout_laysOut hs.named layout).outputs] at hlookup
    exact .inl hlookup
  remains := nofun
  shows output hshown := by
    have hlaid := State.setLayout_laysOut (W := W) hs.named layout
    by_cases hconn : s.display.Connected output
    · exact .inr ((State.connected_congr hlaid.outputs).mpr hconn)
    · refine .inl (hshown.imp_left fun ⟨spaceName, hmapped⟩ => ⟨spaceName, ?_⟩)
      rwa [hlaid.unknown spaceName output hconn] at hmapped

/-! ## Runs -/

theorem Swaps.numbered {gone : Option SmithayOutput} (h : Swaps gone s t)
    (hs : s.Numbered) : t.Numbered := by
  intro name output hlookup
  rcases h.comes name output hlookup with hold | hnew
  · obtain ⟨hname, hid⟩ := hs name output hold
    exact ⟨hname, hid.trans_le h.nextOutput⟩
  · exact hnew

/-- Steps that take nothing out follow each other. -/
theorem Replaces.trans {u : Hotplug} (h : Replaces none s t) (h' : Replaces none t u) :
    Replaces none s u where
  nextOutput := h.nextOutput.trans h'.nextOutput
  stays output hconn :=
    h'.stays output ((h.stays output hconn).mpr nofun)
  comes name output hlookup := by
    rcases h'.comes name output hlookup with hold | hnew
    · refine (h.comes name output hold).imp_right fun ⟨hname, hid⟩ => ⟨hname, ?_⟩
      exact hid.trans_le h'.nextOutput
    · exact .inr hnew
  remains := nofun
  shows output hshown := by
    rcases h'.shows output hshown with hold | hconn
    · refine (h.shows output hold).imp_right fun hconn => ?_
      exact (h'.stays output hconn).mpr nofun
    · exact .inr hconn

theorem checkReadyness_eq (s : Hotplug) :
    s.checkReadyness =
      { s with
        readyState := s.checkReadyness.readyState
        startups := s.checkReadyness.startups } := by
  rw [checkReadyness]
  split <;> rfl

theorem addDevice_apart {answers : DeviceAnswers} :
    Apart s (s.addDevice node answers).1 := by
  obtain ⟨opened, drmCreated, gbmCreated, nodeAdded⟩ := answers
  cases opened with
  | false => exact ⟨rfl, rfl, rfl⟩
  | true =>
      cases drmCreated with
      | false => exact ⟨rfl, rfl, rfl⟩
      | true =>
          cases gbmCreated with
          | false => exact ⟨rfl, rfl, rfl⟩
          | true =>
              cases nodeAdded with
              | false => exact ⟨rfl, rfl, rfl⟩
              | true =>
                  show Apart s (s.insertSource.2.insertBackend node _)
                  rw [insertBackend, dropSurfaces_eq]
                  exact ⟨rfl, rfl, rfl⟩

theorem removeBackend_apart : Apart s (s.removeBackend node) := by
  rw [removeBackend]
  cases s.backends.lookup node with
  | none => exact ⟨rfl, rfl, rfl⟩
  | some device =>
      dsimp only
      rw [dropSurfaces_eq]
      exact ⟨rfl, rfl, rfl⟩

theorem runIdle_apart : Apart s s.runIdle := by
  rw [runIdle]
  cases s.idles with
  | zero => exact ⟨rfl, rfl, rfl⟩
  | succ idles =>
      dsimp only
      rw [backendReady, checkReadyness_eq]
      exact ⟨rfl, rfl, rfl⟩

theorem xwaylandReady_apart : Apart s s.xwaylandReady := by
  rw [xwaylandReady, checkReadyness_eq]
  exact ⟨rfl, rfl, rfl⟩

theorem Apart.swaps (h : Apart s t) : Swaps none s t ∧ Keeps s t :=
  ⟨swaps_none (by rw [h.display]) (by rw [h.display]), by rw [h.display], h.startedOutputs,
    h.started⟩

theorem withOutputs_swaps {outputs : HashMap String SmithayOutput}
    (h : outputs.entries.Perm s.display.outputs.entries) :
    Swaps none s (s.withOutputs outputs) where
  nextOutput := le_rfl
  stays _ hconn := iff_of_true ((AList.perm_lookup h).trans hconn) nofun
  comes _ _ hlookup := .inl ((AList.perm_lookup h).symm.trans hlookup)

theorem step_swaps (hs : s.Numbered) (he : ¬ Calls e) (hstep : system.step s e t) :
    Swaps (s.dropped e) s t ∧ Keeps s t := by
  obtain ⟨hadmits, rfl⟩ := hstep
  cases e with
  | addDevice node answers => exact addDevice_apart.swaps
  | scanEvent node event =>
      cases event with
      | connected connector crtc answers => exact connectorConnected_swaps hs
      | disconnected connector crtc => exact connectorDisconnected_swaps
  | removeBackend node => exact removeBackend_apart.swaps
  | setLayout W layout => exact absurd trivial he
  | startOutputs => exact absurd trivial he
  | runIdle => exact runIdle_apart.swaps
  | xwaylandReady => exact xwaylandReady_apart.swaps
  | rehash outputs => exact ⟨withOutputs_swaps hadmits, rfl, rfl, rfl⟩

theorem step_replaces (hs : s.Numbered) (hstep : system.step s e t) :
    Replaces (s.dropped e) s t := by
  by_cases he : Calls e
  · obtain ⟨-, rfl⟩ := hstep
    cases e with
    | setLayout W layout =>
        have hlaid := setLayout_replaces (W := W) hs layout
        exact hlaid.trans (startOutputs_replaces (hlaid.numbered hs))
    | startOutputs => exact startOutputs_replaces hs
    | _ => cases he
  · obtain ⟨hswaps, hkeeps⟩ := step_swaps hs he hstep
    exact hswaps.replaces hkeeps

theorem reachable_numbered {ok : Hotplug → HotplugEvent → Prop}
    (h : ReachableUnder system ok s) : s.Numbered := by
  refine h.invariant ?_ ?_
  · intro s hinit name output hlookup
    rw [hinit.display] at hlookup
    cases hlookup
  · exact fun s e t hs _ hstep => (step_replaces hs hstep).numbered hs

theorem step_tracked_iff (hs : s.Numbered) (h : s.Tracked) (hstep : system.step s e t) :
    t.Tracked ↔ s.Spares e := by
  have hreplaces := step_replaces hs hstep
  have ht := hreplaces.numbered hs
  constructor
  · intro htracked output hgone hshown
    have hconn := (State.mem_values_iff hs.named).mp (h output hshown)
    have hconn' := (State.mem_values_iff ht.named).mp
      (htracked output (hreplaces.remains output hgone hshown))
    exact (hreplaces.stays output hconn).mp hconn' hgone
  · intro hspares output hshown
    refine (State.mem_values_iff ht.named).mpr ?_
    rcases hreplaces.shows output hshown with hold | hconn
    · have hconn := (State.mem_values_iff hs.named).mp (h output hold)
      exact (hreplaces.stays output hconn).mpr fun hgone => hspares output hgone hold
    · exact hconn

theorem reachable_tracked (h : ReachableUnder system Spares s) : s.Tracked := by
  refine h.invariant_using (J := Numbered) (fun _ => reachable_numbered) ?_ ?_
  · rintro s hinit output (⟨spaceName, hmapped⟩ | hstarted)
    · rw [hinit.display] at hmapped
      obtain ⟨-, mapped, hmem, -⟩ := State.outputLocation_isSome_iff.mp hmapped
      cases hmem
    · rw [hinit.startedOutputs] at hstarted
      exact absurd hstarted (Finset.notMem_empty output)
  · exact fun s e t hs htracked hok hstep => (step_tracked_iff hs htracked hstep).mpr hok

/-- In every run in which the outputs that are taken out are not shown, all outputs that
are shown are there; and with the first that is shown, one is left that is not. -/
theorem spares_tracked :
    (ReachableUnder system Spares s → s.Tracked) ∧
      (ReachableUnder system Spares s → system.step s e t → ¬ s.Spares e → ¬ t.Tracked) := by
  refine ⟨reachable_tracked, fun h hstep hnot ht => hnot ?_⟩
  exact (step_tracked_iff (reachable_numbered h) (reachable_tracked h) hstep).mp ht

/-- The connector of a laptop's panel. -/
def panelConnector : Connector := ⟨0, "eDP-1", ⟨1920, 1080⟩⟩

/-- The state after a device and the panel on it have been added. -/
def panelConnected : Hotplug :=
  fresh.applyAll [.addDevice 0 ⟨true, true, true, true⟩,
    .scanEvent 0 (.connected panelConnector 0 ⟨false, true, true, true⟩)]

def panelStarted : Hotplug :=
  panelConnected.setLayout World.quiet (State.panelLayout "main" [])

def panelGone : HotplugEvent := .scanEvent 0 (.disconnected panelConnector 0)

theorem fresh_initial : fresh.IsInitial := ⟨rfl, rfl, rfl, rfl, rfl, rfl⟩

theorem spares_of_none (h : s.dropped e = none) : s.Spares e := by
  intro output hgone
  rw [h] at hgone
  cases hgone

theorem panelConnected_reached : ReachableUnder system Spares panelConnected := by
  have hadded : ReachableUnder system Spares
      (fresh.apply (.addDevice 0 ⟨true, true, true, true⟩)) :=
    .step (i := .addDevice 0 ⟨true, true, true, true⟩) (.init fresh_initial)
      (spares_of_none rfl) ⟨trivial, rfl⟩
  exact .step (i := .scanEvent 0 (.connected panelConnector 0 ⟨false, true, true, true⟩)) hadded
    (spares_of_none rfl) ⟨trivial, rfl⟩

theorem panelStarted_reached : ReachableUnder system Spares panelStarted :=
  .step (i := .setLayout World.quiet (State.panelLayout "main" [])) panelConnected_reached
    (spares_of_none rfl) ⟨trivial, rfl⟩

theorem panelStarted_shown : panelStarted.Shown State.panel := .inl ⟨"main", rfl⟩

/-- While the panel is shown, it may not go. -/
theorem panelStarted_tracked :
    panelStarted.Tracked ∧ ¬ (panelStarted.apply panelGone).Tracked := by
  refine ⟨(spares_tracked (t := fresh) (e := .runIdle)).1 panelStarted_reached,
    (spares_tracked (e := panelGone)).2 panelStarted_reached ⟨trivial, rfl⟩ fun hspares => ?_⟩
  exact hspares State.panel rfl panelStarted_shown

/-- The panel is gone, and is mapped and started as before. -/
theorem panelGone_shown :
    ∃ s, Reachable system s ∧ State.panel ∈ s.startedOutputs ∧
      s.display.outputLocation "main" State.panel = some ⟨0, 0⟩ ∧
      s.display.outputs.values = [] :=
  ⟨panelStarted.apply panelGone,
    panelStarted_reached.reachable.next (i := panelGone) ⟨trivial, rfl⟩, by decide, rfl, rfl⟩

end Scape.Display.Hotplug
