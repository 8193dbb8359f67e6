import Scape.Proofs.OutputHotplug

/-!
# Which outputs are started

`start_outputs` goes through the outputs and starts those that have not been started. It
ends at the first that has, in whatever order the map has them: what comes after is not
started, and `backend_ready` is not scheduled. So a call does all it is for exactly when
it meets no such output, which is when none of the outputs has been started
(`startLoop_idles_iff`).

No order starts an output twice: the outputs that have been started are the ones that
are recorded, each once, after any run (`reachable_counted`).
-/

namespace Scape.Display.Hotplug

open Scape Machine

/-- The outputs that have been started are those that are recorded, each once. -/
def Counted (s : Hotplug) : Prop :=
  ∀ output, s.started.count output = if output ∈ s.startedOutputs then 1 else 0

/-- What a call of `start_outputs` is for. -/
structure StartsAll (s t : Hotplug) : Prop where
  recorded : ∀ output ∈ t.display.outputs.values, output ∈ t.startedOutputs
  once : t.Counted
  scheduled : t.idles = s.idles + 1

/-- None of the outputs has been started. -/
def Unstarted (s : Hotplug) : Prop :=
  ∀ output ∈ s.display.outputs.values, output ∉ s.startedOutputs

variable {s t : Hotplug} {e : HotplugEvent} {output : SmithayOutput}
  {outputs : List SmithayOutput} {W : World} {layout : HashMap String (List Output)}

theorem values_nodup (hs : s.display.Named) : s.display.outputs.values.Nodup := by
  rw [HashMap.values]
  refine List.Nodup.of_map SmithayOutput.name ?_
  rw [List.map_map]
  have hkeys : s.display.outputs.entries.map (SmithayOutput.name ∘ Sigma.snd) =
      s.display.outputs.entries.map Sigma.fst := by
    refine List.map_congr_left fun entry hentry => ?_
    exact hs entry.1 entry.2 (AList.mem_lookup_iff.mpr hentry)
  rw [hkeys]
  exact s.display.outputs.nodupKeys

/-! ## The loop -/

theorem startLoop_counted (hs : s.Counted) : (s.startLoop outputs).Counted := by
  induction outputs generalizing s with
  | nil => exact hs
  | cons first outputs ih =>
      rw [startLoop]
      split
      · exact hs
      · next hnew =>
          refine ih fun output => ?_
          dsimp only
          simp only [List.count_append, hs output, Finset.mem_insert]
          by_cases he : output = first
          · subst he
            simp [hnew]
          · simp [he, eq_comm (a := first)]

/-- The loop comes to its end when it meets no output that has been started. -/
theorem startLoop_idles_iff (hnodup : outputs.Nodup) :
    (s.startLoop outputs).idles = s.idles + 1 ↔ ∀ output ∈ outputs, output ∉ s.startedOutputs := by
  induction outputs generalizing s with
  | nil => exact iff_of_true rfl nofun
  | cons first outputs ih =>
      obtain ⟨hfirst, hrest⟩ := List.nodup_cons.mp hnodup
      rw [startLoop]
      split
      · next hold =>
          refine iff_of_false (fun hidles => ?_) fun hall => hall first List.mem_cons_self hold
          exact Nat.succ_ne_self _ hidles.symm
      · next hnew =>
          rw [List.forall_mem_cons, and_iff_right hnew]
          refine (ih hrest).trans (forall₂_congr fun output houtput => not_congr ?_)
          -- what the round has started is not among the rest
          rw [Finset.mem_insert, or_iff_right]
          rintro rfl
          exact hfirst houtput

theorem startLoop_records (hnodup : outputs.Nodup)
    (h : ∀ output ∈ outputs, output ∉ s.startedOutputs) :
    ∀ output, output ∈ (s.startLoop outputs).startedOutputs ↔
      output ∈ outputs ∨ output ∈ s.startedOutputs := by
  induction outputs generalizing s with
  | nil => exact fun output => (or_iff_right List.not_mem_nil).symm
  | cons first outputs ih =>
      obtain ⟨hfirst, hrest⟩ := List.nodup_cons.mp hnodup
      obtain ⟨hnew, hothers⟩ := List.forall_mem_cons.mp h
      intro output
      rw [startLoop, if_neg hnew, ih hrest ?_ output, Finset.mem_insert, List.mem_cons]
      · tauto
      · intro other hother hmem
        rcases Finset.mem_insert.mp hmem with rfl | hold
        · exact hfirst hother
        · exact hothers other hother hold

/-! ## A call -/

theorem startOutputs_startsAll_iff (hs : s.display.Named) (hcounted : s.Counted) :
    StartsAll s s.startOutputs ↔ s.Unstarted := by
  have hnodup := values_nodup hs
  refine ⟨fun h => (startLoop_idles_iff hnodup).mp h.scheduled, fun h => ?_⟩
  refine ⟨fun output houtput => ?_, startLoop_counted hcounted, (startLoop_idles_iff hnodup).mpr h⟩
  rw [startOutputs, startLoop_eq] at houtput
  exact (startLoop_records hnodup h output).mpr (.inl houtput)

theorem setLayout_startsAll_iff (hs : s.Numbered) (hcounted : s.Counted) :
    StartsAll s (s.setLayout W layout) ↔ s.Unstarted := by
  have hlaid := State.setLayout_laysOut (W := W) hs.named layout
  have hnamed := ((setLayout_replaces (W := W) hs layout).numbered hs).named
  have hcall : StartsAll s (s.setLayout W layout) ↔
      Unstarted { s with display := s.display.setLayout W layout } :=
    ⟨fun h => (startOutputs_startsAll_iff hnamed hcounted).mp ⟨h.recorded, h.once, h.scheduled⟩,
      fun h =>
        let hall := (startOutputs_startsAll_iff hnamed hcounted).mpr h
        ⟨hall.recorded, hall.once, hall.scheduled⟩⟩
  rw [hcall]
  unfold Unstarted
  dsimp only
  rw [hlaid.outputs]

theorem call_startsAll_iff (hs : s.Numbered) (hcounted : s.Counted) (he : Calls e)
    (hstep : system.step s e t) : StartsAll s t ↔ s.Unstarted := by
  obtain ⟨-, rfl⟩ := hstep
  cases e with
  | setLayout W layout => exact setLayout_startsAll_iff hs hcounted
  | startOutputs => exact startOutputs_startsAll_iff hs.named hcounted
  | _ => cases he

/-! ## Runs -/

theorem step_counted (hs : s.Numbered) (hcounted : s.Counted) (hstep : system.step s e t) :
    t.Counted := by
  by_cases he : Calls e
  · obtain ⟨-, rfl⟩ := hstep
    cases e with
    | setLayout W layout => exact startLoop_counted hcounted
    | startOutputs => exact startLoop_counted hcounted
    | _ => cases he
  · obtain ⟨-, hkeeps⟩ := step_swaps hs he hstep
    rw [Counted]
    rw [hkeeps.startedOutputs, hkeeps.started]
    exact hcounted

theorem reachable_counted {ok : Hotplug → HotplugEvent → Prop}
    (h : ReachableUnder system ok s) : s.Counted := by
  refine h.invariant_using (J := Numbered) (fun _ => reachable_numbered) ?_ ?_
  · intro s hinit output
    rw [hinit.started, hinit.startedOutputs]
    rfl
  · exact fun s e t hs hcounted _ hstep => step_counted hs hcounted hstep

/-- The calls of a run all do what they are for exactly when each of them is made while
none of the outputs has been started. -/
theorem run_startsAll_iff {trace : List (Hotplug × HotplugEvent)} (h : Run system trace s) :
    (∀ p ∈ trace, Calls p.2 → StartsAll p.1 (p.1.apply p.2)) ↔
      ∀ p ∈ trace, Calls p.2 → p.1.Unstarted := by
  refine forall₂_congr fun p hp => forall_congr' fun he => ?_
  obtain ⟨hreached, t, hadmits, rfl⟩ := h.step_of_mem p hp
  exact call_startsAll_iff (reachable_numbered hreached) (reachable_counted hreached) he
    ⟨hadmits, rfl⟩

/-- The steps up to the first layout. -/
def firstLayout : List (Hotplug × HotplugEvent) :=
  [(fresh, .addDevice 0 ⟨true, true, true, true⟩),
    (fresh.apply (.addDevice 0 ⟨true, true, true, true⟩),
      .scanEvent 0 (.connected panelConnector 0 ⟨false, true, true, true⟩)),
    (panelConnected, .setLayout World.quiet (State.panelLayout "main" []))]

theorem run_apply {trace : List (Hotplug × HotplugEvent)} (h : Run system trace s)
    (hadmits : s.Admits e) : Run system (trace ++ [(s, e)]) (s.apply e) :=
  h.step ⟨hadmits, rfl⟩

theorem firstLayout_run : Run system firstLayout panelStarted := by
  have hadded : Run system [_] _ :=
    run_apply (e := .addDevice 0 ⟨true, true, true, true⟩) (.init fresh_initial) trivial
  have hconnected : Run system [_, _] panelConnected :=
    run_apply (e := .scanEvent 0 (.connected panelConnector 0 ⟨false, true, true, true⟩)) hadded
      trivial
  exact run_apply hconnected (e := .setLayout World.quiet (State.panelLayout "main" [])) trivial

theorem firstLayout_startsAll :
    StartsAll panelConnected
      (panelConnected.apply (.setLayout World.quiet (State.panelLayout "main" []))) := by
  have hstarts : ∀ p ∈ firstLayout, Calls p.2 → StartsAll p.1 (p.1.apply p.2) := by
    refine (run_startsAll_iff firstLayout_run).mpr fun p hp hcalls => ?_
    -- only the last of the three steps is a call of `start_outputs`
    obtain rfl | rfl | rfl : p = _ ∨ p = _ ∨ p = _ := by simpa [firstLayout] using hp
    · cases hcalls
    · cases hcalls
    · show ∀ output ∈ panelConnected.display.outputs.values,
        output ∉ panelConnected.startedOutputs
      decide
  exact hstarts (panelConnected, .setLayout World.quiet (State.panelLayout "main" []))
    (by simp [firstLayout]) trivial

/-- Another output than the panel. -/
def monitor : SmithayOutput := ⟨1, "DP-1", ⟨2560, 1440⟩⟩

def monitorAdded : HotplugEvent :=
  .scanEvent 0 (.connected ⟨1, "DP-1", ⟨2560, 1440⟩⟩ 1 ⟨false, true, true, true⟩)

/-- The map with the second output after the first. -/
def panelFirst : HashMap String SmithayOutput :=
  AList.insert "eDP-1" State.panel (AList.insert "DP-1" monitor ∅)

/-- A second output that comes after one that has been started is not started, and
`backend_ready` is not scheduled. -/
theorem monitor_skipped :
    ∃ s t, Reachable system s ∧ system.step s .startOutputs t ∧
      monitor ∈ t.display.outputs.values ∧ monitor ∉ t.startedOutputs ∧ t.idles = s.idles := by
  have hadded : Reachable system (panelStarted.apply monitorAdded) :=
    panelStarted_reached.reachable.next (i := monitorAdded) ⟨trivial, rfl⟩
  have hordered : Reachable system ((panelStarted.apply monitorAdded).withOutputs panelFirst) :=
    hadded.next (i := .rehash panelFirst) ⟨List.Perm.swap _ _ _, rfl⟩
  exact ⟨_, _, hordered, ⟨trivial, rfl⟩, by decide, by decide, rfl⟩

end Scape.Display.Hotplug
