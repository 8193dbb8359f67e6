import Scape.Proofs.ResizeLifeCycle

/-!
# What a resize leaves where it is

A window that is resized by its left edge is to keep its right one where it was, and so
with top and bottom. Only a commit moves the window, and it does not look at where the
window is, but at where it was as the resize began: the place is computed from the first
place, the first size and the size the client has now. So the far edge does not drift
over any number of commits, and a client may commit whatever size it likes.
-/

namespace Scape.Display.Toplevel

open Scape Fallible

variable {t u v : Toplevel} {e : ToplevelEvent} {c : ToplevelCommit} {edges : ResizeEdge}
  {resizeData : ResizeData}

/-- A resize by these edges that began at the first state has moved the window as it
should: far edges are where they were, and so is what is not resized. -/
structure Anchored (edges : ResizeEdge) (start t : Toplevel) : Prop where
  left : edges.left → t.location.x + t.size.1 = start.location.x + start.size.1
  top : edges.top → t.location.y + t.size.2 = start.location.y + start.size.2
  notLeft : ¬ edges.left → t.location.x = start.location.x
  notTop : ¬ edges.top → t.location.y = start.location.y
  neither : ¬ edges.left → ¬ edges.top → t.location = start.location

/-- The event is no new resize, and no commit that has its surface moved. -/
def Undisturbed : ToplevelEvent → Prop
  | .commit c => ∀ delta ∈ c.bufferDelta, delta = ⟨0, 0⟩
  | e => ¬ Grants e

/-- A resize goes on, and has moved nothing along the other axes. -/
structure InResize (resizeData : ResizeData) (t : Toplevel) : Prop where
  resizing : Resizing resizeData t
  x : ¬ resizeData.left → t.location.x = resizeData.initialWindowLocation.x
  y : ¬ resizeData.top → t.location.y = resizeData.initialWindowLocation.y

/-! ## Steps -/

theorem sendPendingConfigure_location : t.sendPendingConfigure.location = t.location := by
  rw [sendPendingConfigure]
  split <;> rfl

theorem unsetGrab_location {touch : Bool} : (t.unsetGrab touch).location = t.location := by
  rw [unsetGrab]
  split
  · rfl
  · split <;> rfl

theorem ackSerial_location {serial : Nat} {found : Bool} :
    (t.ackSerial serial found).location = t.location := by
  rw [ackSerial]
  split
  · rfl
  · rw [ackConfigure]
    split <;> split <;> first | rfl | (split <;> rfl)

theorem resizeRequest_location {touch pointer : Option ResizeStart} {found : Bool}
    (h : t.resizeRequest touch pointer found edges = .ok u) : u.location = t.location := by
  have hstart : ∀ (touch : Bool) (start : ResizeStart),
      (if found && start.sameClient then t.startResize touch start edges else .ok t) = .ok u →
      u.location = t.location := by
    intro touch start hok
    split at hok
    · rw [startResize] at hok
      split at hok
      · cases hok
      · cases hok
        rfl
    · cases hok
      rfl
  unfold resizeRequest at h
  split at h
  · exact hstart true _ h
  · split at h
    · cases h
      rfl
    · exact hstart false _ h

/-- Only a commit moves a window. -/
theorem step_location (he : ∀ c, e ≠ .commit c) (h : t.step e = .ok u) :
    u.location = t.location := by
  have hunset : ∀ (ends touch : Bool),
      (if ends then t.unsetGrab touch else t).location = t.location := by
    intro ends touch
    split
    · exact unsetGrab_location
    · rfl
  cases e with
  | resizeRequest touch pointer found edges => exact resizeRequest_location h
  | motion alive mapped location =>
      obtain ⟨grab, rfl | ⟨size, rfl⟩⟩ := motion_cases h
      · rfl
      · exact sendPendingConfigure_location
  | button nonePressed =>
      cases h
      exact hunset nonePressed false
  | touchUp sameSlot =>
      cases h
      exact hunset sameSlot true
  | touchCancel =>
      cases h
      exact unsetGrab_location
  | reconfigure size serverSide =>
      cases h
      exact sendPendingConfigure_location
  | ack serial found =>
      cases h
      exact ackSerial_location
  | commit c => exact absurd rfl (he c)

theorem point_add_zero (p : Point) : p + ⟨0, 0⟩ = p := by
  show Point.mk (p.x + 0) (p.y + 0) = p
  rw [Int.add_zero, Int.add_zero]

/-- Up to the hook an undisturbed commit moves nothing. -/
theorem commitHandler_location (hc : ∀ delta ∈ c.bufferDelta, delta = ⟨0, 0⟩) :
    (t.commitHandler c).location = t.location := by
  have hhandler : (t.commitHandler c).location = (t.applyCommit c).location := by
    rw [commitHandler, ensureInitialConfigure]
    split
    · rw [finishResizing]
      split <;> split <;> rfl
    · rfl
  rw [hhandler, applyCommit]
  split
  · cases hdelta : c.bufferDelta with
    | none => rfl
    | some delta =>
        rw [hc delta hdelta]
        exact point_add_zero t.location
  · rfl

theorem handleToplevelCommit_size : (t.handleToplevelCommit c).size = t.size := by
  rw [handleToplevelCommit]
  split
  · split <;> rfl
  · rfl

/-- Where a commit leaves the window of a toplevel in a resize. -/
theorem commit_location (ht : Resizing resizeData t)
    (hc : ∀ delta ∈ c.bufferDelta, delta = ⟨0, 0⟩) :
    (t.commit c).location =
      if c.inFirst then State.resizedLocation resizeData t.location (t.commit c).size
      else t.location := by
  have hstate := commitHandler_resizeState (c := c) (.inr ⟨resizeData, ht⟩)
  rw [ht] at hstate
  rw [commit, handleToplevelCommit_size, handleToplevelCommit, hstate]
  dsimp only [Option.getD_some]
  cases c.inFirst with
  | false => exact commitHandler_location hc
  | true =>
      cases hmoves : resizeData.left || resizeData.top with
      | true => exact congrArg (State.resizedLocation _ · _) (commitHandler_location hc)
      | false =>
          rw [Bool.or_eq_false_iff] at hmoves
          have hstays : State.resizedLocation resizeData t.location (t.commitHandler c).size =
              t.location := by
            rw [State.resizedLocation, hmoves.1, hmoves.2]
            rfl
          exact (commitHandler_location hc).trans hstays.symm

theorem commit_inResize (ht : InResize resizeData t)
    (hc : ∀ delta ∈ c.bufferDelta, delta = ⟨0, 0⟩) : InResize resizeData (t.commit c) := by
  have hlocation := commit_location ht.resizing hc
  refine ⟨step_resizing (e := .commit c) ht.resizing id rfl, fun hleft => ?_, fun htop => ?_⟩
  · rw [hlocation]
    split
    · exact (if_neg hleft).trans (ht.x hleft)
    · exact ht.x hleft
  · rw [hlocation]
    split
    · exact (if_neg htop).trans (ht.y htop)
    · exact ht.y htop

theorem step_inResize (ht : InResize resizeData t) (he : Undisturbed e)
    (h : t.step e = .ok u) : InResize resizeData u := by
  by_cases hcommit : ∃ c, e = .commit c
  · obtain ⟨c, rfl⟩ := hcommit
    cases h
    exact commit_inResize ht he
  · have hnot : ∀ c, e ≠ .commit c := fun c hc => hcommit ⟨c, hc⟩
    have hgrants : ¬ Grants e := by
      cases e with
      | commit c => exact absurd rfl (hnot c)
      | _ => exact he
    have hlocation := step_location hnot h
    refine ⟨step_resizing ht.resizing hgrants h, ?_, ?_⟩
    · rw [hlocation]
      exact ht.x
    · rw [hlocation]
      exact ht.y

/-! ## Runs -/

/-- Over any undisturbed run from where a resize is granted, each commit leaves the far
edges where they were then. -/
theorem run_anchored {touch pointer : Option ResizeStart} {found : Bool}
    {events : List ToplevelEvent}
    (hgrant : Grants (.resizeRequest touch pointer found edges))
    (hstart : t.step (.resizeRequest touch pointer found edges) = .ok u)
    (hevents : ∀ e ∈ events, Undisturbed e) (hcommit : Undisturbed (.commit c))
    (hfirst : c.inFirst) (hrun : run step u (events ++ [.commit c]) = .ok v) :
    Anchored edges t v := by
  have hlocation : u.location = t.location := step_location (fun c hc => by cases hc) hstart
  have hinitial : InResize ⟨edges.left, edges.top, t.location, t.size⟩ u := by
    rcases resizeRequest_cases hstart with hgranted | hrefused
    · refine ⟨hgranted.2, fun _ => ?_, fun _ => ?_⟩
      · rw [hlocation]
      · rw [hlocation]
    · exact absurd hgrant hrefused.1
  obtain ⟨w, hevents', hlast⟩ := run_append_eq_ok_iff.mp hrun
  have hw := run_invariant step_inResize hinitial hevents hevents'
  obtain rfl : w.commit c = v := Except.ok.inj hlast
  have hplace := commit_location hw.resizing hcommit
  have hafter := commit_inResize hw hcommit
  rw [if_pos hfirst] at hplace
  have hx : ¬ edges.left → (w.commit c).location.x = t.location.x := hafter.x
  have hy : ¬ edges.top → (w.commit c).location.y = t.location.y := hafter.y
  refine ⟨fun hleft => ?_, fun htop => ?_, hx, hy, fun hleft htop => ?_⟩
  · have heq : (w.commit c).location.x =
        t.location.x + (t.size.1 - (w.commit c).size.1) :=
      (congrArg Point.x hplace).trans (if_pos hleft)
    omega
  · have heq : (w.commit c).location.y =
        t.location.y + (t.size.2 - (w.commit c).size.2) :=
      (congrArg Point.y hplace).trans (if_pos htop)
    omega
  · exact Point.ext (hx hleft) (hy htop)

/-- The client of `leftResize` commits what it was asked for. -/
theorem leftResize_anchored :
    ∃ t u v, run step opened shown = .ok t ∧
      t.step (.resizeRequest none (some ⟨⟨0, 50⟩, true⟩) true ⟨false, false, true, false⟩) =
        .ok u ∧
      run step u ([.motion true true ⟨-100, 50⟩, .button true, .ack 2 true] ++
        [.commit (sizing 300 100)]) = .ok v ∧
      Anchored ⟨false, false, true, false⟩ t v := by
  have hshown : run step opened shown = .ok _ := rfl
  have hgrant : Grants
      (.resizeRequest none (some ⟨⟨0, 50⟩, true⟩) true ⟨false, false, true, false⟩) :=
    ⟨rfl, rfl⟩
  have hcommit : Undisturbed (.commit (sizing 300 100)) := fun delta h => (by cases h)
  have hevents : ∀ e ∈ [.motion true true ⟨-100, 50⟩, .button true, .ack 2 true],
      Undisturbed e := by
    intro e he
    rw [List.mem_cons, List.mem_cons, List.mem_singleton] at he
    rcases he with rfl | rfl | rfl
    · exact id
    · exact id
    · exact id
  exact ⟨_, _, _, hshown, rfl, rfl, run_anchored hgrant rfl hevents hcommit rfl rfl⟩

end Scape.Display.Toplevel
