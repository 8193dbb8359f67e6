import Scape.Display.Resize

/-!
# A resize that does not end

The end of a grab only ends the grab: the code that would have the toplevel wait for the
last acknowledgement is commented out. So of the four resize states only two are ever
entered (`run_entered`). A toplevel is `Resizing` from the first resize it is granted on,
through every acknowledgement and every commit, and when it was resized by its left or its
top edge, whatever size its client commits later is taken for another step of the resize.
-/

namespace Scape.Display.Toplevel

open Scape Fallible Machine

/-- A resize is granted: the serial is that of a grab of the same client, and the window is
found. -/
def Grants : ToplevelEvent → Prop
  | .resizeRequest (some start) _ found _ => found ∧ start.sameClient
  | .resizeRequest none (some start) found _ => found ∧ start.sameClient
  | _ => False

/-- No resize state, or `NotResizing`. -/
def Idle (t : Toplevel) : Prop :=
  ∀ resizeState ∈ t.resizeState, resizeState = .notResizing

/-- A resize goes on. -/
def Resizing (resizeData : ResizeData) (t : Toplevel) : Prop :=
  t.resizeState = some (.resizing resizeData)

/-- The hook of a commit moves the window. -/
def MovedBy (t : Toplevel) (c : ToplevelCommit) : Prop :=
  (t.commit c).location ≠ (t.commitHandler c).location

instance (t : Toplevel) (c : ToplevelCommit) : Decidable (t.MovedBy c) :=
  inferInstanceAs (Decidable (_ ≠ _))

/-- The grab has ended, and the client has acknowledged what it was sent and committed
it. -/
structure Done (t : Toplevel) : Prop where
  grab : t.grab = none
  unacked : t.unacked = []
  committed : ∀ configure ∈ t.lastAcked, t.current = configure.state

/-- After a run the toplevel is not being resized, and until it is granted another resize
no commit moves it on that account. -/
structure Settled (trace : List (Toplevel × ToplevelEvent)) (t : Toplevel) : Prop where
  idle : t.Idle
  later : ∀ after u, Run system (trace ++ after) u → (∀ p ∈ after, ¬ Grants p.2) →
    ∀ c, ¬ u.MovedBy c

variable {t u : Toplevel} {e : ToplevelEvent} {c : ToplevelCommit} {resizeData : ResizeData}
  {trace : List (Toplevel × ToplevelEvent)}

/-! ## Steps -/

theorem sendPendingConfigure_resizeState :
    t.sendPendingConfigure.resizeState = t.resizeState := by
  rw [sendPendingConfigure]
  split <;> rfl

theorem unsetGrab_resizeState {touch : Bool} :
    (t.unsetGrab touch).resizeState = t.resizeState := by
  rw [unsetGrab]
  cases t.grab with
  | none => rfl
  | some grab =>
      dsimp only
      split <;> rfl

/-- A motion moves the grab on or drops it, and may ask for a size. -/
theorem motion_cases {alive mapped : Bool} {location : Position}
    (h : t.motion alive mapped location = .ok u) :
    ∃ grab, u = { t with grab := grab } ∨
      ∃ size, u = ({ t with grab := grab } : Toplevel).resize size := by
  rw [motion] at h
  cases hgrab : t.grab with
  | none =>
      rw [hgrab] at h
      cases h
      exact ⟨t.grab, .inl rfl⟩
  | some grab =>
      rw [hgrab] at h
      dsimp only at h
      cases htouch : grab.touch with
      | true =>
          rw [if_pos htouch] at h
          cases h
          exact ⟨t.grab, .inl rfl⟩
      | false =>
          rw [if_neg (Bool.eq_false_iff.mp htouch)] at h
          cases alive with
          | false =>
              cases h
              exact ⟨none, .inl rfl⟩
          | true =>
              rw [if_neg (by simp)] at h
              cases hsize : grab.newSize t.minSize t.maxSize location with
              | error e =>
                  rw [hsize] at h
                  cases h
              | ok size =>
                  rw [hsize] at h
                  refine ⟨some { grab with lastWindowSize := size }, ?_⟩
                  cases mapped with
                  | false =>
                      cases h
                      exact .inl rfl
                  | true =>
                      cases h
                      exact .inr ⟨size, rfl⟩

theorem motion_resizeState {alive mapped : Bool} {location : Position}
    (h : t.motion alive mapped location = .ok u) : u.resizeState = t.resizeState := by
  obtain ⟨grab, rfl | ⟨size, rfl⟩⟩ := motion_cases h
  · rfl
  · exact sendPendingConfigure_resizeState

theorem startResize_resizing {touch : Bool} {start : ResizeStart} {edges : ResizeEdge}
    (h : t.startResize touch start edges = .ok u) :
    Resizing ⟨edges.left, edges.top, t.location, t.size⟩ u := by
  rw [startResize] at h
  cases hstate : t.resizeState with
  | none =>
      rw [hstate] at h
      cases h
  | some resizeState =>
      rw [hstate] at h
      cases h
      rfl

/-- A request is granted, or it does nothing. -/
theorem resizeRequest_cases {touch pointer : Option ResizeStart} {found : Bool}
    {edges : ResizeEdge} (h : t.resizeRequest touch pointer found edges = .ok u) :
    (Grants (.resizeRequest touch pointer found edges) ∧
      Resizing ⟨edges.left, edges.top, t.location, t.size⟩ u) ∨
    (¬ Grants (.resizeRequest touch pointer found edges) ∧ u = t) := by
  have hstart : ∀ (touch : Bool) (start : ResizeStart),
      (if found && start.sameClient then t.startResize touch start edges else .ok t) = .ok u →
      ((found = true ∧ start.sameClient = true) ∧
        Resizing ⟨edges.left, edges.top, t.location, t.size⟩ u) ∨
      (¬ (found = true ∧ start.sameClient = true) ∧ u = t) := by
    intro touch start hok
    rw [← Bool.and_eq_true_iff]
    split at hok
    next hgranted => exact .inl ⟨hgranted, startResize_resizing hok⟩
    next hrefused =>
      cases hok
      exact .inr ⟨hrefused, rfl⟩
  unfold resizeRequest at h
  cases touch with
  | some start => exact hstart true start h
  | none =>
      cases pointer with
      | some start => exact hstart false start h
      | none =>
          cases h
          exact .inr ⟨id, rfl⟩

theorem handleToplevelCommit_resizeState :
    (t.handleToplevelCommit c).resizeState = t.resizeState := by
  rw [handleToplevelCommit]
  split
  · split <;> rfl
  · rfl

theorem ackConfigure_resizeState {configure : Configure} {found : Bool}
    (h : ∀ resizeData serial, t.resizeState ≠ some (.waitingForFinalAck resizeData serial)) :
    (t.ackConfigure configure found).resizeState = t.resizeState := by
  have hkeeps : ∀ v : Toplevel,
      (if found then { v with isSsd := configure.state.serverSide } else v).resizeState =
        v.resizeState := by
    intro v
    split <;> rfl
  refine (hkeeps _).trans ?_
  split
  next resizeData serial hstate => exact absurd hstate (h resizeData serial)
  next => rfl

theorem ackSerial_resizeState {serial : Nat} {found : Bool}
    (h : ∀ resizeData serial, t.resizeState ≠ some (.waitingForFinalAck resizeData serial)) :
    (t.ackSerial serial found).resizeState = t.resizeState := by
  rw [ackSerial]
  cases t.unacked.find? (Configure.serial · = serial) with
  | none => rfl
  | some configure => exact ackConfigure_resizeState h

theorem finishResizing_resizeState
    (h : ∀ resizeData, t.resizeState ≠ some (.waitingForCommit resizeData)) :
    t.finishResizing.resizeState = t.resizeState := by
  rw [finishResizing]
  split
  next resizeData hstate => exact absurd hstate (h resizeData)
  next => rfl

theorem ensureInitialConfigure_resizeState
    (h : ∀ resizeData, t.resizeState ≠ some (.waitingForCommit resizeData)) :
    (t.ensureInitialConfigure c).resizeState = some (t.resizeState.getD .notResizing) := by
  have hdata : ∀ resizeData, t.insertData.resizeState ≠ some (.waitingForCommit resizeData) := by
    intro resizeData hwaiting
    cases hstate : t.resizeState with
    | none =>
        rw [insertData, hstate] at hwaiting
        cases hwaiting
    | some resizeState =>
        rw [insertData, hstate] at hwaiting
        exact h resizeData (hstate.trans hwaiting)
  rw [ensureInitialConfigure]
  split
  · split
    · exact finishResizing_resizeState hdata
    · exact finishResizing_resizeState (t := t.insertData.sendConfigure) hdata
  · rfl

/-- The states that are entered. -/
def Entered (t : Toplevel) : Prop :=
  t.Idle ∨ ∃ resizeData, Resizing resizeData t

theorem Idle.getD (ht : t.Idle) : t.resizeState.getD .notResizing = .notResizing := by
  cases hstate : t.resizeState with
  | none => rfl
  | some resizeState => exact ht resizeState hstate

theorem Entered.ne_of_waiting (h : t.Entered) {resizeState : ResizeState}
    (hidle : resizeState ≠ .notResizing) (hresizing : ∀ d, resizeState ≠ .resizing d) :
    t.resizeState ≠ some resizeState := by
  intro hstate
  rcases h with h | ⟨resizeData, h⟩
  · exact hidle (h resizeState hstate)
  · exact hresizing resizeData (Option.some.inj (hstate.symm.trans h))

theorem commitHandler_resizeState (h : t.Entered) :
    (t.commitHandler c).resizeState = some (t.resizeState.getD .notResizing) :=
  ensureInitialConfigure_resizeState (t := t.applyCommit c)
    fun _ => h.ne_of_waiting (by simp) (by simp)

theorem commit_resizeState (h : t.Entered) :
    (t.commit c).resizeState = some (t.resizeState.getD .notResizing) :=
  handleToplevelCommit_resizeState.trans (commitHandler_resizeState h)

/-- A step that grants nothing leaves the resize state as it is, or gives the toplevel its
first. -/
theorem step_resizeState (ht : t.Entered) (he : ¬ Grants e) (h : t.step e = .ok u) :
    u.resizeState = t.resizeState ∨ u.resizeState = some (t.resizeState.getD .notResizing) := by
  have hunset : ∀ (ends touch : Bool),
      (if ends then t.unsetGrab touch else t).resizeState = t.resizeState := by
    intro ends touch
    split
    · exact unsetGrab_resizeState
    · rfl
  cases e with
  | resizeRequest touch pointer found edges =>
      rcases resizeRequest_cases h with ⟨hgrants, -⟩ | ⟨-, rfl⟩
      · exact absurd hgrants he
      · exact .inl rfl
  | motion alive mapped location => exact .inl (motion_resizeState h)
  | button nonePressed =>
      cases h
      exact .inl (hunset nonePressed false)
  | touchUp sameSlot =>
      cases h
      exact .inl (hunset sameSlot true)
  | touchCancel =>
      cases h
      exact .inl unsetGrab_resizeState
  | reconfigure size serverSide =>
      cases h
      exact .inl sendPendingConfigure_resizeState
  | ack serial found =>
      cases h
      exact .inl (ackSerial_resizeState fun _ _ => ht.ne_of_waiting (by simp) (by simp))
  | commit c =>
      cases h
      exact .inr (commit_resizeState ht)

theorem step_idle (ht : t.Idle) (he : ¬ Grants e) (h : t.step e = .ok u) : u.Idle := by
  intro resizeState hu
  rcases step_resizeState (.inl ht) he h with hsame | hfirst
  · exact ht resizeState (hsame ▸ hu)
  · rw [hfirst, Option.mem_some_iff, ht.getD] at hu
    exact hu.symm

theorem step_resizing (ht : Resizing resizeData t) (he : ¬ Grants e) (h : t.step e = .ok u) :
    Resizing resizeData u := by
  rcases step_resizeState (.inr ⟨resizeData, ht⟩) he h with hsame | hfirst
  · exact hsame.trans ht
  · rw [ht] at hfirst
    exact hfirst

theorem step_granted (he : Grants e) (h : t.step e = .ok u) :
    ∃ resizeData, Resizing resizeData u := by
  cases e with
  | resizeRequest touch pointer found edges =>
      rcases resizeRequest_cases h with ⟨-, hresizing⟩ | ⟨hnot, -⟩
      · exact ⟨_, hresizing⟩
      · exact absurd he hnot
  | _ => cases he

/-! ## Runs -/

theorem run_idle (h : Run system trace t) (hnone : ∀ p ∈ trace, ¬ Grants p.2) : t.Idle := by
  induction h with
  | init hinit =>
      intro resizeState hstate
      rw [hinit.resizeState] at hstate
      cases hstate
  | step _ hst ih =>
      refine step_idle (ih fun p hp => hnone p (List.mem_append_left _ hp)) ?_ hst
      exact hnone _ (List.mem_append_right _ (List.mem_singleton_self _))

/-- Once granted, a resize goes on for ever. -/
theorem run_resizing (h : Run system trace t) (hsome : ∃ p ∈ trace, Grants p.2) :
    ∃ resizeData, Resizing resizeData t := by
  induction h with
  | init hinit =>
      obtain ⟨p, hp, -⟩ := hsome
      exact absurd hp List.not_mem_nil
  | @step trace s u e _ hst ih =>
      by_cases he : Grants e
      · exact step_granted he hst
      · obtain ⟨p, hp, hgrants⟩ := hsome
        rcases List.mem_append.mp hp with hold | hlast
        · obtain ⟨resizeData, hresizing⟩ := ih ⟨p, hold, hgrants⟩
          exact ⟨resizeData, step_resizing hresizing he hst⟩
        · obtain rfl := List.mem_singleton.mp hlast
          exact absurd hgrants he

theorem run_entered (h : Run system trace t) : t.Entered := by
  by_cases hsome : ∃ p ∈ trace, Grants p.2
  · exact .inr (run_resizing h hsome)
  · exact .inl (run_idle h fun p hp hgrants => hsome ⟨p, hp, hgrants⟩)

theorem not_movedBy (ht : t.Idle) : ¬ t.MovedBy c := by
  have hstate := commitHandler_resizeState (c := c) (.inl ht)
  rw [ht.getD] at hstate
  rw [MovedBy, commit, handleToplevelCommit, hstate]
  exact not_not.mpr rfl

/-- What a commit of a toplevel that is `Resizing` does to its window. -/
theorem movedBy_iff (ht : Resizing resizeData t) :
    t.MovedBy c ↔ c.inFirst ∧ (resizeData.left ∨ resizeData.top) ∧
      State.resizedLocation resizeData (t.commitHandler c).location (t.commitHandler c).size ≠
        (t.commitHandler c).location := by
  have hstate := commitHandler_resizeState (c := c) (.inr ⟨resizeData, ht⟩)
  rw [ht] at hstate
  rw [MovedBy, commit, handleToplevelCommit, hstate]
  dsimp only [Option.getD_some]
  rw [← Bool.or_eq_true_iff, ← and_assoc, ← Bool.and_eq_true_iff]
  split
  next hmoves => rw [and_iff_right hmoves]
  next hstays => exact iff_of_false (not_not.mpr rfl) fun hand => hstays hand.1

/-- A toplevel that is done with its resizes is settled exactly when it has had none. -/
theorem done_settled_iff (h : Run system trace t) :
    (t.Done → Settled trace t) ↔ (t.Done → ∀ p ∈ trace, ¬ Grants p.2) := by
  refine imp_congr_right fun _ => ⟨fun hsettled p hp hgrants => ?_, fun hnone => ⟨?_, ?_⟩⟩
  · obtain ⟨resizeData, hresizing⟩ := run_resizing h ⟨p, hp, hgrants⟩
    cases hsettled.idle _ hresizing
  · exact run_idle h hnone
  · intro after u hrun hafter c
    refine not_movedBy (run_idle hrun fun p hp => ?_)
    rcases List.mem_append.mp hp with hold | hnew
    · exact hnone p hold
    · exact hafter p hnew

/-- A toplevel at the origin. -/
def opened : Toplevel where
  location := ⟨0, 0⟩
  ownSize := (0, 0)
  minSize := (0, 0)
  maxSize := (0, 0)
  isSsd := false
  resizeState := none
  grab := none
  pending := ⟨false, none, false⟩
  sent := none
  unacked := []
  lastAcked := none
  current := ⟨false, none, false⟩
  nextSerial := 1

/-- A commit by which the window gets a size. -/
def sizing (width height : Int) : ToplevelCommit :=
  ⟨(width, height), (0, 0), (0, 0), none, true, true⟩

/-- The client shows its window. -/
def shown : List ToplevelEvent :=
  [.commit (sizing 0 0), .ack 1 true, .commit (sizing 200 100)]

/-- It resizes the window by the left edge, lets go, and acknowledges and commits what it
is sent. -/
def leftResize : List ToplevelEvent :=
  shown ++ [.resizeRequest none (some ⟨⟨0, 50⟩, true⟩) true ⟨false, false, true, false⟩,
    .motion true true ⟨-100, 50⟩, .button true, .ack 2 true, .commit (sizing 300 100)]

theorem opened_initial : opened.IsInitial := ⟨rfl, rfl, rfl, rfl, rfl⟩

/-- A client that asks for no resize is granted none. -/
theorem shown_ungranted : ∀ e ∈ shown, ¬ Grants e := by
  intro e he
  rw [shown, List.mem_cons, List.mem_cons, List.mem_singleton] at he
  rcases he with rfl | rfl | rfl
  · exact id
  · exact id
  · exact id

/-- Before the resize the toplevel is settled. -/
theorem shown_settled :
    ∃ t, run step opened shown = .ok t ∧ t.Done ∧ Settled ([] ++ steps step opened shown) t := by
  have hends : run step opened shown = .ok _ := rfl
  refine ⟨_, hends, ⟨rfl, rfl, ?_⟩, ?_⟩
  · intro configure hacked
    exact congrArg Configure.state (Option.some.inj hacked)
  · refine (done_settled_iff (run_steps (.init opened_initial) hends)).mpr
      (fun _ p hp => ?_) ⟨rfl, rfl, fun configure hacked => ?_⟩
    · exact shown_ungranted p.2 (reachable_of_mem_steps (.init opened_initial) hp).2
    · exact congrArg Configure.state (Option.some.inj hacked)

/-- The window stays at its place, and a commit of a smaller size moves it. -/
theorem leftResize_moved :
    ∃ trace t, Run system trace t ∧ t.Done ∧
      t.resizeState = some (.resizing ⟨true, false, ⟨0, 0⟩, (200, 100)⟩) ∧
      t.location = ⟨-100, 0⟩ ∧ t.MovedBy (sizing 150 100) ∧
      (t.commit (sizing 150 100)).location = ⟨50, 0⟩ := by
  have hends : run step opened leftResize = .ok _ := rfl
  refine ⟨_, _, run_steps (.init opened_initial) hends, ⟨rfl, by decide +kernel, ?_⟩,
    by decide +kernel, by decide +kernel, by decide +kernel, by decide +kernel⟩
  intro configure hacked
  exact congrArg Configure.state (Option.some.inj hacked)

end Scape.Display.Toplevel
