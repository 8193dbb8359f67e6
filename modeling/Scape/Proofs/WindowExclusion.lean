import Scape.Proofs.OutputLayout

/-!
# Which space a window is in

A window that is made goes into the first space, and no other space can hold it. After
that it moves in two ways: a move to a zone puts it in the first space, and so does the
motion of a touch grab, which does not know where the window is; the motion of a grab of
the pointer puts it in the space it was found in. Neither takes it out of any other.

Another space can come first once a layout has brought a new one, whatever the order of
the map is then. `MovesHome` asks that a window is where it is moved to.
-/

namespace Scape.Display.State

open Scape Fallible Machine

variable {s t : State} {W : World} {e : Event} {name : String} {window : WorkspaceWindow}
  {location : Point}

/-- A window that a step moves is held by no other space than the one it is put in. -/
def MovesHome (s : State) (i : World × Event) : Prop :=
  ∀ placed ∈ moved i.1 s i.2, ∀ name ∈ s.spaces.keys,
    (s.spaces.value name).Holds placed.2 → name = placed.1

instance (s : State) (i : World × Event) : Decidable (MovesHome s i) :=
  inferInstanceAs (Decidable (∀ placed ∈ moved i.1 s i.2, ∀ name ∈ s.spaces.keys,
    (s.spaces.value name).Holds placed.2 → name = placed.1))

/-- What is held is held by a space there is. -/
def Within (s : State) : Prop :=
  ∀ name window, (s.spaces.value name).Holds window → name ∈ s.spaces.keys

/-! ## A window that is moved -/

/-- A window is put in a space, and that is all that happens to the spaces. -/
def Puts (W : World) (name : String) (window : WorkspaceWindow) (s t : State) : Prop :=
  name ∈ s.spaces.keys ∧ ∃ location,
    t.spaces = s.spaces.modify name fun space => space.mapElement W.zIndex window location

theorem grabMotion_puts {grab : SurfaceGrab} (hmoved : s.grabMoved grab = some (name, window)) :
    Ensures (Puts W name window s) (s.grabMotion W grab location) := by
  unfold grabMoved at hmoved
  rw [grabMotion]
  cases hkind : grab.kind with
  | move initial =>
      rw [hkind] at hmoved
      cases hmoved
      dsimp only
      rw [ensures_expect_bind]
      intro space hspace
      exact ensures_pure.mpr ⟨(Registry.get?_eq_some_iff.mp hspace).1, _, rfl⟩
  | resize =>
      rw [hkind] at hmoved
      cases hmoved

theorem pointerMoved_eq_some (h : pointerMoved W s = some (name, window)) :
    ∃ grab, W.pointerGrab = .compositor ∧ s.pointerGrab = some grab ∧
      s.grabMoved grab = some (name, window) := by
  unfold pointerMoved at h
  split at h
  next grab hcompositor hgrab => exact ⟨grab, hcompositor, hgrab, h⟩
  next => cases h

theorem pointerMotion_puts {under : Option PointerFocusTarget}
    (hmoved : pointerMoved W s = some (name, window)) :
    Ensures (Puts W name window s) (s.pointerMotion W under location) := by
  obtain ⟨grab, hcompositor, hgrab, hmoved⟩ := pointerMoved_eq_some hmoved
  rw [pointerMotion, handleMotion]
  dsimp only
  rw [hcompositor, hgrab]
  dsimp only
  split
  next hends =>
    -- a grab that moves is no resize
    have hresize : grab.kind = .resize := of_decide_eq_true (Bool.and_eq_true_iff.mp hends).1
    rw [grabMoved, hresize] at hmoved
    cases hmoved
  next =>
    split
    · exact ensures_error
    · exact grabMotion_puts hmoved

theorem placeWindow_puts {zone : Option String} :
    Ensures (Puts W name window s) (s.placeWindow W name window zone) := by
  rw [placeWindow, ensures_expect_bind]
  intro space hspace
  rw [ensures_bind]
  intro rect _
  exact ensures_pure.mpr ⟨(Registry.get?_eq_some_iff.mp hspace).1, _, rfl⟩

theorem currentMoved_eq_some (h : s.currentMoved = some (name, window)) :
    name = s.spaces.firstKey ∧ s.keyboardFocus = some (.window window) := by
  unfold currentMoved at h
  split at h
  next found hfocus =>
    cases h
    exact ⟨rfl, hfocus⟩
  next => cases h

theorem moveCurrentWindow_puts {zoneName : String} (hmoved : s.currentMoved = some (name, window)) :
    Ensures (Puts W name window s) (s.moveCurrentWindow W zoneName) := by
  obtain ⟨rfl, hfocus⟩ := currentMoved_eq_some hmoved
  rw [moveCurrentWindow, hfocus]
  exact placeWindow_puts

theorem step_puts (hmoved : moved W s e = some (name, window)) :
    Ensures (Puts W name window s) (s.step W e) := by
  unfold moved at hmoved
  split at hmoved
  next point =>
    split at hmoved
    next => cases hmoved
    next hheld =>
      simp only [step, processInputEvent, onPointerMove, if_neg hheld]
      exact pointerMotion_puts hmoved
  next point =>
    simp only [step, processInputEvent, onPointerMoveAbsolute, ensures_expect_bind]
    exact fun _ _ => pointerMotion_puts hmoved
  next outputName point =>
    simp only [step, processInputEvent, onPointerMoveAbsoluteWindowed, ensures_expect_bind]
    exact fun _ _ _ _ => pointerMotion_puts hmoved
  next point =>
    split at hmoved
    next => cases hmoved
    next houtputs =>
      obtain ⟨mapped, hhead⟩ := Option.isSome_iff_exists.mp (List.isSome_head?.mpr houtputs)
      simp only [step, processInputEvent, onTabletTool, hhead]
      exact pointerMotion_puts hmoved
  next slot point =>
    unfold touchMoved at hmoved
    split at hmoved
    next htouch =>
      obtain ⟨grab, hgrab, hmoved⟩ := Option.bind_eq_some_iff.mp hmoved
      simp only [step, processInputEvent, onTouchMotion, htouch, hgrab, if_true]
      exact grabMotion_puts hmoved
    next => cases hmoved
  next => exact moveCurrentWindow_puts hmoved
  next =>
    split at hmoved
    next => cases hmoved
    next hlocked =>
      simp only [step, execute, Bool.eq_false_of_not_eq_true hlocked]
      exact moveCurrentWindow_puts hmoved
  next => cases hmoved

/-- Nothing is held twice after a window has been put in a space exactly if the window
was nowhere else. -/
theorem Puts.exclusive_iff (h : Puts W name window s t) (hex : s.spaces.Exclusive Space.Holds) :
    t.spaces.Exclusive Space.Holds ↔
      ∀ name' ∈ s.spaces.keys, (s.spaces.value name').Holds window → name' = name := by
  obtain ⟨hname, location, hspaces⟩ := h
  rw [hspaces]
  exact Registry.exclusive_modify_iff hex hname fun _ => Space.mem_windows_mapElement

/-! ## Every other step -/

theorem step_keys (hs : s.Known) (hn : s.Named) :
    Ensures (fun t => s.spaces.keys ⊆ t.spaces.keys) (s.step W e) := by
  by_cases he : ChangesOutputs e
  · rcases changesOutputs_cases he with ⟨layout, rfl⟩ | ⟨outputName, mode, rfl⟩ | ⟨gone, rfl⟩
    · exact ensures_ok.mpr (setLayout_laysOut hn layout).keys
    · exact ensures_ok.mpr (List.Subset.refl _)
    · exact ensures_ok.mpr (List.Subset.refl _)
  · exact (step_keepsOutputs hs he).mono fun t ht => (ht.keys ▸ List.Subset.refl _)

theorem step_within (hs : s.Known) (hn : s.Named) (h : s.Within) :
    Ensures Within (s.step W e) := by
  intro t hstep name window hholds
  have hkeys := step_keys hs hn t hstep
  rcases (step_keepsWindows hs t hstep).windows name window hholds with hold | hfresh | hmoved
  · exact hkeys (h name window hold)
  · rw [hfresh.1]
    exact hkeys s.spaces.firstKey_mem
  · exact hkeys (step_puts hmoved t hstep).1

theorem step_exclusive_of_none (hs : s.Known) (h : s.Within)
    (hex : s.spaces.Exclusive Space.Holds) (hnone : moved W s e = none)
    (hstep : s.step W e = .ok t) : t.spaces.Exclusive Space.Holds := by
  have hkeeps := step_keepsWindows hs t hstep
  -- a window that is made is new to all spaces, and goes into one
  have hcases : ∀ name window, (t.spaces.value name).Holds window →
      (name ∈ s.spaces.keys ∧ (s.spaces.value name).Holds window ∧ window.id < s.nextWindow) ∨
        (name = s.spaces.firstKey ∧ window.id = s.nextWindow) := by
    intro name window hholds
    rcases hkeeps.windows name window hholds with hold | hfresh | hmoved
    · exact .inl ⟨h name window hold, hold, hs window (.inl ⟨name, hold⟩)⟩
    · exact .inr hfresh
    · rw [hnone] at hmoved
      cases hmoved
  intro name _ name' _ window hholds hholds'
  rcases hcases name window hholds with ⟨hname, hold, hlt⟩ | ⟨hfirst, hid⟩ <;>
    rcases hcases name' window hholds' with ⟨hname', hold', hlt'⟩ | ⟨hfirst', hid'⟩
  · exact hex name hname name' hname' window hold hold'
  · omega
  · omega
  · rw [hfirst, hfirst']

theorem step_exclusive_iff (hs : s.Known) (h : s.Within) (hex : s.spaces.Exclusive Space.Holds)
    (hstep : s.step W e = .ok t) : t.spaces.Exclusive Space.Holds ↔ MovesHome s (W, e) := by
  rw [MovesHome]
  dsimp only
  cases hmoved : moved W s e with
  | none => exact iff_of_true (step_exclusive_of_none hs h hex hmoved hstep) nofun
  | some placed =>
      obtain ⟨name, window⟩ := placed
      rw [(step_puts hmoved t hstep).exclusive_iff hex]
      constructor
      · rintro hhome _ ⟨⟩
        exact hhome
      · exact fun hhome => hhome (name, window) rfl

/-! ## Runs -/

theorem reachable_within {ok : State → World × Event → Prop} (h : ReachableUnder system ok s) :
    s.Within := by
  refine reachable_invariant (fun _ => reachable_named) ?_ ?_ h
  · exact fun _ _ hmem => absurd hmem List.not_mem_nil
  · exact fun s t W e hs hn hw _ hstep => step_within hs hn hw t hstep

theorem reachable_exclusive (h : ReachableUnder system MovesHome s) :
    s.spaces.Exclusive Space.Holds := by
  refine reachable_invariant (I := fun s => s.spaces.Exclusive Space.Holds)
    (fun _ => reachable_within) ?_ ?_ h
  · exact fun _ _ _ _ _ hmem => absurd hmem List.not_mem_nil
  · exact fun s t W e hs hw hex hok hstep => (step_exclusive_iff hs hw hex hstep).mpr hok

/-- In every run that moves windows only within the space they are in, whatever the order
of the spaces, each window is in at most one; and any other move puts one in two. -/
theorem windows_exclusive :
    (ReachableUnder system MovesHome s → s.spaces.Exclusive Space.Holds) ∧
    (ReachableUnder system MovesHome s → s.step W e = .ok t → ¬ MovesHome s (W, e) →
      ¬ t.spaces.Exclusive Space.Holds) := by
  refine ⟨reachable_exclusive, fun h hstep hnot hex => hnot ?_⟩
  exact (step_exclusive_iff (reachable_known h) (reachable_within h) (reachable_exclusive h)
    hstep).mp hex

/-- A toplevel is opened, the spaces are laid out, and the toplevel is moved to a zone. -/
def moveToLeft (spaceName : String) : List (World × Event) :=
  [(World.quiet, .xdg (.newToplevel ⟨0⟩)),
    (World.quiet, .message (.setZones [⟨"left", 0, 0, 1280, 1440, false⟩])),
    (World.quiet, .message (.setLayout (HashMap.collect [(spaceName, [])]))),
    (World.quiet, .message (.moveCurrentWindowToZone "left"))]

/-- If the layout brings no new space, the toplevel is still in one. -/
theorem moveToLeft_main :
    ∃ s, run next State.new (moveToLeft "main") = .ok s ∧ s.spaces.Exclusive Space.Holds := by
  obtain ⟨s, hrun⟩ : ∃ s, run next State.new (moveToLeft "main") = .ok s := ⟨_, rfl⟩
  have hreached : ReachableUnder system MovesHome s :=
    reachableUnder_run (.init rfl) (by decide) hrun
  exact ⟨s, hrun, (windows_exclusive (W := World.quiet) (e := .refresh) (t := s)).1 hreached⟩

/-- If it brings one that comes first, the toplevel is in both. -/
theorem moveToLeft_other :
    ∃ s, Reachable system s ∧ (s.spaces.value "main").Holds ⟨0, .wayland ⟨0⟩⟩ ∧
      (s.spaces.value "a").Holds ⟨0, .wayland ⟨0⟩⟩ ∧ ¬ s.spaces.Exclusive Space.Holds := by
  have hreached : Reachable system _ :=
    reachable_run (show run next new (moveToLeft "a") = _ from rfl)
  refine ⟨_, hreached, by decide, by decide, fun hex => ?_⟩
  have hsame := hex "main" (by decide) "a" (by decide) ⟨0, .wayland ⟨0⟩⟩ (by decide) (by decide)
  exact absurd hsame (by decide)

end Scape.Display.State
