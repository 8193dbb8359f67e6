import Scape.Display.Frame

/-!
# No render is lost and none is doubled

The three flags of a surface agree with the idle actions and the timers: a surface
is scheduled when one action for it is queued, and there is never a second; a frame
is pending only while a timer of the surface is outstanding; and a render that had
to wait has a pending frame to wait for.

A timer that expires ends the pending frame, whichever timer it is, so the flag is
never up without a timer, however many there are.
-/

namespace Scape.Display

open Machine

namespace UdevData

variable {key : SurfaceKey} {u v : UdevData} {action : Action}

/-- The surface stays the one it is. -/
def Keeps (key : SurfaceKey) (_ : UdevData) (action : Action) : Prop :=
  action ≠ .connected key ∧ action ≠ .disconnected key

/-- How the flags of a surface go with the actions and the timers that name it. -/
structure Consistent (key : SurfaceKey) (u : UdevData) (surface : SurfaceData) : Prop where
  found : u.surfaces key = some surface
  waiting : surface.waitingForSchedule = true →
    surface.pending = true ∧ surface.scheduled = false
  timer : surface.pending = true → key ∈ u.timers
  idle : u.idles.count key = if surface.scheduled then 1 else 0

/-- A render that was asked for has its action queued, or a frame to wait for and
the timer that ends the wait. -/
def Requested (key : SurfaceKey) (u : UdevData) : Prop :=
  key ∈ u.idles ∨
    ∃ surface, u.surfaces key = some surface ∧ surface.waitingForSchedule = true ∧
      key ∈ u.timers

variable {surface : SurfaceData}

namespace Consistent

theorem mem_idles_iff (h : Consistent key u surface) :
    key ∈ u.idles ↔ surface.scheduled = true := by
  rw [← List.count_pos_iff, h.idle]
  cases surface.scheduled <;> simp

theorem scheduleRender (h : Consistent key u surface) :
    ∃ surface', Consistent key (u.scheduleRender key) surface' ∧
      Requested key (u.scheduleRender key) := by
  rcases scheduleRender_cases h.found with ⟨hs, heq⟩ | ⟨hs, hp, heq⟩ | ⟨hs, hp, heq⟩ <;>
    rw [heq]
  · exact ⟨surface, h, .inl (h.mem_idles_iff.mpr hs)⟩
  · have hfound : (u.setSurface key (some { surface with waitingForSchedule := true })).surfaces
        key = some { surface with waitingForSchedule := true } := by
      rw [setSurface_surfaces, Function.update_self]
    refine ⟨_, ⟨hfound, fun _ => ⟨hp, hs⟩, h.timer, h.idle⟩, .inr ⟨_, hfound, rfl, ?_⟩⟩
    exact h.timer hp
  · refine ⟨{ surface with scheduled := true }, ⟨?_, fun hw => ?_, h.timer, ?_⟩, .inl ?_⟩
    · exact Function.update_self ..
    · exact absurd ((h.waiting hw).1.symm.trans hp) (by decide)
    · show (u.idles ++ [key]).count key = 1
      rw [List.count_append, h.idle, hs, List.count_singleton_self]
      rfl
    · exact List.mem_append_right _ (List.mem_singleton_self key)

/-- The action that runs is the one that is counted. -/
theorem renderIdle {rest : List SurfaceKey} (h : Consistent key u surface)
    (hidles : u.idles = key :: rest) :
    Consistent key ({ u with idles := rest }.renderIdle key)
      { surface with scheduled := false } := by
  have hscheduled : surface.scheduled = true :=
    h.mem_idles_iff.mp (by rw [hidles]; exact List.mem_cons_self)
  have hcount : rest.count key = 0 := by
    have hone := h.idle
    rw [hidles, List.count_cons_self, hscheduled] at hone
    exact Nat.succ.inj hone
  have hfound : { u with idles := rest }.surfaces key = some surface := h.found
  rw [renderIdle_of_some hfound]
  refine ⟨Function.update_self .., fun hw => ?_, h.timer, hcount⟩
  exact absurd (hscheduled.symm.trans (h.waiting hw).2) (by decide)

theorem frameFinish {frame : FrameFinished} (h : Consistent key u surface)
    (hv : u.frameFinish key frame = some v) : ∃ surface', Consistent key v surface' := by
  rcases frameFinish_cases hv with rfl | ⟨surface', hfound, rfl⟩
  · exact ⟨surface, h⟩
  · obtain rfl : surface' = surface := Option.some.inj (hfound.symm.trans h.found)
    refine ⟨{ surface' with pending := true }, Function.update_self .., fun hw => ?_,
      fun _ => ?_, h.idle⟩
    · exact ⟨rfl, (h.waiting hw).2⟩
    · exact List.mem_append_right _ (List.mem_singleton_self key)

/-- Whichever timer expires, no frame is pending any more; and a render that waited
for it is queued. -/
theorem timerExpires (h : Consistent key u surface) (timers : List SurfaceKey) :
    ∃ surface', Consistent key ({ u with timers := timers }.timerExpires key) surface' ∧
      (surface.waitingForSchedule = true →
        key ∈ ({ u with timers := timers }.timerExpires key).idles) := by
  have hfound : { u with timers := timers }.surfaces key = some surface := h.found
  rcases timerExpires_cases hfound with ⟨hw, heq⟩ | ⟨hw, heq⟩ <;> rw [heq]
  · have hcleared : Consistent key
        ({ u with timers := timers }.setSurface key (some ⟨surface.scheduled, false, false⟩))
        ⟨surface.scheduled, false, false⟩ :=
      ⟨Function.update_self .., nofun, nofun, h.idle⟩
    obtain ⟨surface', hsurface', -⟩ := hcleared.scheduleRender
    refine ⟨surface', hsurface', fun _ => ?_⟩
    rcases scheduleRender_cases hcleared.found with ⟨hs, -⟩ | ⟨-, hp, -⟩ | ⟨-, -, heq⟩
    · exact absurd ((h.waiting hw).2.symm.trans hs) (by decide)
    · cases hp
    · rw [heq]
      exact List.mem_append_right _ (List.mem_singleton_self key)
  · exact ⟨_, ⟨Function.update_self .., fun h' => absurd (hw.symm.trans h') (by decide),
      nofun, h.idle⟩, fun h' => absurd (hw.symm.trans h') (by decide)⟩

end Consistent

/-! ## Other surfaces -/

/-- As far as the surface is concerned nothing has happened. -/
def Same (key : SurfaceKey) (u v : UdevData) : Prop :=
  v.surfaces key = u.surfaces key ∧ v.idles.count key = u.idles.count key ∧
  (key ∈ u.timers → key ∈ v.timers)

theorem Same.trans {w : UdevData} (h : Same key u v) (h' : Same key v w) : Same key u w :=
  ⟨h'.1.trans h.1, h'.2.1.trans h.2.1, fun ht => h'.2.2 (h.2.2 ht)⟩

theorem same_setSurface {other : SurfaceKey} (hne : other ≠ key) (u : UdevData)
    (surface : Option SurfaceData) : Same key u (u.setSurface other surface) :=
  ⟨Function.update_of_ne hne.symm .., rfl, id⟩

theorem same_scheduleRender {other : SurfaceKey} (hne : other ≠ key) (u : UdevData) :
    Same key u (u.scheduleRender other) := by
  cases hfound : u.surfaces other with
  | none =>
      rw [UdevData.scheduleRender, hfound]
      exact ⟨rfl, rfl, id⟩
  | some surface =>
      rcases scheduleRender_cases hfound with ⟨-, heq⟩ | ⟨-, -, heq⟩ | ⟨-, -, heq⟩ <;> rw [heq]
      · exact ⟨rfl, rfl, id⟩
      · exact same_setSurface hne u _
      · refine (same_setSurface hne u _).trans ⟨rfl, ?_, id⟩
        rw [List.count_append, List.count_singleton, beq_false_of_ne hne]
        rfl

/-- Nothing that is done about one surface concerns another. -/
theorem Step.same (hstep : Step u action v) (hne : action.key ≠ key) : Same key u v := by
  cases hstep with
  | scheduleRender => exact same_scheduleRender hne u
  | @renderIdle other rest hidles =>
      have hpopped : Same key u { u with idles := rest } := by
        refine ⟨rfl, ?_, id⟩
        rw [hidles]
        exact (List.count_cons_of_ne hne).symm
      refine hpopped.trans ?_
      rw [UdevData.renderIdle]
      split
      next => exact ⟨rfl, rfl, id⟩
      next => exact same_setSurface hne _ _
  | frameFinish hv =>
      rcases frameFinish_cases hv with rfl | ⟨surface, -, rfl⟩
      · exact ⟨rfl, rfl, id⟩
      · exact (same_setSurface hne u _).trans ⟨rfl, rfl, List.mem_append_left _⟩
  | @timerExpires other hmem =>
      have herased : Same key u { u with timers := u.timers.erase other } :=
        ⟨rfl, rfl, (List.mem_erase_of_ne hne.symm).mpr⟩
      refine herased.trans ?_
      cases hfound : u.surfaces other with
      | none =>
          rw [UdevData.timerExpires, hfound]
          exact ⟨rfl, rfl, id⟩
      | some surface =>
          have hfound' : { u with timers := u.timers.erase other }.surfaces other =
            some surface := hfound
          rcases timerExpires_cases hfound' with ⟨-, heq⟩ | ⟨-, heq⟩ <;> rw [heq]
          · exact (same_setSurface hne _ _).trans (same_scheduleRender hne _)
          · exact same_setSurface hne _ _
  | connected | disconnected => exact same_setSurface hne u _

theorem Consistent.same (h : Consistent key u surface) (hsame : Same key u v) :
    Consistent key v surface :=
  ⟨hsame.1.trans h.found, h.waiting, fun hp => hsame.2.2 (h.timer hp),
    hsame.2.1.trans h.idle⟩

theorem Requested.same (h : Requested key u) (hsame : Same key u v) : Requested key v := by
  rcases h with hidle | ⟨surface, hfound, hw, htimer⟩
  · left
    rw [← List.count_pos_iff] at hidle ⊢
    rw [hsame.2.1]
    exact hidle
  · exact .inr ⟨surface, hsame.1.trans hfound, hw, hsame.2.2 htimer⟩

/-! ## Whole runs -/

theorem Step.consistent (hstep : Step u action v) (hkeeps : Keeps key u action)
    (h : ∃ surface, Consistent key u surface) : ∃ surface, Consistent key v surface := by
  obtain ⟨surface, h⟩ := h
  by_cases hkey : action.key = key
  · cases hstep with
    | scheduleRender =>
        subst hkey
        obtain ⟨surface', h', -⟩ := h.scheduleRender
        exact ⟨surface', h'⟩
    | renderIdle hidles =>
        subst hkey
        exact ⟨_, h.renderIdle hidles⟩
    | frameFinish hv =>
        subst hkey
        exact h.frameFinish hv
    | timerExpires =>
        subst hkey
        obtain ⟨surface', h', -⟩ := h.timerExpires (u.timers.erase _)
        exact ⟨surface', h'⟩
    | connected => exact absurd (congrArg Action.connected hkey) hkeeps.1
    | disconnected => exact absurd (congrArg Action.disconnected hkey) hkeeps.2
  · exact ⟨surface, h.same (hstep.same hkey)⟩

theorem reachable_consistent (h : ReachableUnder (system key) (Keeps key) u) :
    ∃ surface, Consistent key u surface := by
  refine h.invariant (I := fun u => ∃ surface, Consistent key u surface) ?_ ?_
  · rintro u ⟨hnew, hidle⟩
    exact ⟨.new, hnew, nofun, nofun, List.count_eq_zero.mpr hidle⟩
  · exact fun _ _ _ hu hkeeps hstep => hstep.consistent hkeeps hu

/-- A request stays until the action runs. -/
theorem Step.requested (hstep : Step u action v) (hkeeps : Keeps key u action)
    (hu : Consistent key u surface) (h : Requested key u) :
    Requested key v ∨ action = .renderIdle key := by
  by_cases hkey : action.key = key
  · cases hstep with
    | scheduleRender =>
        subst hkey
        obtain ⟨-, -, hrequested⟩ := hu.scheduleRender
        exact .inl hrequested
    | renderIdle => exact .inr (congrArg Action.renderIdle hkey)
    | frameFinish hv =>
        subst hkey
        left
        rcases frameFinish_cases hv with rfl | ⟨surface', hfound, rfl⟩
        · exact h
        · refine h.imp id ?_
          rintro ⟨surface'', hfound', hw, htimer⟩
          obtain rfl : surface'' = surface' := Option.some.inj (hfound'.symm.trans hfound)
          exact ⟨_, Function.update_self .., hw, List.mem_append_left _ htimer⟩
    | @timerExpires other hmem =>
        obtain rfl : other = key := hkey
        left
        left
        obtain ⟨surface', -, hqueued⟩ := hu.timerExpires (u.timers.erase other)
        rcases h with hidle | ⟨surface'', hfound, hw, -⟩
        · have hfound : { u with timers := u.timers.erase other }.surfaces other =
            some surface := hu.found
          rcases timerExpires_cases hfound with ⟨hw, -⟩ | ⟨-, heq⟩
          · exact hqueued hw
          · rw [heq]
            exact hidle
        · obtain rfl : surface'' = surface := Option.some.inj (hfound.symm.trans hu.found)
          exact hqueued hw
    | connected => exact absurd (congrArg Action.connected hkey) hkeeps.1
    | disconnected => exact absurd (congrArg Action.disconnected hkey) hkeeps.2
  · exact .inl (h.same (hstep.same hkey))

/-- As long as the surface is there its flags agree with the queue and the timers,
a call of `schedule_render` leaves a request, a request stays until the action runs,
and one that waits is queued by the first timer of the surface that expires. -/
theorem frames_neither_lost_nor_doubled
    (h : ReachableUnder (system key) (Keeps key) u) :
    ∃ surface, u.surfaces key = some surface ∧
      (surface.waitingForSchedule = true →
        surface.pending = true ∧ surface.scheduled = false) ∧
      (surface.pending = true → key ∈ u.timers) ∧
      (surface.scheduled = true ↔ u.idles.count key = 1) ∧
      u.idles.count key ≤ 1 ∧
      Requested key (u.scheduleRender key) ∧
      (∀ action v, Step u action v → Keeps key u action → Requested key u →
        Requested key v ∨ action = .renderIdle key) ∧
      (surface.waitingForSchedule = true →
        ∀ v, Step u (.timerExpires key) v → key ∈ v.idles) := by
  obtain ⟨surface, hu⟩ := reachable_consistent h
  obtain ⟨-, -, hrequested⟩ := hu.scheduleRender
  have hcount := hu.idle
  refine ⟨surface, hu.found, hu.waiting, hu.timer, ?_, ?_, hrequested, ?_, ?_⟩
  · cases hs : surface.scheduled <;> simp [hcount, hs]
  · cases hs : surface.scheduled <;> simp [hcount, hs]
  · exact fun action v hstep hkeeps => hstep.requested hkeeps hu
  · intro hw v hstep
    cases hstep with
    | timerExpires =>
        obtain ⟨-, -, hqueued⟩ := hu.timerExpires (u.timers.erase key)
        exact hqueued hw

/-! ## A request during a frame -/

def shownFrame : FrameFinished where
  output := some (some 60000)
  submitted := .ok ()
  sessionPaused := false
  videoStreams := false
  timerInserted := true

def oneSurface (surface : SurfaceData) (timers : List SurfaceKey) : UdevData where
  surfaces := Function.update (fun _ => none) ⟨0, 0⟩ (some surface)
  idles := []
  timers := timers

/-- A frame has been shown, and then a render is asked for. -/
theorem duringFrame_reached :
    ReachableUnder (system ⟨0, 0⟩) (Keeps ⟨0, 0⟩)
      ((oneSurface ⟨false, false, true⟩ [⟨0, 0⟩]).scheduleRender ⟨0, 0⟩) := by
  have hstart : ReachableUnder (system ⟨0, 0⟩) (Keeps ⟨0, 0⟩) (oneSurface .new []) :=
    .init ⟨rfl, List.not_mem_nil⟩
  have hframe : (oneSurface .new []).frameFinish ⟨0, 0⟩ shownFrame =
      some (oneSurface ⟨false, false, true⟩ [⟨0, 0⟩]) :=
    congrArg (fun surfaces => some (⟨surfaces, [], [⟨0, 0⟩]⟩ : UdevData))
      (Function.update_idem ..)
  have hkept : ∀ u, Keeps ⟨0, 0⟩ u (.frameFinish ⟨0, 0⟩ shownFrame) :=
    fun _ => ⟨nofun, nofun⟩
  have hasked : ∀ u, Keeps ⟨0, 0⟩ u (.scheduleRender ⟨0, 0⟩) := fun _ => ⟨nofun, nofun⟩
  have hshown := hstart.step (hkept _) (Step.frameFinish hframe)
  exact hshown.step (hasked _) .scheduleRender

theorem duringFrame_waits :
    ∃ surface, ((oneSurface ⟨false, false, true⟩ [⟨0, 0⟩]).scheduleRender ⟨0, 0⟩).surfaces
        ⟨0, 0⟩ = some surface ∧
      (surface.pending = true → (⟨0, 0⟩ : SurfaceKey) ∈
        ((oneSurface ⟨false, false, true⟩ [⟨0, 0⟩]).scheduleRender ⟨0, 0⟩).timers) := by
  obtain ⟨surface, hfound, -, htimer, -⟩ :=
    frames_neither_lost_nor_doubled duringFrame_reached
  exact ⟨surface, hfound, htimer⟩

end UdevData

end Scape.Display
