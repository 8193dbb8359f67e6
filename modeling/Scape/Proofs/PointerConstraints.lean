import Scape.Display.Constraint
import Scape.Proofs.HitTesting

/-!
# Which events keep to a pointer constraint

A lock leaves the pointer where it is, while the pointer is over its surface and in its
region. A confinement leaves it the region of its surface, and that for as long as it is
active (`PointerState.Allows`).

The motion of a mouse keeps to that, but for one thing: it asks the region about the new
place as seen from where the surface began under the old one. The handlers of absolute
positions and of tablets move the pointer to whatever place they are given. And a new
constraint is activated wherever the pointer is on its surface. A confinement whose region
the pointer is not in holds nothing back from then on, as only one in force is looked at.
-/

namespace Scape.Display

open Fallible

namespace PointerState

/-- Whether a position is on the surface, and in the region that the constraint on it has. -/
def Within (s : PointerState) (surface : WlSurface) (c : PointerConstraint)
    (pos : Position) : Prop :=
  ∃ origin, s.surfaceAt pos = some (surface, origin) ∧ c.admits (pos - origin) = true

/-- The pointer is confined to the surface, in force or not. -/
def Confined (s : PointerState) (surface : WlSurface) (c : PointerConstraint) : Prop :=
  s.constraints surface = some c ∧ c.isActive = true ∧ c.kind = .confined

/-- Every active confinement has the pointer where it belongs. -/
def Confines (s : PointerState) : Prop :=
  ∀ surface c, s.Confined surface c → s.Within surface c s.location

/-- Where the constraints let the pointer be. -/
structure Allows (s : PointerState) (pos : Position) : Prop where
  locked : ∀ a, s.applied = some a → a.constraint.kind = .locked → pos = s.location
  confined : ∀ surface c, s.Confined surface c → s.Within surface c pos

/-- Where a relative motion takes the pointer. -/
def movedTo (s : PointerState) (delta : Position) : Position :=
  s.scene.clampCoords (s.location + delta)

/-- Where a handler that does not look at the constraints moves the pointer. -/
def destination (s : PointerState) : PointerEvent → Option Position
  | .absolute transformed => (s.absoluteLocation transformed).toOption
  | .absoluteWindowed output transformed => (s.windowedLocation output transformed).toOption
  | .tabletAxis transformed => s.scene.outputs.head?.map (outputLocation · transformed)
  | .tabletProximity transformed => s.scene.outputs.head?.map (outputLocation · transformed)
  | .relative _ => none
  | .newConstraint _ _ _ => none

/-- An absolute position or a position of a tablet is one that the constraints allow. A new
confinement that is activated has the pointer in its region. A surface to which the pointer
is confined does not begin elsewhere under the new place of the pointer, with another answer
of the region. -/
def Obeys (s : PointerState) : PointerEvent → Prop
  | .relative delta => ∀ a origin, s.applied = some a → a.constraint.kind = .confined →
      s.surfaceAt (s.movedTo delta) = some (a.surface, origin) →
      a.constraint.admits (s.movedTo delta - a.origin) = true →
        a.constraint.admits (s.movedTo delta - origin) = true
  | .newConstraint surface kind region =>
      kind = .confined → s.currentFocus.bind s.wlSurface = some surface →
        s.Within surface ⟨kind, region, true⟩ s.location
  | e => ∀ pos, s.destination e = some pos → s.Allows pos

/-- After an event the pointer is where it was, if it was locked; and it is on the surface
and in the region of every confinement that was active before, or is now. -/
structure Keeps (s t : PointerState) : Prop where
  locked : ∀ a, s.applied = some a → a.constraint.kind = .locked → t.location = s.location
  before : ∀ surface c, s.Confined surface c → t.Within surface c t.location
  now : ∀ surface c, t.Confined surface c → t.Within surface c t.location

def Respects (s : PointerState) (i : Bool × PointerEvent) : Prop :=
  ∀ t, s.step i = .ok t → s.Keeps t

/-! ## Where the pointer is after an event -/

variable {s t : PointerState} {grabbed : Bool} {pos delta : Position} {a : Applied}
  {under : Option (PointerFocusTarget × Position)} {target : Option PointerFocusTarget}

@[simp] theorem setConstraint_location {surface : WlSurface} {c : PointerConstraint} :
    (s.setConstraint surface c).location = s.location := rfl

@[simp] theorem enter_location : (s.enter target).location = s.location := by
  unfold enter
  split
  · rfl
  · split
    · rfl
    · split <;> rfl

@[simp] theorem motion_location : (s.motion grabbed under pos).location = pos := by
  rw [motion]
  split
  · rfl
  · rw [enter_location]

@[simp] theorem activateAt_location : (s.activateAt pos).location = s.location := by
  rw [activateAt]
  split
  · rfl
  · split
    · rfl
    · split <;> rfl

theorem moveBy_location : (s.moveBy grabbed pos).location = pos := by
  rw [moveBy, activateAt_location, motion_location]

theorem moveTo_location : (s.moveTo grabbed pos).location = pos := motion_location

/-! ## What no event changes -/

def view (s : PointerState) : Scene × (X11Surface → Option WlSurface) :=
  (s.scene, s.x11WlSurface)

theorem surfaceAt_of_view (h : t.view = s.view) : t.surfaceAt = s.surfaceAt := by
  obtain ⟨hscene, hx11⟩ := Prod.mk.inj h
  funext pos
  have hwl : t.wlSurface = s.wlSurface := by
    funext target
    cases target with
    | x11Surface surface =>
        show t.x11WlSurface surface = s.x11WlSurface surface
        rw [hx11]
    | wlSurface surface => rfl
    | ssd window => rfl
    | egui window => rfl
  rw [surfaceAt, surfaceAt, hscene, hwl]

theorem enter_view : (s.enter target).view = s.view := by
  rw [enter]
  split
  · rfl
  · split
    · rfl
    · split <;> rfl

theorem motion_view : (s.motion grabbed under pos).view = s.view := by
  rw [motion]
  split
  · rfl
  · exact enter_view

theorem activateAt_view : (s.activateAt pos).view = s.view := by
  rw [activateAt]
  split
  · rfl
  · split
    · rfl
    · split <;> rfl

/-! ## Confinements -/

theorem within_of_view {surface : WlSurface} {c : PointerConstraint} (h : t.view = s.view) :
    t.Within surface c pos ↔ s.Within surface c pos := by
  rw [Within, Within, surfaceAt_of_view h]

theorem applied_eq_some (h : s.applied = some a) :
    s.surfaceAt s.location = some (a.surface, a.origin) ∧
      s.constraints a.surface = some a.constraint ∧ a.constraint.isActive = true ∧
      a.constraint.admits (s.location - a.origin) = true := by
  obtain ⟨under, hunder, hc⟩ := Option.bind_eq_some_iff.mp h
  obtain ⟨c, hfilter, rfl⟩ := Option.map_eq_some_iff.mp hc
  obtain ⟨hsome, hboth⟩ := Option.filter_eq_some_iff.mp hfilter
  rw [Bool.and_eq_true] at hboth
  exact ⟨hunder, hsome, hboth⟩

/-- A confinement that has the pointer where it belongs is in force. -/
theorem applied_of_confined {surface : WlSurface} {c : PointerConstraint} (hs : s.Confines)
    (h : s.Confined surface c) : ∃ origin, s.applied = some ⟨surface, origin, c⟩ := by
  obtain ⟨origin, hat, hadmits⟩ := hs surface c h
  refine ⟨origin, ?_⟩
  rw [applied, hat, Option.bind_some, h.1]
  simp [Option.filter, h.2.1, hadmits]

theorem confined_of_applied (h : s.applied = some a) (hkind : a.constraint.kind = .confined) :
    s.Confined a.surface a.constraint :=
  ⟨(applied_eq_some h).2.1, (applied_eq_some h).2.2.1, hkind⟩

/-- What the pointer enters is activated later. -/
theorem enter_confined {surface : WlSurface} {c : PointerConstraint}
    (h : (s.enter target).Confined surface c) : s.Confined surface c := by
  obtain ⟨hsome, hactive, hkind⟩ := h
  revert hsome
  rw [enter]
  split
  · exact fun hsome => ⟨hsome, hactive, hkind⟩
  next left _ =>
    split
    · exact fun hsome => ⟨hsome, hactive, hkind⟩
    · split
      · exact fun hsome => ⟨hsome, hactive, hkind⟩
      next old _ =>
        intro hsome
        by_cases hleft : surface = left
        · subst hleft
          have hold : { old with isActive := false } = c := by simpa [setConstraint] using hsome
          rw [← hold] at hactive
          cases hactive
        · exact ⟨by simpa [setConstraint, hleft] using hsome, hactive, hkind⟩

theorem motion_confined {surface : WlSurface} {c : PointerConstraint}
    (h : (s.motion grabbed under pos).Confined surface c) : s.Confined surface c := by
  have hmoved : ({ s with location := pos } : PointerState).Confined surface c := by
    rw [motion] at h
    split at h
    · exact h
    · exact enter_confined h
  exact hmoved

/-- What the end of a motion activates has the pointer in its region. -/
theorem activateAt_confined {surface : WlSurface} {c : PointerConstraint}
    (h : (s.activateAt pos).Confined surface c) :
    s.Confined surface c ∨ s.Within surface c pos := by
  obtain ⟨hsome, hactive, hkind⟩ := h
  revert hsome
  rw [activateAt]
  split
  · exact fun hsome => .inl ⟨hsome, hactive, hkind⟩
  next entered origin hat =>
    split
    · exact fun hsome => .inl ⟨hsome, hactive, hkind⟩
    next old _ =>
      split
      next hinactive =>
        intro hsome
        by_cases hentered : surface = entered
        · subst hentered
          have hold : { old with isActive := true } = c := by simpa [setConstraint] using hsome
          rw [Bool.and_eq_true] at hinactive
          exact .inr ⟨origin, hat, by rw [← hold]; exact hinactive.2⟩
        · exact .inl ⟨by simpa [setConstraint, hentered] using hsome, hactive, hkind⟩
      next => exact fun hsome => .inl ⟨hsome, hactive, hkind⟩

/-! ## Moves -/

/-- The pointer has not moved, and no confinement is new. -/
theorem keeps_of_stays (hs : s.Confines) : s.Keeps s where
  locked := fun _ _ _ => rfl
  before := hs
  now := hs

theorem moveTo_keeps_iff : s.Keeps (s.moveTo grabbed pos) ↔ s.Allows pos := by
  have hwithin : ∀ surface c, (s.moveTo grabbed pos).Within surface c
      (s.moveTo grabbed pos).location ↔ s.Within surface c pos := fun surface c => by
    rw [moveTo_location]
    exact within_of_view motion_view
  constructor
  · intro h
    refine ⟨fun a ha hkind => ?_,
      fun surface c hc => (hwithin surface c).mp (h.before surface c hc)⟩
    rw [← h.locked a ha hkind, moveTo_location]
  · intro h
    refine ⟨fun a ha hkind => ?_, fun surface c hc => ?_, fun surface c hc => ?_⟩
    · rw [moveTo_location, h.locked a ha hkind]
    · exact (hwithin surface c).mpr (h.confined surface c hc)
    · exact (hwithin surface c).mpr (h.confined surface c (motion_confined hc))

theorem moveBy_within {surface : WlSurface} {c : PointerConstraint} :
    (s.moveBy grabbed pos).Within surface c (s.moveBy grabbed pos).location ↔
      s.Within surface c pos := by
  rw [moveBy_location]
  exact within_of_view (activateAt_view.trans motion_view)

theorem moveBy_confined {surface : WlSurface} {c : PointerConstraint}
    (h : (s.moveBy grabbed pos).Confined surface c) :
    s.Confined surface c ∨ s.Within surface c pos :=
  (activateAt_confined h).imp motion_confined (within_of_view motion_view).mp

/-- A move out of no lock keeps the pointer confined exactly if it goes to where it should. -/
theorem moveBy_keeps_iff (h : ∀ a, s.applied = some a → a.constraint.kind ≠ .locked) :
    s.Keeps (s.moveBy grabbed pos) ↔
      ∀ surface c, s.Confined surface c → s.Within surface c pos := by
  constructor
  · exact fun hkeeps surface c hc => moveBy_within.mp (hkeeps.before surface c hc)
  · intro hin
    refine ⟨fun a ha hkind => absurd hkind (h a ha), fun surface c hc => ?_, fun surface c hc => ?_⟩
    · exact moveBy_within.mpr (hin surface c hc)
    · exact moveBy_within.mpr ((moveBy_confined hc).elim (hin surface c) id)

theorem within_iff {surface : WlSurface} {origin : Position} {c : PointerConstraint}
    (h : s.surfaceAt pos = some (surface, origin)) :
    s.Within surface c pos ↔ c.admits (pos - origin) = true := by
  simp [Within, h]

theorem escapes_eq_false_iff : s.escapes a pos = false ↔
    ∃ origin, s.surfaceAt pos = some (a.surface, origin) ∧
      a.constraint.admits (pos - a.origin) = true := by
  rw [escapes, Bool.or_eq_false_iff, decide_eq_false_iff_not, not_not, Bool.not_eq_false',
    Option.map_eq_some_iff]
  constructor
  · intro h
    obtain ⟨⟨⟨surface, origin⟩, hat, rfl⟩, hadmits⟩ := h
    exact ⟨origin, hat, hadmits⟩
  · intro h
    obtain ⟨origin, hat, hadmits⟩ := h
    exact ⟨⟨_, hat, rfl⟩, hadmits⟩

/-- The one confinement of a pointer that is confined. -/
theorem confined_iff (hs : s.Confines) (ha : s.applied = some a)
    (hkind : a.constraint.kind = .confined) {surface : WlSurface} {c : PointerConstraint} :
    s.Confined surface c ↔ surface = a.surface ∧ c = a.constraint := by
  constructor
  · intro hc
    obtain ⟨origin, happlied⟩ := applied_of_confined hs hc
    obtain rfl : a = _ := Option.some.inj (ha.symm.trans happlied)
    exact ⟨rfl, rfl⟩
  · intro h
    obtain ⟨rfl, rfl⟩ := h
    exact confined_of_applied ha hkind

/-- A mouse takes the pointer out of a lock or a confinement only if the surface begins
elsewhere under the new place. -/
theorem onPointerMove_keeps_iff (hs : s.Confines) :
    s.Keeps (s.onPointerMove grabbed delta) ↔ s.Obeys (.relative delta) := by
  rw [onPointerMove, show s.scene.clampCoords (s.location + delta) = s.movedTo delta from rfl]
  cases ha : s.applied with
  | none =>
      have hnone : ∀ surface c, ¬ s.Confined surface c := fun surface c hc => by
        obtain ⟨origin, happlied⟩ := applied_of_confined hs hc
        cases ha.symm.trans happlied
      refine iff_of_true ((moveBy_keeps_iff fun a happlied => ?_).mpr fun surface c hc => ?_)
        fun a origin happlied => ?_
      · cases ha.symm.trans happlied
      · exact absurd hc (hnone surface c)
      · cases ha.symm.trans happlied
  | some a =>
      dsimp only
      cases hkind : a.constraint.kind with
      | locked =>
          refine iff_of_true (keeps_of_stays hs) fun a' origin happlied hconfined => ?_
          obtain rfl : a = a' := Option.some.inj (ha.symm.trans happlied)
          cases hkind.symm.trans hconfined
      | confined =>
          have hobeys : s.Obeys (.relative delta) ↔
              ∀ origin, s.surfaceAt (s.movedTo delta) = some (a.surface, origin) →
                a.constraint.admits (s.movedTo delta - a.origin) = true →
                  a.constraint.admits (s.movedTo delta - origin) = true := by
            constructor
            · exact fun h origin => h a origin ha hkind
            · intro h a' origin happlied _
              obtain rfl : a = a' := Option.some.inj (ha.symm.trans happlied)
              exact h origin
          rw [hobeys]
          dsimp only
          split
          next hescapes =>
            refine iff_of_true (keeps_of_stays hs) fun origin hat hadmits => ?_
            cases hescapes.symm.trans (escapes_eq_false_iff.mpr ⟨origin, hat, hadmits⟩)
          next hstays =>
            obtain ⟨origin, hat, hadmits⟩ :=
              escapes_eq_false_iff.mp (Bool.eq_false_of_not_eq_true hstays)
            have hunlocked : ∀ a', s.applied = some a' → a'.constraint.kind ≠ .locked := by
              intro a' happlied hlocked
              obtain rfl : a = a' := Option.some.inj (ha.symm.trans happlied)
              cases hkind.symm.trans hlocked
            rw [moveBy_keeps_iff hunlocked]
            constructor
            · intro h origin' hat' _
              exact (within_iff hat').mp (h _ _ ((confined_iff hs ha hkind).mpr ⟨rfl, rfl⟩))
            · intro h surface c hc
              obtain ⟨rfl, rfl⟩ := (confined_iff hs ha hkind).mp hc
              exact (within_iff hat).mpr (h origin hat hadmits)

/-! ## Every event -/

/-- A confinement that is there after the request is one from before, or the new one. -/
theorem newConstraint_confined_iff {surface other : WlSurface} {kind : ConstraintKind}
    {region : Option (Point → Bool)} {c : PointerConstraint} :
    (s.newConstraint surface kind region).Confined other c ↔
      (other ≠ surface ∧ s.Confined other c) ∨
      (other = surface ∧ c = ⟨kind, region, true⟩ ∧ kind = .confined ∧
        s.currentFocus.bind s.wlSurface = some surface) := by
  rw [Confined, Confined, newConstraint, setConstraint]
  by_cases hother : other = surface
  · subst hother
    simp only [Function.update_self, Option.some.injEq, ne_eq, not_true_eq_false, false_and,
      true_and, false_or]
    constructor
    · intro h
      obtain ⟨rfl, hactive, hkind⟩ := h
      have hfocus := of_decide_eq_true hactive
      exact ⟨by rw [decide_eq_true hfocus], hkind, hfocus⟩
    · intro h
      obtain ⟨rfl, hkind, hfocus⟩ := h
      exact ⟨by rw [decide_eq_true hfocus], rfl, hkind⟩
  · simp [hother]

theorem newConstraint_keeps_iff (hs : s.Confines) {surface : WlSurface} {kind : ConstraintKind}
    {region : Option (Point → Bool)} :
    s.Keeps (s.newConstraint surface kind region) ↔
      s.Obeys (.newConstraint surface kind region) := by
  have hwithin : ∀ other c, (s.newConstraint surface kind region).Within other c
      (s.newConstraint surface kind region).location ↔ s.Within other c s.location :=
    fun other c => within_of_view rfl
  constructor
  · intro h hkind hfocus
    refine (hwithin _ _).mp (h.now _ _ (newConstraint_confined_iff.mpr ?_))
    exact .inr ⟨rfl, rfl, hkind, hfocus⟩
  · intro h
    refine ⟨fun _ _ _ => rfl, fun other c hc => (hwithin other c).mpr (hs other c hc),
      fun other c hc => (hwithin other c).mpr ?_⟩
    rcases newConstraint_confined_iff.mp hc with ⟨-, hold⟩ | ⟨rfl, rfl, hkind, hfocus⟩
    · exact hs other c hold
    · exact h hkind hfocus

/-- A handler that fails has no place to move the pointer to. -/
theorem located_keeps_iff {x : Except Panic Position} :
    (∀ t, (x >>= fun location => (pure (s.moveTo grabbed location) : Except Panic PointerState)) =
        .ok t → s.Keeps t) ↔
      ∀ pos, x.toOption = some pos → s.Allows pos := by
  cases x with
  | error panic => exact iff_of_true (fun t ht => by cases ht) fun pos hpos => by cases hpos
  | ok location =>
      constructor
      · intro h pos hpos
        cases hpos
        exact moveTo_keeps_iff.mp (h _ rfl)
      · intro h t ht
        cases ht
        exact moveTo_keeps_iff.mpr (h _ rfl)

/-- Without an output a tablet does not move the pointer. -/
theorem tablet_keeps_iff (hs : s.Confines) {transformed : Int → Int → Position}
    (hstep : s.onTabletToolAxis grabbed transformed = t) :
    s.Keeps t ↔
      ∀ pos, s.scene.outputs.head?.map (outputLocation · transformed) = some pos →
        s.Allows pos := by
  subst hstep
  rw [onTabletToolAxis]
  cases s.scene.outputs.head? with
  | none => exact iff_of_true (keeps_of_stays hs) fun pos hpos => by cases hpos
  | some o =>
      rw [moveTo_keeps_iff]
      exact ⟨fun h pos hpos => by cases hpos; exact h, fun h => h _ rfl⟩

theorem respects_iff (hs : s.Confines) (i : Bool × PointerEvent) :
    s.Respects i ↔ s.Obeys i.2 := by
  obtain ⟨grabbed, e⟩ := i
  have hone : ∀ u : PointerState, (∀ t, (.ok u : Except Panic PointerState) = .ok t →
      s.Keeps t) ↔ s.Keeps u := fun u => by simp
  cases e with
  | relative delta => exact (hone _).trans (onPointerMove_keeps_iff hs)
  | absolute transformed => exact located_keeps_iff
  | absoluteWindowed output transformed => exact located_keeps_iff
  | tabletAxis transformed => exact (hone _).trans (tablet_keeps_iff hs rfl)
  | tabletProximity transformed => exact (hone _).trans (tablet_keeps_iff hs rfl)
  | newConstraint surface kind region => exact (hone _).trans (newConstraint_keeps_iff hs)

/-- A run of events, from a state whose confinements hold, keeps to the constraints exactly
when the positions and the new constraints in it do. -/
theorem run_respects_iff (hs : s.Confines) (is : List (Bool × PointerEvent)) :
    (∀ p ∈ steps step s is, p.1.Respects p.2) ↔ ∀ p ∈ steps step s is, p.1.Obeys p.2.2 := by
  refine forall_steps_iff (I := Confines) (fun u i hu => respects_iff hu i) ?_ hs
  intro u i t hu hobeys ht
  exact ((respects_iff hu i).mpr hobeys t ht).now

/-- The pointer is free, in the middle of a screen. -/
def freePointer : PointerState where
  scene := screenScene true
  x11WlSurface := fun _ => none
  location := ⟨5, 5⟩
  currentFocus := some (.wlSurface ⟨2⟩)
  constraints := fun _ => none

/-- The client confines it to the left of a column. -/
def confineTo (x : Int) : PointerEvent :=
  .newConstraint ⟨2⟩ .confined (some fun point => point.x < x)

theorem freePointer_confines : freePointer.Confines := by
  intro surface c hc
  cases hc.1

/-- A tablet that stays in the region keeps to it. A region that the pointer is not in is not
kept to from the start, and then a mouse moves the pointer on outside of it. -/
theorem freePointer_respects :
    (∀ p ∈ steps step freePointer
      [(false, confineTo 8), (false, .tabletAxis fun _ _ => ⟨6, 6⟩)], p.1.Respects p.2) ∧
    (¬ ∀ p ∈ steps step freePointer [(false, confineTo 3)], p.1.Respects p.2) ∧
    ((freePointer.newConstraint ⟨2⟩ .confined (some fun point => point.x < 3)).onPointerMove
      false ⟨1, 0⟩).location = ⟨6, 5⟩ := by
  refine ⟨(run_respects_iff freePointer_confines _).mpr ?_, ?_, by decide +kernel⟩
  · simp only [steps, step, confineTo, List.forall_mem_cons, List.not_mem_nil, false_implies,
      implies_true, and_true]
    refine ⟨fun _ _ => ⟨⟨0, 0⟩, by decide +kernel, by decide +kernel⟩, fun pos hpos => ?_⟩
    obtain rfl : (⟨6, 6⟩ : Position) = pos := Option.some.inj (Eq.trans (by decide +kernel) hpos)
    refine ⟨fun a ha hkind => ?_, fun surface c hc => ?_⟩
    · have hconfined := congrArg (Option.map fun a => a.constraint.kind) ha
      rw [Option.map_some, hkind] at hconfined
      revert hconfined
      decide +kernel
    · rcases newConstraint_confined_iff.mp hc with ⟨-, hold⟩ | ⟨rfl, rfl, -⟩
      · cases hold.1
      · exact ⟨⟨0, 0⟩, by decide +kernel, by decide +kernel⟩
  · intro h
    have hobeys := (run_respects_iff freePointer_confines _).mp h (freePointer, false, confineTo 3)
      List.mem_cons_self
    obtain ⟨origin, hat, hadmits⟩ := hobeys rfl rfl
    have hzero : freePointer.surfaceAt freePointer.location = some (⟨2⟩, ⟨0, 0⟩) := by
      decide +kernel
    cases hzero.symm.trans hat
    revert hadmits
    decide +kernel

/-- The pointer is locked in the middle of a screen. -/
def lockedPointer : PointerState where
  scene := screenScene true
  x11WlSurface := fun _ => none
  location := ⟨5, 5⟩
  currentFocus := some (.wlSurface ⟨2⟩)
  constraints := fun _ => some ⟨.locked, none, true⟩

/-- A tablet moves it all the same. -/
theorem tablet_unlocks :
    (lockedPointer.applied.map fun a => (a.surface, a.constraint.kind)) = some (⟨2⟩, .locked) ∧
      (lockedPointer.onTabletToolAxis false fun _ _ => ⟨1, 1⟩).location = ⟨1, 1⟩ := by
  decide +kernel

end PointerState

end Scape.Display
