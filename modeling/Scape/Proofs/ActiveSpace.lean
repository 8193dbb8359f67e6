import Scape.Proofs.ConfigureOnce
import Scape.Proofs.StepEffects

/-!
# The active space of a surface

A surface that is created gets the first space as its active space. When it becomes a
toplevel, its window is mapped in what is the first space then. A commit looks for the
window in the active space, and if it is not there the client never gets its initial
configure.

Surfaces are created, layouts are set and toplevels are created in any order, and a layout
with a new space leaves the spaces in any order. The active space of a toplevel's surface is
the space of its window, and the first commit is answered, exactly if each toplevel is
created while the active space of its surface is the first one (`activeSpace_iff`).
-/

namespace Scape.Display

open Scape Fallible Machine

namespace State

variable {W : World} {s t : State} {surface : WlSurface} {name : String}
  {window : WorkspaceWindow} {e : Event}

/-- The windows of a space, none if it does not exist. -/
def windowsIn (s : State) (name : String) : List WorkspaceWindow :=
  ((s.spaces.get? name).getD .empty).windows

/-- What is interleaved. A toplevel is created for a surface that there is. -/
def Interleaved (s : State) : Event → Prop
  | .surface (.newSurface _) => True
  | .message (.setLayout _) => True
  | .xdg (.newToplevel surface) => (s.surfaceSpace surface).isSome
  | _ => False

/-- If a toplevel is created, the active space of its surface is the first one. -/
def FindsFirst (s : State) : Event → Prop
  | .xdg (.newToplevel surface) => s.surfaceSpace surface = some s.spaces.firstKey
  | _ => True

/-- The active space of a toplevel's surface is the space of its window. -/
def Agrees (s : State) : Prop :=
  ∀ name, ∀ window ∈ s.windowsIn name, ∀ surface, window.kind = .wayland surface →
    s.surfaceSpace surface = some name

/-- The first commit of a toplevel that is mapped is answered with a configure. -/
def AnswersFirstCommit (s : State) : Prop :=
  ∀ name, ∀ window ∈ s.windowsIn name, ∀ surface, window.kind = .wayland surface →
    ∀ W findPopup, ∃ t, s.commitConfigure W findPopup surface (.new .toplevel) =
      .ok (t, .sent .toplevel, true)

/-- All windows are toplevels, each of a surface that has been created. -/
def OfCreated (s : State) : Prop :=
  ∀ name, ∀ window ∈ s.windowsIn name, ∃ surface, window.kind = .wayland surface ∧
    (s.surfaceSpace surface).isSome

/-! ## The windows of a space -/

theorem windowsIn_of_get? {space : Space} (h : s.spaces.get? name = some space) :
    s.windowsIn name = space.windows := by
  rw [windowsIn, h]
  rfl

theorem get?_of_mem_windowsIn (h : window ∈ s.windowsIn name) :
    ∃ space, s.spaces.get? name = some space ∧ window ∈ space.windows := by
  cases hget : s.spaces.get? name with
  | none =>
      rw [windowsIn, hget] at h
      cases h
  | some space => exact ⟨space, rfl, windowsIn_of_get? hget ▸ h⟩

theorem mem_windowsIn_modifySpace {n : String} {g : Space → Space} (hn : n ∈ s.spaces.keys) :
    window ∈ (s.modifySpace n g).windowsIn name ↔
      if name = n then window ∈ (g (s.spaces.value n)).windows else window ∈ s.windowsIn name := by
  rw [windowsIn, modifySpace, Registry.get?_modify hn]
  split
  · rfl
  · rfl

theorem windowsIn_modifySpace {n : String} {g : Space → Space}
    (hg : ∀ space, (g space).windows = space.windows) :
    (s.modifySpace n g).windowsIn name = s.windowsIn name := by
  by_cases hname : name ∈ s.spaces.keys
  · have hname' : name ∈ (s.modifySpace n g).spaces.keys := hname
    rw [windowsIn, windowsIn, Registry.get?_of_mem hname, Registry.get?_of_mem hname']
    show (Function.update s.spaces.value n (g (s.spaces.value n)) name).windows = _
    rw [Function.update_apply]
    split
    next he =>
      subst he
      exact hg _
    next => rfl
  · have hname' : name ∉ (s.modifySpace n g).spaces.keys := hname
    rw [windowsIn, windowsIn, Registry.get?, if_neg hname', Registry.get?, if_neg hname]

theorem windowsIn_ensure {n : String} :
    { s with spaces := s.spaces.ensure n .empty }.windowsIn name = s.windowsIn name := by
  rw [windowsIn, windowsIn, Registry.get?_ensure]
  split
  next he =>
    subst he
    cases s.spaces.get? name <;> rfl
  next => rfl

theorem windowsIn_setLayout {layout : HashMap String (List Output)} :
    (s.setLayout W layout).windowsIn name = s.windowsIn name := by
  refine setLayout_keeps_of (f := fun u => u.windowsIn name) fun u v hupdate => ?_
  cases hupdate with
  | outputs n g hg =>
      exact windowsIn_modifySpace fun space => congrArg (List.map Prod.fst) (hg space)
  | ensure => exact windowsIn_ensure
  | reorder => rw [windowsIn, windowsIn, Registry.get?_reorder]
  | activeSpace => rfl

/-! ## Steps -/

/-- The windows stay where they are, and a surface that has an active space keeps it. -/
structure Stays (s t : State) : Prop where
  windowsIn : ∀ name, t.windowsIn name = s.windowsIn name
  surfaceSpace : ∀ surface, (s.surfaceSpace surface).isSome →
    t.surfaceSpace surface = s.surfaceSpace surface

theorem Stays.ofCreated (h : Stays s t) (hs : s.OfCreated) : t.OfCreated := by
  intro name window hmem
  rw [h.windowsIn] at hmem
  obtain ⟨surface, hkind, hsome⟩ := hs name window hmem
  refine ⟨surface, hkind, ?_⟩
  rw [h.surfaceSpace surface hsome]
  exact hsome

theorem Stays.agrees_iff (h : Stays s t) (hs : s.OfCreated) : t.Agrees ↔ s.Agrees := by
  have hspace : ∀ name, ∀ window ∈ s.windowsIn name, ∀ surface, window.kind = .wayland surface →
      t.surfaceSpace surface = s.surfaceSpace surface := by
    intro name window hmem surface hkind
    obtain ⟨created, hcreated, hsome⟩ := hs name window hmem
    obtain rfl : created = surface := WindowKind.wayland.inj (hcreated.symm.trans hkind)
    exact h.surfaceSpace created hsome
  constructor
  · intro ht name window hmem surface hkind
    rw [← hspace name window hmem surface hkind]
    exact ht name window (by rwa [h.windowsIn]) surface hkind
  · intro hs name window hmem surface hkind
    rw [h.windowsIn] at hmem
    rw [hspace name window hmem surface hkind]
    exact hs name window hmem surface hkind

theorem newSurface_stays : Stays s (s.newSurface surface) := by
  rw [newSurface]
  cases hold : s.surfaceSpace surface with
  | some name => exact ⟨fun _ => rfl, fun _ _ => rfl⟩
  | none =>
      refine ⟨fun _ => rfl, fun other hsome => Function.update_of_ne ?_ _ _⟩
      rintro rfl
      rw [hold] at hsome
      cases hsome

theorem setLayout_stays {layout : HashMap String (List Output)} :
    Stays s (s.setLayout W layout) where
  windowsIn _ := windowsIn_setLayout
  surfaceSpace surface _ :=
    setLayout_keeps (f := fun u => u.surfaceSpace surface) (fun _ _ => rfl) fun _ _ => rfl

theorem placeWindow_maps {zone : Option String} :
    Ensures (fun t => t.surfaceSpace = s.surfaceSpace ∧ ∀ name' window',
      window' ∈ t.windowsIn name' ↔
        window' ∈ s.windowsIn name' ∨ name' = name ∧ window' = window)
      (s.placeWindow W name window zone) := by
  rw [placeWindow, ensures_expect_bind]
  intro space hspace
  rw [ensures_bind]
  intro rect _
  refine ensures_pure.mpr ⟨rfl, fun name' window' => ?_⟩
  obtain ⟨hname, hvalue⟩ := Registry.get?_eq_some_iff.mp hspace
  rw [mem_windowsIn_modifySpace hname]
  split
  next he =>
    subst he
    rw [Space.mem_windows_mapElement, windowsIn_of_get? hspace, hvalue, and_iff_right rfl]
  next hne => exact (or_iff_left fun hboth => hne hboth.1).symm

theorem newToplevel_maps :
    Ensures (fun t => t.surfaceSpace = s.surfaceSpace ∧ ∀ name window,
      window ∈ t.windowsIn name ↔ window ∈ s.windowsIn name ∨
        name = s.spaces.firstKey ∧ window = ⟨s.nextWindow, .wayland surface⟩)
      (s.newToplevel W surface) := by
  rw [newToplevel, ensures_bind]
  intro u hu
  exact ensures_pure.mpr (placeWindow_maps (s := (s.freshWindow (.wayland surface)).2) u hu)

theorem newToplevel_agrees_iff (hs : s.OfCreated) (hsome : (s.surfaceSpace surface).isSome)
    (h : s.newToplevel W surface = .ok t) :
    t.OfCreated ∧ (t.Agrees ↔ s.Agrees ∧ s.surfaceSpace surface = some s.spaces.firstKey) := by
  obtain ⟨hspace, hmem⟩ := newToplevel_maps t h
  refine ⟨?_, ?_, ?_⟩
  · intro name window hwindow
    rw [hspace]
    obtain hold | ⟨-, rfl⟩ := (hmem name window).mp hwindow
    · exact hs name window hold
    · exact ⟨surface, rfl, hsome⟩
  · intro ht
    rw [Agrees, hspace] at ht
    refine ⟨fun name window hold => ht name window ((hmem name window).mpr (.inl hold)), ?_⟩
    exact ht _ _ ((hmem _ _).mpr (.inr ⟨rfl, rfl⟩)) surface rfl
  · intro ⟨hagrees, hfirst⟩ name window hwindow other hkind
    rw [hspace]
    obtain hold | ⟨rfl, rfl⟩ := (hmem name window).mp hwindow
    · exact hagrees name window hold other hkind
    · cases hkind
      exact hfirst

theorem step_agrees_iff (hs : s.OfCreated) (he : s.Interleaved e) (h : s.step W e = .ok t) :
    t.OfCreated ∧ (t.Agrees ↔ s.Agrees ∧ s.FindsFirst e) := by
  have hstays : Stays s t → t.OfCreated ∧ (t.Agrees ↔ s.Agrees ∧ True) := fun hstays =>
    ⟨hstays.ofCreated hs, (hstays.agrees_iff hs).trans (and_iff_left trivial).symm⟩
  cases e with
  | surface e =>
      cases e with
      | newSurface surface =>
          cases h
          exact hstays newSurface_stays
      | commit => cases he
  | message m =>
      cases m with
      | setLayout layout =>
          cases h
          exact hstays setLayout_stays
      | _ => cases he
  | xdg e =>
      cases e with
      | newToplevel surface => exact newToplevel_agrees_iff hs he h
      | _ => cases he
  | _ => cases he

/-! ## The first commit -/

theorem commitOffset_maps (s : State) (W : World) (surface : WlSurface) :
    ∃ t, s.commitOffset W surface = .ok t ∧ t.surfaceSpace = s.surfaceSpace ∧
      ∀ name window, window ∈ t.windowsIn name ↔ window ∈ s.windowsIn name := by
  rw [commitOffset]
  split
  · exact ⟨s, rfl, rfl, fun _ _ => Iff.rfl⟩
  split
  · exact ⟨s, rfl, rfl, fun _ _ => Iff.rfl⟩
  next window spaceName hfound =>
    split
    · split
      · exact ⟨s, rfl, rfl, fun _ _ => Iff.rfl⟩
      · split
        · exact ⟨s, rfl, rfl, fun _ _ => Iff.rfl⟩
        next space hspace =>
          obtain ⟨rfl, hmem⟩ := windowAndSpaceForSurface_eq_some hfound
          obtain ⟨hname, hvalue⟩ := Registry.get?_eq_some_iff.mp hspace
          have hheld : window ∈ space.windows := hvalue ▸ hmem
          obtain ⟨location, hlocation⟩ :=
            Option.isSome_iff_exists.mp (Space.elementLocation_isSome_iff.mpr hheld)
          rw [hlocation]
          refine ⟨_, rfl, rfl, fun name window' => ?_⟩
          rw [mem_windowsIn_modifySpace hname]
          split
          next he =>
            subst he
            rw [Space.mem_windows_mapElement, windowsIn_of_get? hspace, hvalue]
            exact or_iff_left_of_imp fun he => he ▸ hheld
          next => rfl
    · exact ⟨s, rfl, rfl, fun _ _ => Iff.rfl⟩

/-- The commit looks into the space of the window. -/
theorem Agrees.answers (hagrees : s.Agrees) (hs : s.OfCreated) : s.AnswersFirstCommit := by
  intro name window hwindow surface hkind W findPopup
  obtain ⟨t, hcommit, hspace, hmem⟩ := commitOffset_maps s W surface
  obtain ⟨space, hget, hheld⟩ := get?_of_mem_windowsIn ((hmem name window).mpr hwindow)
  rw [commitConfigure, hcommit]
  have hactive : t.surfaceSpace surface = some name := by
    rw [hspace]
    exact hagrees name window hwindow surface hkind
  have hroot : (CommitView.mk W findPopup t.layersOf space).Root surface .toplevel := by
    refine ⟨fun hno => hno window hheld ?_, ?_⟩
    · rw [World.surfaceOf, hkind]
    · intro other hother hsurface
      have hother' := (hmem name other).mp (by rwa [windowsIn_of_get? hget])
      obtain ⟨created, hcreated, -⟩ := hs name other hother'
      rw [World.surfaceOf, hcreated] at hsurface
      cases hsurface
      exact hcreated
  have hconfigure := CommitView.configure_new hroot
  rw [CommitView.configure] at hconfigure
  dsimp only [bind, Except.bind]
  rw [hactive, expect_some]
  dsimp only
  rw [hget, expect_some]
  dsimp only
  rw [hconfigure]
  exact ⟨_, rfl⟩

/-! ## Runs -/

theorem new_ofCreated : State.new.OfCreated := by
  intro name window hwindow
  obtain ⟨space, hget, hheld⟩ := get?_of_mem_windowsIn hwindow
  obtain ⟨-, rfl⟩ := Registry.get?_eq_some_iff.mp hget
  cases hheld

theorem new_agrees : State.new.Agrees := by
  intro name window hwindow
  obtain ⟨space, hget, hheld⟩ := get?_of_mem_windowsIn hwindow
  obtain ⟨-, rfl⟩ := Registry.get?_eq_some_iff.mp hget
  cases hheld

theorem run_agrees_iff {trace : List (State × (World × Event))} (h : Run system trace t)
    (hok : ∀ p ∈ trace, p.1.Interleaved p.2.2) :
    t.OfCreated ∧ (t.Agrees ↔ ∀ p ∈ trace, p.1.FindsFirst p.2.2) := by
  induction h with
  | init h =>
      cases h
      exact ⟨new_ofCreated, iff_of_true new_agrees fun _ hp => by cases hp⟩
  | step hrun hst ih =>
      obtain ⟨hcreated, hiff⟩ := ih fun p hp => hok p (List.mem_append_left _ hp)
      have hlast := step_agrees_iff hcreated (hok _ List.mem_concat_self) hst
      refine ⟨hlast.1, hlast.2.trans ?_⟩
      rw [hiff, List.forall_mem_append, List.forall_mem_singleton]

/-- The active space of each toplevel's surface is the space of its window, and its first
commit is answered, exactly if each toplevel has been created while that space was the
first one. -/
theorem activeSpace_iff (is : List (World × Event)) (t : State)
    (h : Fallible.run State.next State.new is = .ok t)
    (hok : ∀ p ∈ Fallible.steps State.next State.new is, p.1.Interleaved p.2.2) :
    t.Agrees ∧ t.AnswersFirstCommit ↔
      ∀ p ∈ Fallible.steps State.next State.new is, p.1.FindsFirst p.2.2 := by
  have hrun : Run system _ t := run_steps (.init rfl) h
  rw [List.nil_append] at hrun
  obtain ⟨hcreated, hiff⟩ := run_agrees_iff hrun hok
  rw [← hiff]
  exact and_iff_left_of_imp fun hagrees => hagrees.answers hcreated

/-! ## A space that comes first -/

/-- A surface is created, a layout brings a second space, and the surface becomes a
toplevel. -/
def layoutBetween (W : World) : List (World × Event) :=
  [(.quiet, .surface (.newSurface ⟨0⟩)), (W, .message (.setLayout (AList.singleton "second" []))),
    (.quiet, .xdg (.newToplevel ⟨0⟩))]

/-- The new space comes last. -/
def secondLast : World :=
  { World.quiet with order := List.reverse, order_perm := List.reverse_perm }

theorem secondLast_agrees :
    ∃ t, Fallible.run State.next State.new (layoutBetween secondLast) = .ok t ∧
      t.Agrees ∧ t.AnswersFirstCommit := by
  refine ⟨_, rfl, (activeSpace_iff (layoutBetween secondLast) _ rfl ?_).mpr ?_⟩
  · exact List.forall_mem_cons.mpr ⟨trivial, List.forall_mem_cons.mpr ⟨trivial,
      List.forall_mem_cons.mpr ⟨rfl, List.forall_mem_nil _⟩⟩⟩
  · exact List.forall_mem_cons.mpr ⟨trivial, List.forall_mem_cons.mpr ⟨trivial,
      List.forall_mem_cons.mpr ⟨rfl, List.forall_mem_nil _⟩⟩⟩

/-- The new space comes first, and gets the window. -/
theorem secondFirst_separates :
    ∃ t, Fallible.run State.next State.new (layoutBetween .quiet) = .ok t ∧
      ¬ t.Agrees ∧ ¬ t.AnswersFirstCommit := by
  refine ⟨_, rfl, ?_, ?_⟩
  · intro hagrees
    have hspace := hagrees "second" ⟨0, .wayland ⟨0⟩⟩ (by decide) ⟨0⟩ rfl
    revert hspace
    decide
  · intro hanswers
    obtain ⟨t, ht⟩ := hanswers "second" ⟨0, .wayland ⟨0⟩⟩ (by decide) ⟨0⟩ rfl .quiet fun _ => none
    have hsent : (.ok false : Except Panic Bool) = .ok true :=
      congrArg (Except.map fun answer : State × RoleData × Bool => answer.2.2) ht
    cases hsent

end State

end Scape.Display
