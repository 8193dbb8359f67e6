import Scape.Proofs.FocusMapped

/-!
# The debug window and its option

The debug window is a window like any other, so that the commands for windows move it,
raise it and take it out of its space. `State.debugUi` is to say whether it is shown, and
only the toggle of the debug UI writes to it. `DebugShown` is the agreement of the two.

A close of the debug window leaves the option as it is. A toggle looks for the window in the
first space only, where it need not be after a layout has brought another space to the
front. And a window that has been hidden may still have the focus, so that a move to a zone
maps it again. These are all the ways to lose the agreement (`step_debugShown_iff`).
-/

namespace Scape.Display.State

open Scape Fallible Machine

/-- The option has the debug window exactly while it is mapped in some space. -/
def DebugShown (s : State) : Prop :=
  ∀ window, s.debugUi = some window ∨ (window.kind = .egui ∧ s.Mapped window) →
    s.debugUi = some window ∧ window.kind = .egui ∧ s.Mapped window

/-- The toggle of the debug UI, and what closes, moves and focuses windows or changes the
layout. -/
def WindowCommand : Event → Prop
  | .message .toggleDebugUi | .message .closeCurrentWindow
  | .message (.moveCurrentWindowToZone _) | .message (.setLayout _)
  | .message (.focusOrSpawn _ _ _) | .action .close | .action (.moveWindow _ _)
  | .action (.tab _) | .action (.focusOrSpawn _ _) | .xdg (.requestActivation _ _)
  | .input (.pointerButton _) | .input .tabletToolTip | .input (.touchDown _) => True
  | _ => False

def TogglesDebugUi : Event → Prop
  | .message .toggleDebugUi => True
  | _ => False

/-- A debug window that is closed is mapped in another space as well, one that is hidden is
in no other, and one that is moved is the one that is shown. -/
structure DebugKept (s : State) (i : World × Event) : Prop where
  closed : ¬ TogglesDebugUi i.2 →
    ∀ window, taken i.1 s i.2 = some window → s.MappedElsewhere window
  hidden : TogglesDebugUi i.2 → ∀ window, s.debugUi = some window → ¬ s.MappedElsewhere window
  moved : ∀ name window, moved i.1 s i.2 = some (name, window) → window.kind = .egui →
    s.debugUi = some window

/-- The commands, from any state of the display thread that has had no debug window yet or
has hidden it. -/
def windowCommands : System State (World × Event) where
  init s := Reachable system s ∧ s.debugUi = none ∧
    ∀ window, s.Mapped window → window.kind ≠ .egui
  step s i t := WindowCommand i.2 ∧ s.step i.1 i.2 = .ok t

variable {s t : State} {W : World} {e : Event} {name : String} {window : WorkspaceWindow}

/-! ## Steps -/

theorem DebugShown.kind (h : s.DebugShown) (hui : s.debugUi = some window) :
    window.kind = .egui ∧ s.Mapped window :=
  (h window (.inl hui)).2

theorem DebugShown.eq (h : s.DebugShown) (hkind : window.kind = .egui) (hmapped : s.Mapped window) :
    s.debugUi = some window :=
  (h window (.inr ⟨hkind, hmapped⟩)).1

/-- The agreement depends on nothing but the option and which windows are mapped. -/
theorem debugShown_congr (hui : t.debugUi = s.debugUi)
    (hmapped : ∀ window, window.kind = .egui → (t.Mapped window ↔ s.Mapped window))
    (h : s.DebugShown) : t.DebugShown := by
  intro window hor
  rw [hui] at hor ⊢
  rcases hor with hsome | ⟨hkind, ht⟩
  · obtain ⟨hkind, hs⟩ := h.kind hsome
    exact ⟨hsome, hkind, (hmapped window hkind).mpr hs⟩
  · have hs := (hmapped window hkind).mp ht
    exact ⟨h.eq hkind hs, hkind, ht⟩

/-- A step that neither takes a window out of a space nor brings one in. -/
structure Still (s t : State) : Prop where
  mapped : ∀ window, t.Mapped window ↔ s.Mapped window
  debugUi : t.debugUi = s.debugUi

theorem still_refl (s : State) : Still s s := ⟨fun _ => Iff.rfl, rfl⟩

theorem still_of (hw : s.Within) (hretains : Retains s t) (hkeeps : KeepsWindows NoPlaces s t)
    (hui : t.debugUi = s.debugUi) : Still s t := by
  refine ⟨fun window => ⟨?_, hretains.mapped window⟩, hui⟩
  intro hexists
  obtain ⟨name, _, hholds⟩ := hexists
  have hold := (hkeeps.windows name window hholds).resolve_right id
  exact ⟨name, hw name window hold, hold⟩

theorem focusWindow_debugUi : (s.focusWindow W window name).debugUi = s.debugUi := by
  rw [focusWindow]
  split <;> rfl

theorem focusWindowByAppId_still (hs : s.Known) (hw : s.Within) {appId : String} :
    Still s (s.focusWindowByAppId W appId).1 := by
  refine still_of hw focusWindowByAppId_retains (focusWindowByAppId_framed hs).windows ?_
  rw [focusWindowByAppId]
  split
  · exact focusWindow_debugUi
  · rfl

theorem tab_still (hs : s.Known) (hw : s.Within) {index : Nat} : Still s (s.tab W index) := by
  refine still_of hw tab_retains (tab_framed hs).windows ?_
  rw [tab]
  split
  · exact focusWindow_debugUi
  · rfl

theorem setLayout_still (hw : s.Within) {layout : HashMap String (List Output)} :
    Still s (s.setLayout W layout) := by
  have hui : (s.setLayout W layout).debugUi = s.debugUi :=
    setLayout_keeps (fun _ _ => rfl) fun _ _ => rfl
  exact still_of hw setLayout_retains setLayout_keepsRest.1 hui

theorem requestActivation_still (hs : s.Known) (hw : s.Within) {surface : WlSurface} {age : Nat} :
    Ensures (Still s) (s.requestActivation W surface age) := by
  intro t ht
  refine still_of hw (requestActivation_retains t ht) (requestActivation_framed hs t ht).windows ?_
  have hui : Ensures (fun t => t.debugUi = s.debugUi) (s.requestActivation W surface age) := by
    rw [requestActivation]
    split
    · rw [ensures_expect_bind]
      intro spaceName _
      rw [ensures_expect_bind]
      intro space _
      split
      · exact ensures_pure.mpr focusWindow_debugUi
      · exact ensures_pure.mpr rfl
    · exact ensures_ok.mpr rfl
  exact hui t ht

theorem onPointerButton_still (hs : s.Known) (hw : s.Within) {pressed : Bool} :
    Ensures (Still s) (s.onPointerButton W pressed) := by
  intro t ht
  refine still_of hw (onPointerButton_retains t ht) (onPointerButton_framed hs t ht).windows ?_
  have hui : Ensures (fun t => t.debugUi = s.debugUi) (s.onPointerButton W pressed) := by
    rw [onPointerButton, ensures_bind]
    intro u hu
    have hpress : u.debugUi = s.debugUi := by
      cases pressed with
      | false =>
          cases hu
          rfl
      | true => exact (updateKeyboardFocus_rest u hu).2
    rw [ensures_pure]
    split
    · exact hpress
    · exact hpress
  exact hui t ht

theorem updateKeyboardFocus_still (hs : s.Known) (hw : s.Within) {point : Point} :
    Ensures (Still s) (s.updateKeyboardFocus W point) := fun t ht =>
  still_of hw (updateKeyboardFocus_retains t ht) (updateKeyboardFocus_framed hs t ht).windows
    (updateKeyboardFocus_rest t ht).2

theorem onTouchDown_still (hs : s.Known) (hw : s.Within) {location : Point} :
    Ensures (Still s) (s.onTouchDown W location) := by
  rw [onTouchDown]
  split
  · exact updateKeyboardFocus_still hs hw
  · exact ensures_ok.mpr (still_refl s)

/-! ## What a command does to the agreement -/

theorem debugKept_of_none (htoggle : ¬ TogglesDebugUi e) (htaken : taken W s e = none)
    (hmoved : moved W s e = none) : DebugKept s (W, e) where
  closed _ window hsome := by
    rw [htaken] at hsome
    cases hsome
  hidden htoggles := absurd htoggles htoggle
  moved name window hsome := by
    rw [hmoved] at hsome
    cases hsome

/-- A command by which everything stays keeps the agreement. -/
theorem Still.debugShown_iff (h : Still s t) (hs : s.DebugShown) (htoggle : ¬ TogglesDebugUi e)
    (htaken : taken W s e = none) (hmoved : moved W s e = none) :
    t.DebugShown ↔ DebugKept s (W, e) :=
  iff_of_true (debugShown_congr h.debugUi (fun window _ => h.mapped window) hs)
    (debugKept_of_none htoggle htaken hmoved)

theorem takeOut_debugShown_iff (hs : s.DebugShown) (hkind : window.kind = .egui)
    (hmem : window ∈ s.spaces.first.windows) :
    (s.takeOut window).DebugShown ↔ s.MappedElsewhere window := by
  have hui : s.debugUi = some window := hs.eq hkind (mapped_of_first hmem)
  constructor
  · intro h
    have hmapped := (h.kind (show (s.takeOut window).debugUi = some window from hui)).2
    rw [mapped_takeOut_iff] at hmapped
    exact hmapped.resolve_left fun hfirst => hfirst.2 rfl
  · intro helse
    refine debugShown_congr (s := s) rfl (fun other _ => ?_) hs
    rw [mapped_takeOut_iff, mapped_iff]
    constructor
    · exact fun hor => hor.imp_left And.left
    · rintro (hfirst | hother)
      · by_cases he : other = window
        · exact .inr (he ▸ helse)
        · exact .inl ⟨hfirst, he⟩
      · exact .inr hother

/-- What is closed is a debug window on top of the first space. -/
theorem closed_eq_some (h : s.closed = some window) :
    window.kind = .egui ∧ window ∈ s.spaces.first.windows := by
  obtain ⟨hlast, hclose⟩ := Option.filter_eq_some_iff.mp h
  refine ⟨?_, List.mem_of_getLast? hlast⟩
  unfold WorkspaceWindow.close at hclose
  split at hclose
  next hkind => exact hkind
  next => cases hclose

/-- A close that is carried out. -/
theorem closeCurrentWindow_debugShown_iff (hs : s.DebugShown) (htoggle : ¬ TogglesDebugUi e)
    (htaken : taken W s e = s.closed) (hmoved : moved W s e = none) :
    s.closeCurrentWindow.DebugShown ↔ DebugKept s (W, e) := by
  rw [closeCurrentWindow_eq]
  cases hclosed : s.closed with
  | none => exact (still_refl s).debugShown_iff hs htoggle (htaken.trans hclosed) hmoved
  | some window =>
      obtain ⟨hkind, hmem⟩ := closed_eq_some hclosed
      rw [hclosed] at htaken
      show (s.takeOut window).DebugShown ↔ _
      rw [takeOut_debugShown_iff hs hkind hmem]
      constructor
      · intro helse
        refine ⟨fun _ other hsome => ?_, fun htoggles => absurd htoggles htoggle,
          fun name other hsome => ?_⟩
        · obtain rfl := Option.some.inj (htaken.symm.trans hsome)
          exact helse
        · rw [hmoved] at hsome
          cases hsome
      · exact fun hkept => hkept.closed htoggle window htaken

theorem mapped_of_puts (h : Puts W name window s t) (other : WorkspaceWindow) :
    t.Mapped other ↔ s.Mapped other ∨ other = window := by
  obtain ⟨hname, location, hspaces⟩ := h
  have hvalue : ∀ m, (t.spaces.value m).Holds other ↔
      (s.spaces.value m).Holds other ∨ (m = name ∧ other = window) := by
    intro m
    rw [hspaces, Registry.modify_value, Function.update_apply]
    split
    next he =>
      subst he
      rw [and_iff_right rfl]
      exact Space.mem_windows_mapElement
    next hne => exact (or_iff_left fun hand => hne hand.1).symm
  have hkeys : t.spaces.keys = s.spaces.keys := by rw [hspaces, Registry.modify_keys]
  rw [Mapped, hkeys]
  constructor
  · intro hexists
    obtain ⟨m, hm, hholds⟩ := hexists
    exact ((hvalue m).mp hholds).imp (fun hold => ⟨m, hm, hold⟩) And.right
  · rintro (⟨m, hm, hold⟩ | he)
    · exact ⟨m, hm, (hvalue m).mpr (.inl hold)⟩
    · exact ⟨name, hname, (hvalue name).mpr (.inr ⟨rfl, he⟩)⟩

theorem placeWindow_debugUi {zone : Option String} :
    Ensures (fun t => t.debugUi = s.debugUi) (s.placeWindow W name window zone) := by
  rw [placeWindow, ensures_expect_bind]
  intro space _
  rw [ensures_bind]
  intro rect _
  exact ensures_pure.mpr rfl

theorem moveCurrentWindow_of_none {zoneName : String} (h : s.currentMoved = none) :
    s.moveCurrentWindow W zoneName = .ok s := by
  rw [moveCurrentWindow]
  split
  next window hfocus =>
    rw [currentMoved, hfocus] at h
    cases h
  next => rfl

/-- A move to a zone that is carried out. -/
theorem moveCurrentWindow_debugShown_iff (hs : s.DebugShown) {zoneName : String}
    (hstep : s.moveCurrentWindow W zoneName = .ok t) (htoggle : ¬ TogglesDebugUi e)
    (htaken : taken W s e = none) (hmoved : moved W s e = s.currentMoved) :
    t.DebugShown ↔ DebugKept s (W, e) := by
  cases hcurrent : s.currentMoved with
  | none =>
      rw [moveCurrentWindow_of_none hcurrent] at hstep
      obtain rfl := Except.ok.inj hstep
      exact (still_refl s).debugShown_iff hs htoggle htaken (hmoved.trans hcurrent)
  | some placed =>
      obtain ⟨name, window⟩ := placed
      have hputs := moveCurrentWindow_puts hcurrent t hstep
      have hui : t.debugUi = s.debugUi := by
        obtain ⟨-, hfocus⟩ := currentMoved_eq_some hcurrent
        rw [moveCurrentWindow, hfocus] at hstep
        exact placeWindow_debugUi t hstep
      rw [hcurrent] at hmoved
      constructor
      · intro ht
        refine ⟨fun _ other hsome => ?_, fun htoggles => absurd htoggles htoggle,
          fun name' other hsome hkind => ?_⟩
        · rw [htaken] at hsome
          cases hsome
        · cases hmoved.symm.trans hsome
          rw [← hui]
          exact ht.eq hkind ((mapped_of_puts hputs window).mpr (.inr rfl))
      · intro hkept
        refine debugShown_congr hui (fun other hkind => ?_) hs
        rw [mapped_of_puts hputs]
        refine or_iff_left_of_imp fun he => ?_
        subst he
        exact (hs.kind (hkept.moved name other hmoved hkind)).2

/-- The debug window, if it is mapped in another space too, is all that a toggle leaves. -/
theorem hide_mapped_iff (hs : s.DebugShown) (hui : s.debugUi = some window)
    {other : WorkspaceWindow} (hkind : other.kind = .egui) :
    (s.takeOut window).Mapped other ↔ other = window ∧ s.MappedElsewhere window := by
  rw [mapped_takeOut_iff]
  constructor
  · rintro (⟨hfirst, hne⟩ | helse)
    · have hother := hs.eq hkind (mapped_of_first hfirst)
      exact absurd (Option.some.inj (hother.symm.trans hui)) hne
    · have hother := hs.eq hkind (mapped_iff.mpr (.inr helse))
      obtain rfl := Option.some.inj (hother.symm.trans hui)
      exact ⟨rfl, helse⟩
  · rintro ⟨rfl, helse⟩
    exact .inr helse

theorem hide_debugShown_iff (hs : s.DebugShown) (hui : s.debugUi = some window)
    (hstep : s.toggleDebugUi W = .ok t) :
    t.DebugShown ↔ DebugKept s (W, .message .toggleDebugUi) := by
  rw [toggleDebugUi, hui] at hstep
  obtain rfl := Except.ok.inj hstep
  have hmapped : ∀ other, other.kind = .egui →
      (Mapped ({ s with debugUi := none }.takeOut window) other ↔
        other = window ∧ s.MappedElsewhere window) :=
    fun other hkind => hide_mapped_iff hs hui hkind
  constructor
  · intro ht
    refine ⟨fun hnot => absurd trivial hnot, fun _ other hsome helse => ?_,
      fun name other hsome => by cases hsome⟩
    obtain rfl := Option.some.inj (hui.symm.trans hsome)
    have hkind := (hs.kind hui).1
    have hnone := ht.eq hkind ((hmapped window hkind).mpr ⟨rfl, helse⟩)
    cases hnone
  · intro hkept other hor
    rcases hor with hsome | ⟨hkind, ht⟩
    · cases hsome
    · exact absurd ((hmapped other hkind).mp ht).2 (hkept.hidden trivial window hui)

theorem show_debugShown (hs : s.DebugShown) (hui : s.debugUi = none)
    (hstep : s.toggleDebugUi W = .ok t) :
    t.DebugShown ∧ t.debugUi = some ⟨s.nextWindow, .egui⟩ := by
  rw [toggleDebugUi, hui] at hstep
  have hputs := placeWindow_puts t hstep
  have htui : t.debugUi = some ⟨s.nextWindow, .egui⟩ := placeWindow_debugUi t hstep
  refine ⟨fun other hor => ?_, htui⟩
  have hmapped : t.Mapped other ↔ s.Mapped other ∨ other = ⟨s.nextWindow, .egui⟩ :=
    mapped_of_puts hputs other
  have heq : other = ⟨s.nextWindow, .egui⟩ := by
    rcases hor with hsome | ⟨hkind, ht⟩
    · exact (Option.some.inj (htui.symm.trans hsome)).symm
    · rcases hmapped.mp ht with hold | hnew
      · have hother := hs.eq hkind hold
        rw [hui] at hother
        cases hother
      · exact hnew
  subst heq
  exact ⟨htui, rfl, hmapped.mpr (.inr rfl)⟩

theorem toggleDebugUi_debugShown_iff (hs : s.DebugShown) (hstep : s.toggleDebugUi W = .ok t) :
    t.DebugShown ↔ DebugKept s (W, .message .toggleDebugUi) := by
  cases hui : s.debugUi with
  | some window => exact hide_debugShown_iff hs hui hstep
  | none =>
      refine iff_of_true (show_debugShown hs hui hstep).1 ⟨fun hnot => absurd trivial hnot,
        fun _ window hsome => ?_, fun name window hsome => by cases hsome⟩
      rw [hui] at hsome
      cases hsome

/-- Under a lock an action does nothing, and otherwise what the message does. -/
theorem execute_debugShown_iff (hknown : s.Known) (hw : s.Within) (hs : s.DebugShown) {a : Action}
    (he : WindowCommand (.action a)) (hstep : s.execute W a = .ok t) :
    t.DebugShown ↔ DebugKept s (W, .action a) := by
  cases hlocked : s.locked with
  | true =>
      rw [execute_locked hlocked] at hstep
      obtain rfl := Except.ok.inj hstep
      refine (still_refl s).debugShown_iff hs id ?_ ?_
      · cases a <;> simp [taken, hlocked]
      · cases a <;> simp [moved, hlocked]
  | false =>
      unfold execute at hstep
      simp only [hlocked, Bool.false_and, Bool.false_eq_true, if_false] at hstep
      have htaken : taken W s (.action .close) = s.closed := by simp [taken, hlocked]
      have hmoved : ∀ window zone,
          moved W s (.action (.moveWindow window zone)) = s.currentMoved := by
        intro window zone
        simp [moved, hlocked]
      cases a with
      | close =>
          obtain rfl := Except.ok.inj hstep
          exact closeCurrentWindow_debugShown_iff hs id htaken rfl
      | moveWindow window zone =>
          exact moveCurrentWindow_debugShown_iff hs hstep id rfl (hmoved window zone)
      | tab index =>
          obtain rfl := Except.ok.inj hstep
          exact (tab_still hknown hw).debugShown_iff hs id rfl rfl
      | focusOrSpawn appId command =>
          obtain rfl := Except.ok.inj hstep
          exact (focusWindowByAppId_still hknown hw).debugShown_iff hs id rfl rfl
      | _ => exact he.elim

/-- A command keeps the agreement exactly if it is one that `DebugKept` admits. -/
theorem step_debugShown_iff (hknown : s.Known) (hw : s.Within) (hs : s.DebugShown)
    (he : WindowCommand e) (hstep : s.step W e = .ok t) :
    t.DebugShown ↔ DebugKept s (W, e) := by
  have hstill : ∀ {x : Except Panic State}, Ensures (Still s) x → x = .ok t →
      ¬ TogglesDebugUi e → taken W s e = none → moved W s e = none →
      (t.DebugShown ↔ DebugKept s (W, e)) :=
    fun hx ht => (hx t ht).debugShown_iff hs
  unfold WindowCommand at he
  split at he
  · exact toggleDebugUi_debugShown_iff hs hstep
  · obtain rfl := Except.ok.inj hstep
    exact closeCurrentWindow_debugShown_iff hs id rfl rfl
  · exact moveCurrentWindow_debugShown_iff hs hstep id rfl rfl
  · exact hstill (ensures_ok.mpr (setLayout_still hw)) hstep id rfl rfl
  · exact hstill (ensures_ok.mpr (focusWindowByAppId_still hknown hw)) hstep id rfl rfl
  · exact execute_debugShown_iff hknown hw hs trivial hstep
  · exact execute_debugShown_iff hknown hw hs trivial hstep
  · exact execute_debugShown_iff hknown hw hs trivial hstep
  · exact execute_debugShown_iff hknown hw hs trivial hstep
  · exact hstill (requestActivation_still hknown hw) hstep id rfl rfl
  · exact hstill (onPointerButton_still hknown hw) hstep id rfl rfl
  · exact hstill (updateKeyboardFocus_still hknown hw) hstep id rfl rfl
  · exact hstill (onTouchDown_still hknown hw) hstep id rfl rfl
  · cases he

/-! ## Runs -/

theorem reachable_of_windowCommands {ok : State → World × Event → Prop}
    (h : ReachableUnder windowCommands ok s) : Reachable system s := by
  induction h with
  | init hinit => exact hinit.1
  | step _ _ hstep ih => exact ih.next hstep.2

theorem reachable_debugShown (h : ReachableUnder windowCommands DebugKept s) : s.DebugShown := by
  refine h.invariant_using (J := Reachable system) (fun _ => reachable_of_windowCommands)
    (fun s hinit => ?_) fun s i t hr hs hok hstep => ?_
  · intro window hor
    rcases hor with hui | ⟨hkind, hmapped⟩
    · rw [hinit.2.1] at hui
      cases hui
    · exact absurd hkind (hinit.2.2 window hmapped)
  · exact (step_debugShown_iff (reachable_known hr) (reachable_within hr) hs hstep.1
      hstep.2).mpr hok

/-- In every run of commands that `DebugKept` admits, the option has the debug window exactly
while it is mapped, a toggle hides the one that is shown or shows one, and any other command
breaks the agreement. -/
theorem debugUi_shown (h : ReachableUnder windowCommands DebugKept s) :
    s.DebugShown ∧
      (∀ t, s.step W (.message .toggleDebugUi) = .ok t →
        DebugKept s (W, .message .toggleDebugUi) →
          ((∃ window, window.kind = .egui ∧ t.Mapped window) ↔
            ¬ ∃ window, window.kind = .egui ∧ s.Mapped window)) ∧
      ∀ e t, WindowCommand e → s.step W e = .ok t → ¬ DebugKept s (W, e) → ¬ t.DebugShown := by
  have hr := reachable_of_windowCommands h
  have hs := reachable_debugShown h
  have hiff : ∀ {e t}, WindowCommand e → s.step W e = .ok t →
      (t.DebugShown ↔ DebugKept s (W, e)) :=
    fun he hstep => step_debugShown_iff (reachable_known hr) (reachable_within hr) hs he hstep
  refine ⟨hs, fun t hstep hkept => ?_, fun e t he hstep hnot ht => hnot ((hiff he hstep).mp ht)⟩
  have he : WindowCommand (.message .toggleDebugUi) := trivial
  have ht : t.DebugShown := (hiff he hstep).mpr hkept
  cases hui : s.debugUi with
  | some window =>
      have hgone : t.debugUi = none := by
        have hok : s.toggleDebugUi W = .ok t := hstep
        rw [toggleDebugUi, hui] at hok
        obtain rfl := Except.ok.inj hok
        rfl
      refine iff_of_false ?_ (not_not_intro ⟨window, hs.kind hui⟩)
      intro hexists
      obtain ⟨other, hkind, hmapped⟩ := hexists
      have hother := ht.eq hkind hmapped
      rw [hgone] at hother
      cases hother
  | none =>
      have hshown := (show_debugShown hs hui hstep).2
      refine iff_of_true ⟨_, ht.kind hshown⟩ ?_
      intro hexists
      obtain ⟨other, hkind, hmapped⟩ := hexists
      have hother := hs.eq hkind hmapped
      rw [hui] at hother
      cases hother

def toggle : World × Event := (World.quiet, .message .toggleDebugUi)

/-- The state after the debug UI has been toggled for the first time. -/
theorem toggle_shown : ∃ s, State.new.step toggle.1 toggle.2 = .ok s ∧ s.DebugShown ∧
    s.debugUi = some ⟨0, .egui⟩ := by
  obtain ⟨s, hstep⟩ : ∃ s, State.new.step toggle.1 toggle.2 = .ok s := ⟨_, rfl⟩
  have hinit : windowCommands.init State.new :=
    ⟨.init rfl, rfl, fun window ⟨name, _, hholds⟩ => absurd hholds List.not_mem_nil⟩
  have hkept : DebugKept State.new toggle := by
    refine ⟨fun hnot => absurd trivial hnot, fun _ window hsome => ?_, fun name window hsome => ?_⟩
    · cases hsome
    · cases hsome
  have hreached : ReachableUnder windowCommands DebugKept s :=
    .step (.init hinit) hkept ⟨trivial, hstep⟩
  exact ⟨s, hstep, (debugUi_shown (W := World.quiet) hreached).1, by
    obtain rfl := Except.ok.inj hstep
    rfl⟩

/-- The debug window is closed like any other, and the option is not told. -/
theorem closed_notShown :
    ∃ s, run next State.new [toggle, (World.quiet, .message .closeCurrentWindow)] = .ok s ∧
      s.debugUi = some ⟨0, .egui⟩ ∧ ¬ s.Mapped ⟨0, .egui⟩ ∧ ¬ s.DebugShown := by
  refine ⟨_, rfl, rfl, by decide, fun h => ?_⟩
  exact absurd (h.kind (show _ = some ⟨0, .egui⟩ from rfl)).2 (by decide)

end Scape.Display.State
