import Scape.Lib.Stack
import Scape.Display.Machine

/-!
# What an update of the display state changes

Most handlers leave most of the state as it is, and what they do change matters in
three ways: which outputs are mapped where, which windows a space holds, and what has
been given focus. `Framed` says all three of two states, the one before and the one
after. What comes into a space and whether anything but a lock surface gets focus are
its parameters.

Frames compose, with the union of what their parts do. This file has those of the
updates the handlers are made of.
-/

namespace Scape.Display

open Scape Fallible

def FocusTarget.IsLockSurface : FocusTarget → Prop
  | .keyboard (.lockScreen _) => True
  | _ => False

/-- The windows of a space, the topmost first. -/
def Space.stack (space : Space) : List WorkspaceWindow := space.windows.reverse

namespace State

/-- Nothing but lock surfaces has been given focus. -/
def Guarded (s : State) : Prop := ∀ target ∈ s.focusSet, target.IsLockSurface

/-- The state refers to a window. -/
def Mentions (s : State) (window : WorkspaceWindow) : Prop :=
  (∃ name, (s.spaces.value name).Holds window) ∨ s.keyboardFocus = some (.window window) ∨
    (∃ grab, s.pointerGrab = some grab ∧ grab.window = window) ∨
    (∃ grab, s.touchGrab = some grab ∧ grab.window = window) ∨ s.debugUi = some window

/-- Every window the state refers to has been made. -/
def Known (s : State) : Prop := ∀ window, s.Mentions window → window.id < s.nextWindow

structure KeepsOutputs (s t : State) : Prop where
  outputs : t.outputs = s.outputs
  activeSpace : t.activeSpace = s.activeSpace
  nextOutput : t.nextOutput = s.nextOutput
  keys : t.spaces.keys = s.spaces.keys
  mapped : ∀ name, (t.spaces.value name).outputs = (s.spaces.value name).outputs

/-- A space holds what it held, or what is placed in it. -/
structure KeepsWindows (places : String → WorkspaceWindow → Prop) (s t : State) : Prop where
  windows : ∀ name window, (t.spaces.value name).Holds window →
    (s.spaces.value name).Holds window ∨ places name window
  next : s.nextWindow ≤ t.nextWindow
  known : s.Known → t.Known

structure KeepsFocus (focuses : Prop) (s t : State) : Prop where
  locked : t.locked = s.locked
  guarded : t.Guarded ↔ s.Guarded ∧ ¬ focuses

structure Framed (places : String → WorkspaceWindow → Prop) (focuses : Prop) (s t : State) :
    Prop where
  outputs : KeepsOutputs s t
  windows : KeepsWindows places s t
  focus : KeepsFocus focuses s t

/-- No window comes into a space. -/
def NoPlaces (_ : String) (_ : WorkspaceWindow) : Prop := False

variable {places places' : String → WorkspaceWindow → Prop} {focuses focuses' : Prop}
  {s t u : State}

theorem KeepsOutputs.trans (h : KeepsOutputs s t) (h' : KeepsOutputs t u) :
    KeepsOutputs s u where
  outputs := h'.outputs.trans h.outputs
  activeSpace := h'.activeSpace.trans h.activeSpace
  nextOutput := h'.nextOutput.trans h.nextOutput
  keys := h'.keys.trans h.keys
  mapped name := (h'.mapped name).trans (h.mapped name)

theorem KeepsWindows.trans (h : KeepsWindows places s t) (h' : KeepsWindows places' t u) :
    KeepsWindows (fun name window => places name window ∨ places' name window) s u where
  windows name window hu := by
    rcases h'.windows name window hu with ht | hplaced
    · exact (h.windows name window ht).imp_right .inl
    · exact .inr (.inr hplaced)
  next := h.next.trans h'.next
  known hs := h'.known (h.known hs)

theorem KeepsWindows.mono (h : KeepsWindows places s t)
    (hle : ∀ name window, places name window → places' name window) :
    KeepsWindows places' s t where
  windows name window ht := (h.windows name window ht).imp_right (hle name window)
  next := h.next
  known := h.known

theorem KeepsFocus.trans (h : KeepsFocus focuses s t) (h' : KeepsFocus focuses' t u) :
    KeepsFocus (focuses ∨ focuses') s u where
  locked := h'.locked.trans h.locked
  guarded := by rw [h'.guarded, h.guarded, not_or, and_assoc]

/-- Steps one after the other do what either does. -/
theorem Framed.trans (h : Framed places focuses s t) (h' : Framed places' focuses' t u) :
    Framed (fun name window => places name window ∨ places' name window)
      (focuses ∨ focuses') s u :=
  ⟨h.outputs.trans h'.outputs, h.windows.trans h'.windows, h.focus.trans h'.focus⟩

theorem Framed.mono (h : Framed places focuses s t)
    (hle : ∀ name window, places name window → places' name window)
    (hiff : focuses ↔ focuses') : Framed places' focuses' s t :=
  ⟨h.outputs, h.windows.mono hle, ⟨h.focus.locked, by rw [h.focus.guarded, hiff]⟩⟩

/-- A step that places and gives nothing adds nothing to the next. -/
theorem Framed.after (h : Framed NoPlaces False s t) (h' : Framed places focuses t u) :
    Framed places focuses s u :=
  (h.trans h').mono (fun _ _ hor => hor.resolve_left id) (by rw [false_or])

/-! ## Updates -/

/-- What a frame is about, but for the windows that are referred to by name. -/
def fixed (s : State) :=
  (s.spaces, s.outputs, s.activeSpace, s.nextOutput, s.sessionLock, s.focusSet)

def references (s : State) :=
  (s.nextWindow, s.keyboardFocus, s.pointerGrab, s.touchGrab, s.debugUi)

/-- An update of the references, if it brings in no window that has not been made. -/
theorem framed_of_references (h : t.fixed = s.fixed) (hnext : s.nextWindow ≤ t.nextWindow)
    (hfocus : ∀ window, t.keyboardFocus = some (.window window) →
      s.keyboardFocus = some (.window window) ∨ window.id < t.nextWindow)
    (hpointer : ∀ grab, t.pointerGrab = some grab →
      s.pointerGrab = some grab ∨ grab.window.id < t.nextWindow)
    (htouch : ∀ grab, t.touchGrab = some grab →
      s.touchGrab = some grab ∨ grab.window.id < t.nextWindow)
    (hdebug : ∀ window, t.debugUi = some window →
      s.debugUi = some window ∨ window.id < t.nextWindow) :
    Framed NoPlaces False s t := by
  simp only [fixed, Prod.mk.injEq] at h
  obtain ⟨hspaces, houtputs, hactive, hnextOutput, hlock, hset⟩ := h
  refine ⟨⟨houtputs, hactive, hnextOutput, by rw [hspaces], fun _ => by rw [hspaces]⟩,
    ⟨fun _ _ ht => .inl (by rwa [hspaces] at ht), hnext, fun hs => ?_⟩,
    ⟨by rw [locked, locked, hlock], ?_⟩⟩
  · have hlt : ∀ window, s.Mentions window → window.id < t.nextWindow :=
      fun window hm => Nat.lt_of_lt_of_le (hs window hm) hnext
    rintro window (hspace | hf | ⟨grab, hp, rfl⟩ | ⟨grab, htg, rfl⟩ | hd)
    · exact hlt window (.inl (by rwa [hspaces] at hspace))
    · exact (hfocus window hf).elim (fun h => hlt window (.inr (.inl h))) id
    · exact (hpointer grab hp).elim
        (fun h => hlt _ (.inr (.inr (.inl ⟨grab, h, rfl⟩)))) id
    · exact (htouch grab htg).elim
        (fun h => hlt _ (.inr (.inr (.inr (.inl ⟨grab, h, rfl⟩))))) id
    · exact (hdebug window hd).elim (fun h => hlt window (.inr (.inr (.inr (.inr h))))) id
  · rw [Guarded, hset, not_false_iff, and_true]
    rfl

/-- An update of anything else. -/
theorem framed_of_fixed (h : t.fixed = s.fixed) (hrefs : t.references = s.references) :
    Framed NoPlaces False s t := by
  simp only [references, Prod.mk.injEq] at hrefs
  obtain ⟨hnext, hfocus, hpointer, htouch, hdebug⟩ := hrefs
  exact framed_of_references h hnext.ge (fun _ => .inl ∘ hfocus.symm.trans)
    (fun _ => .inl ∘ hpointer.symm.trans) (fun _ => .inl ∘ htouch.symm.trans)
    (fun _ => .inl ∘ hdebug.symm.trans)

theorem framed_refl (s : State) : Framed NoPlaces False s s := framed_of_fixed rfl rfl

/-- A change of windows within a space, which a frame allows in part and the state's
knowledge bounds. -/
theorem framed_modifySpace {name : String} {f : Space → Space}
    (houtputs : ∀ space, (f space).outputs = space.outputs)
    (hwindows : ∀ window, (f (s.spaces.value name)).Holds window →
      (s.spaces.value name).Holds window ∨ places name window)
    (hknown : ∀ window, places name window → window.id < s.nextWindow) :
    Framed places False s (s.modifySpace name f) := by
  have hvalue : ∀ name', ((s.modifySpace name f).spaces.value name') =
      if name' = name then f (s.spaces.value name) else s.spaces.value name' := by
    intro name'
    simp only [modifySpace, Registry.modify_value, Function.update_apply]
  have hholds : ∀ name' window, ((s.modifySpace name f).spaces.value name').Holds window →
      (s.spaces.value name').Holds window ∨ (name' = name ∧ places name window) := by
    intro name' window ht
    rw [hvalue] at ht
    split at ht
    next he =>
      subst he
      exact (hwindows window ht).imp_right fun hplaced => ⟨rfl, hplaced⟩
    next => exact .inl ht
  refine ⟨⟨rfl, rfl, rfl, rfl, fun name' => ?_⟩,
    ⟨fun name' window ht => ?_, le_rfl, fun hs window ht => ?_⟩,
    ⟨rfl, (and_iff_left not_false).symm⟩⟩
  · rw [hvalue]
    split
    next he => rw [he, houtputs]
    next => rfl
  · exact (hholds name' window ht).imp_right fun ⟨he, hplaced⟩ => he ▸ hplaced
  · rcases ht with ⟨name', ht⟩ | hrest
    · rcases hholds name' window ht with hold | ⟨-, hplaced⟩
      · exact hs window (.inl ⟨name', hold⟩)
      · exact hknown window hplaced
    · exact hs window (.inr hrest)

variable {W : World} {name : String} {window : WorkspaceWindow}

theorem framed_mapElement {location : Point} {zIndex : WorkspaceWindow → Nat}
    (hknown : window.id < s.nextWindow) :
    Framed (fun n w => n = name ∧ w = window) False s
      (s.modifySpace name fun space => space.mapElement zIndex window location) :=
  framed_modifySpace (fun _ => rfl)
    (fun _ ht => (Space.mem_windows_mapElement.mp ht).imp_right fun he => ⟨rfl, he⟩)
    fun _ hplaced => hplaced.2 ▸ hknown

/-- A window that is moved within its space. -/
theorem framed_moveElement {location : Point} {zIndex : WorkspaceWindow → Nat}
    (hmem : window ∈ (s.spaces.value name).windows) :
    Framed NoPlaces False s
      (s.modifySpace name fun space => space.mapElement zIndex window location) :=
  framed_modifySpace (fun _ => rfl)
    (fun _ ht => .inl ((Space.mem_windows_mapElement.mp ht).elim id fun he => he ▸ hmem))
    fun _ hplaced => hplaced.elim

theorem framed_raiseElement {zIndex : WorkspaceWindow → Nat} :
    Framed NoPlaces False s
      (s.modifySpace name fun space => space.raiseElement zIndex window) := by
  refine framed_modifySpace (fun space => ?_)
    (fun _ ht => .inl (Space.mem_windows_raiseElement.mp ht)) fun _ hplaced => hplaced.elim
  rw [Space.raiseElement]
  split
  · rfl
  · rfl

theorem framed_unmapElem :
    Framed NoPlaces False s (s.modifySpace name fun space => space.unmapElem window) :=
  framed_modifySpace (fun _ => rfl)
    (fun _ ht => .inl (Space.mem_windows_unmapElem.mp ht).1) fun _ hplaced => hplaced.elim

/-- What is not a lock surface counts as focused. -/
theorem framed_setFocus {target : KeyboardFocusTarget} (hknown : s.knows target) :
    Framed NoPlaces (¬ (FocusTarget.keyboard target).IsLockSurface) s (s.setFocus target) := by
  refine ⟨⟨rfl, rfl, rfl, rfl, fun _ => rfl⟩,
    ⟨fun _ _ ht => .inl ht, le_rfl, fun hs window ht => ?_⟩, ⟨rfl, ?_⟩⟩
  · rcases ht with hspace | hfocus | hrest
    · exact hs window (.inl hspace)
    · cases hfocus
      exact of_decide_eq_true hknown
    · exact hs window (.inr (.inr hrest))
  · rw [Guarded, setFocus, List.forall_mem_cons, not_not, and_comm]
    rfl

theorem framed_setFocus_window (hknown : window.id < s.nextWindow) :
    Framed NoPlaces True s (s.setFocus (.window window)) := by
  have hknows : s.knows (.window window) := decide_eq_true hknown
  exact (framed_setFocus hknows).mono (fun _ _ => id) (iff_of_true id trivial)

theorem framed_setPointerFocus {target : Option PointerFocusTarget} :
    Framed NoPlaces (target.isSome = true) s (s.setPointerFocus target) := by
  refine ⟨⟨rfl, rfl, rfl, rfl, fun _ => rfl⟩, ⟨fun _ _ ht => .inl ht, le_rfl, id⟩, ⟨rfl, ?_⟩⟩
  cases target with
  | none => simp [Guarded, setPointerFocus]
  | some target => simp [Guarded, setPointerFocus, FocusTarget.IsLockSurface]

theorem framed_freshWindow {kind : WindowKind} : Framed NoPlaces False s (s.freshWindow kind).2 :=
  framed_of_references rfl (Nat.le_succ _) (fun _ => .inl) (fun _ => .inl) (fun _ => .inl)
    fun _ => .inl

theorem framed_pointerGrab {grab : Option SurfaceGrab}
    (hknown : ∀ g, grab = some g → g.window.id < s.nextWindow) :
    Framed NoPlaces False s { s with pointerGrab := grab } :=
  framed_of_references rfl le_rfl (fun _ => .inl) (fun g hg => .inr (hknown g hg))
    (fun _ => .inl) fun _ => .inl

theorem framed_touchGrab {grab : Option SurfaceGrab}
    (hknown : ∀ g, grab = some g → g.window.id < s.nextWindow) :
    Framed NoPlaces False s { s with touchGrab := grab } :=
  framed_of_references rfl le_rfl (fun _ => .inl) (fun _ => .inl)
    (fun g hg => .inr (hknown g hg)) fun _ => .inl

theorem framed_debugUi {debugUi : Option WorkspaceWindow}
    (hknown : ∀ w, debugUi = some w → w.id < s.nextWindow) :
    Framed NoPlaces False s { s with debugUi := debugUi } :=
  framed_of_references rfl le_rfl (fun _ => .inl) (fun _ => .inl) (fun _ => .inl)
    fun w hw => .inr (hknown w hw)

theorem Known.of_mem (hs : s.Known) (hmem : window ∈ (s.spaces.value name).windows) :
    window.id < s.nextWindow :=
  hs window (.inl ⟨name, hmem⟩)

/-! ## Windows that stay in their space -/

variable {zone : Option String}

/-- What most requests come to: nothing changes that a frame is about, but for a window that
may be moved within the space that it is in. -/
inductive Shifts (s : State) : State → Prop
  | kept {t : State} (hfixed : t.fixed = s.fixed) (hrefs : t.references = s.references) :
      Shifts s t
  | moved {t : State} {name : String} {window : WorkspaceWindow} {location : Point}
      {zIndex : WorkspaceWindow → Nat} (hfixed : t.fixed = s.fixed)
      (hrefs : t.references = s.references)
      (hmem : window ∈ (s.spaces.value name).windows) :
      Shifts s (t.modifySpace name fun space => space.mapElement zIndex window location)

theorem shifts_refl (s : State) : Shifts s s := .kept rfl rfl

theorem Shifts.framed (h : Shifts s t) : Framed NoPlaces False s t := by
  cases h with
  | kept hfixed hrefs => exact framed_of_fixed hfixed hrefs
  | @moved t name window location zIndex hfixed hrefs hmem =>
      have hspaces : t.spaces = s.spaces := congrArg Prod.fst hfixed
      refine (framed_of_fixed hfixed hrefs).after (framed_moveElement ?_)
      rw [hspaces]
      exact hmem

theorem framed_of_shifts {x : Except Panic State} (h : Ensures (Shifts s) x) :
    Ensures (Framed NoPlaces False s) x :=
  h.mono fun _ => Shifts.framed

/-- A window of the space is placed anew. -/
theorem placeWindow_shifts (hmem : window ∈ (s.spaces.value name).windows) :
    Ensures (Shifts s) (s.placeWindow W name window zone) := by
  rw [placeWindow, ensures_expect_bind]
  intro _ _
  rw [ensures_bind]
  intro rect _
  exact ensures_pure.mpr (.moved rfl rfl hmem)

/-! ## Placing and focusing -/

theorem placeWindow_framed (hknown : window.id < s.nextWindow) :
    Ensures (Framed (fun n w => n = name ∧ w = window) False s)
      (s.placeWindow W name window zone) := by
  rw [placeWindow, ensures_expect_bind]
  intro _ _
  rw [ensures_bind]
  intro rect _
  exact ensures_pure.mpr (framed_mapElement hknown)

theorem focusWindow_framed (hname : name ∈ s.spaces.keys)
    (hknown : window.id < s.nextWindow) :
    Framed NoPlaces True s (s.focusWindow W window name) := by
  rw [focusWindow, Registry.get?_of_mem hname]
  exact framed_raiseElement.after (framed_setFocus_window hknown)

theorem focusTop_framed (hs : s.Known) (hname : name ∈ s.spaces.keys) :
    Framed NoPlaces ((s.spaces.value name).windows ≠ []) s (s.focusTop W name) := by
  rw [focusTop]
  split
  next window htop =>
    have hmem := List.mem_of_getLast? htop
    refine (focusWindow_framed hname (hs.of_mem hmem)).mono (fun _ _ => id) ?_
    exact iff_of_true trivial (List.ne_nil_of_mem hmem)
  next htop =>
    refine (framed_refl s).mono (fun _ _ => id) ?_
    rw [List.getLast?_eq_none_iff.mp htop]
    exact iff_of_false id fun hne => hne rfl

/-! ## The search for an app id -/

variable {appId : String}

/-- The loop, from the second window on. -/
theorem findByAppId_succ (i : Nat) (windowResult : Option WorkspaceWindow) (last : Bool)
    (windows : List WorkspaceWindow) :
    findByAppId W appId (i + 1) windowResult last windows =
      (if last then (windows.filter fun w => W.appId w = appId).getLast?
        else (windows.filter fun w => W.appId w = appId).head?).or windowResult := by
  induction windows generalizing i windowResult with
  | nil => cases last <;> rfl
  | cons window windows ih =>
      rw [findByAppId]
      by_cases hid : W.appId window = appId
      · rw [if_pos hid, if_neg (Nat.succ_ne_zero i), List.filter_cons_of_pos (by simpa using hid)]
        cases last with
        | false => rfl
        | true =>
            rw [if_pos rfl, ih, if_pos rfl, if_pos rfl]
            cases hrest : windows.filter fun w => W.appId w = appId with
            | nil => rfl
            | cons w rest =>
                have hsome := List.getLast?_isSome.mpr (List.cons_ne_nil w rest)
                rw [List.getLast?_cons_cons, Option.or_of_isSome hsome, Option.or_of_isSome hsome]
      · rw [if_neg hid, ih, List.filter_cons_of_neg (by simpa using hid)]

theorem findByAppId_eq_pick (windows : List WorkspaceWindow) :
    findByAppId W appId 0 none false windows =
      Stack.pick (fun w => decide (W.appId w = appId)) windows := by
  cases windows with
  | nil => rfl
  | cons window windows =>
      rw [findByAppId, Stack.pick]
      by_cases hid : W.appId window = appId
      · rw [if_pos hid, if_pos rfl, findByAppId_succ, if_pos rfl, if_pos (by simpa using hid),
          List.filter_cons_of_pos (by simpa using hid)]
        cases windows.filter fun w => W.appId w = appId with
        | nil => rfl
        | cons w rest =>
            rw [List.getLast?_cons_cons]
            exact Option.or_of_isSome (List.getLast?_isSome.mpr (List.cons_ne_nil w rest))
      · rw [if_neg hid, findByAppId_succ, if_neg Bool.false_ne_true, if_neg (by simpa using hid),
          Option.or_none, List.filter_cons_of_neg (by simpa using hid)]

/-- The mapped windows of an app in the first space. -/
def windowsOf (s : State) (W : World) (appId : String) : List WorkspaceWindow :=
  s.spaces.first.windows.filter fun w => W.appId w = appId

theorem filter_stack :
    (s.spaces.first.stack.filter fun w => W.appId w = appId) = (s.windowsOf W appId).reverse := by
  rw [Space.stack, List.filter_reverse]
  rfl

/-- A call finds a window of the app, if there is one, and focuses it. -/
theorem focusWindowByAppId_eq (s : State) (W : World) (appId : String) :
    (∃ window ∈ s.windowsOf W appId,
      Stack.pick (fun w => decide (W.appId w = appId)) s.spaces.first.stack = some window ∧
        s.focusWindowByAppId W appId = (s.focusWindow W window s.spaces.firstKey, true)) ∨
      (s.windowsOf W appId = [] ∧ s.focusWindowByAppId W appId = (s, false)) := by
  rw [focusWindowByAppId, findByAppId_eq_pick]
  show (∃ window ∈ _, Stack.pick _ s.spaces.first.stack = some window ∧ _) ∨ _
  cases hpick : Stack.pick (fun w => decide (W.appId w = appId)) s.spaces.first.stack with
  | none =>
      refine .inr ⟨?_, ?_⟩
      · by_contra hne
        have hsome := Stack.pick_isSome_iff.mpr
          (filter_stack ▸ List.reverse_ne_nil_iff.mpr hne)
        rw [hpick] at hsome
        cases hsome
      · rw [Space.stack] at hpick
        rw [hpick]
  | some window =>
      have hmem := Stack.pick_mem hpick
      rw [filter_stack, List.mem_reverse] at hmem
      rw [Space.stack] at hpick
      refine .inl ⟨window, hmem, rfl, ?_⟩
      rw [hpick]

theorem focusWindowByAppId_framed (hs : s.Known) :
    Framed NoPlaces (∃ window ∈ s.spaces.first.windows, W.appId window = appId) s
      (s.focusWindowByAppId W appId).1 := by
  obtain ⟨window, hmem, -, heq⟩ | ⟨hnone, heq⟩ := focusWindowByAppId_eq s W appId
  · obtain ⟨hheld, hid⟩ := List.mem_filter.mp hmem
    rw [heq]
    refine (focusWindow_framed s.spaces.firstKey_mem (hs.of_mem hheld)).mono (fun _ _ => id) ?_
    exact iff_of_true trivial ⟨window, hheld, of_decide_eq_true hid⟩
  · rw [heq]
    refine (framed_refl s).mono (fun _ _ => id) (iff_of_false id ?_)
    intro hexists
    obtain ⟨window, hheld, hid⟩ := hexists
    have hmem : window ∈ s.windowsOf W appId := List.mem_filter.mpr ⟨hheld, decide_eq_true hid⟩
    rw [hnone] at hmem
    cases hmem

end State

end Scape.Display
