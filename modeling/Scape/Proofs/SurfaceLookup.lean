import Scape.Display.Machine

/-!
# Finding the window of a surface

Nearly every request of a client names a surface, and `window_and_space_for_surface`
is to find its window and the space that is mapped in. It makes one attempt for each
space, but takes the result of the first attempt, found or not. `space_of_window`
asks the spaces until one answers.

So a window is found only if it is in the first space, in whichever order the map of
the spaces is iterated, and nothing of the same surface is below it there.
-/

namespace Scape.Display.State

variable {W : World} {s : State} {surface : WlSurface} {window : WorkspaceWindow}
  {name : String}

/-- A window of the surface is mapped in this space and in no other. -/
structure MappedOnlyIn (s : State) (W : World) (surface : WlSurface)
    (window : WorkspaceWindow) (name : String) : Prop where
  surfaceOf : W.surfaceOf window = some surface
  mem : name ∈ s.spaces.keys
  holds : ∀ other ∈ s.spaces.keys, (s.spaces.value other).Holds window ↔ other = name

/-- Some space holds a window of the surface. -/
def HasWindowFor (s : State) (W : World) (surface : WlSurface) : Prop :=
  ∃ name ∈ s.spaces.keys, ∃ window ∈ (s.spaces.value name).windows,
    W.surfaceOf window = some surface

/-- A window in just one space is found there, in agreement with `space_of_window`;
and only for a surface with no window nothing is found. -/
structure FindsWindow (s : State) (W : World) (surface : WlSurface) : Prop where
  found : ∀ window name, s.MappedOnlyIn W surface window name →
    s.windowAndSpaceForSurface W surface = some (window, name) ∧
      s.spaceOfWindow window = some name
  missing : s.windowAndSpaceForSurface W surface = none ↔ ¬ s.HasWindowFor W surface

/-- The window is in the space, and no window of the surface is below it. -/
def Bottommost (W : World) (surface : WlSurface) (space : Space)
    (window : WorkspaceWindow) : Prop :=
  ∃ below above, space.windows = below ++ window :: above ∧
    ∀ other ∈ below, W.surfaceOf other ≠ some surface

/-- What the first space has to have. -/
structure FirstSpaceServes (s : State) (W : World) (surface : WlSurface) : Prop where
  some : s.HasWindowFor W surface →
    ∃ window ∈ s.spaces.first.windows, W.surfaceOf window = some surface
  bottommost : ∀ window name, s.MappedOnlyIn W surface window name →
    Bottommost W surface s.spaces.first window

/-! ## The two searches -/

theorem findSome?_of_only {α β : Type*} [DecidableEq α] {f : α → Option β} {a : α} {b : β} :
    ∀ {l : List α}, a ∈ l → (∀ x ∈ l, f x = if x = a then some b else none) →
      l.findSome? f = some b := by
  intro l
  induction l with
  | nil => intro ha _; cases ha
  | cons x l ih =>
      intro ha hf
      obtain ⟨hx, hl⟩ := List.forall_mem_cons.mp hf
      rw [List.findSome?_cons, hx]
      by_cases he : x = a
      · rw [if_pos he]
      · rw [if_neg he]
        exact ih (List.mem_of_ne_of_mem (Ne.symm he) ha) hl

theorem spaceOfWindow_eq_some (h : s.MappedOnlyIn W surface window name) :
    s.spaceOfWindow window = some name := by
  have hasks : ∀ other ∈ s.spaces.keys,
      ((s.spaces.value other).windows.find? fun w => w = window).map (fun _ => other) =
        if other = name then some name else none := by
    intro other hother
    have hholds := h.holds other hother
    split
    next he =>
      subst he
      have hmem : window ∈ (s.spaces.value other).windows := hholds.mpr rfl
      have hsome : ((s.spaces.value other).windows.find? fun w => w = window).isSome := by
        rw [List.find?_isSome]
        exact ⟨window, hmem, by simp⟩
      rw [Option.map_eq_some_iff]
      exact ⟨_, Option.eq_some_of_isSome hsome, rfl⟩
    next hne =>
      rw [Option.map_eq_none_iff, List.find?_eq_none]
      intro w hw he
      obtain rfl := of_decide_eq_true he
      exact hne (hholds.mp hw)
  exact findSome?_of_only h.mem hasks

theorem windowAndSpaceForSurface_eq_none_iff :
    s.windowAndSpaceForSurface W surface = none ↔
      ∀ window ∈ s.spaces.first.windows, W.surfaceOf window ≠ some surface := by
  rw [windowAndSpaceForSurface, Option.map_eq_none_iff, List.find?_eq_none]
  simp

theorem windowAndSpaceForSurface_eq_some_iff :
    s.windowAndSpaceForSurface W surface = some (window, name) ↔
      name = s.spaces.firstKey ∧ W.surfaceOf window = some surface ∧
        Bottommost W surface s.spaces.first window := by
  rw [windowAndSpaceForSurface, Option.map_eq_some_iff]
  constructor
  · intro h
    obtain ⟨w, hfind, heq⟩ := h
    cases heq
    obtain ⟨hw, below, above, hsplit, hbelow⟩ := List.find?_eq_some_iff_append.mp hfind
    refine ⟨rfl, of_decide_eq_true hw, below, above, hsplit, fun other hother => ?_⟩
    simpa using hbelow other hother
  · intro h
    obtain ⟨rfl, hw, below, above, hsplit, hbelow⟩ := h
    refine ⟨window, ?_, rfl⟩
    refine List.find?_eq_some_iff_append.mpr ⟨decide_eq_true hw, below, above, hsplit, ?_⟩
    intro other hother
    simpa using hbelow other hother

/-! ## Main result -/

theorem Bottommost.mem {space : Space} (h : Bottommost W surface space window) :
    window ∈ space.windows := by
  obtain ⟨below, above, hsplit, -⟩ := h
  rw [hsplit]
  exact List.mem_append_right below List.mem_cons_self

/-- The search is right for a surface exactly if the first space serves it. -/
theorem findsWindow_iff : s.FindsWindow W surface ↔ s.FirstSpaceServes W surface := by
  constructor
  · intro h
    refine ⟨fun hsome => ?_, fun window name honly => ?_⟩
    · have hfound : s.windowAndSpaceForSurface W surface ≠ none :=
        fun hnone => h.missing.mp hnone hsome
      rw [Ne, windowAndSpaceForSurface_eq_none_iff] at hfound
      push Not at hfound
      exact hfound
    · exact (windowAndSpaceForSurface_eq_some_iff.mp (h.found window name honly).1).2.2
  · intro h
    refine ⟨fun window name honly => ⟨?_, spaceOfWindow_eq_some honly⟩, ?_⟩
    · have hbottom := h.bottommost window name honly
      have hfirst : s.spaces.firstKey = name :=
        (honly.holds _ s.spaces.firstKey_mem).mp hbottom.mem
      exact windowAndSpaceForSurface_eq_some_iff.mpr ⟨hfirst.symm, honly.surfaceOf, hbottom⟩
    · rw [windowAndSpaceForSurface_eq_none_iff]
      constructor
      · intro hnone hsome
        obtain ⟨window, hwindow, hsurface⟩ := h.some hsome
        exact hnone window hwindow hsurface
      · intro hnone window hwindow hsurface
        exact hnone ⟨s.spaces.firstKey, s.spaces.firstKey_mem, window, hwindow, hsurface⟩

/-- Two spaces, with one window in the second. -/
def windowInSecond : State :=
  { State.new with
    spaces :=
      { keys := ["main", "side"]
        value := fun name =>
          if name = "side" then ⟨[(⟨0, .wayland ⟨0⟩⟩, ⟨0, 0⟩)], []⟩ else .empty
        nodup := by decide
        nonempty := List.cons_ne_nil _ _ } }

theorem not_findsWindow_second :
    windowInSecond.MappedOnlyIn World.quiet ⟨0⟩ ⟨0, .wayland ⟨0⟩⟩ "side" ∧
    windowInSecond.spaceOfWindow ⟨0, .wayland ⟨0⟩⟩ = some "side" ∧
    windowInSecond.windowAndSpaceForSurface World.quiet ⟨0⟩ = none ∧
    ¬ windowInSecond.FindsWindow World.quiet ⟨0⟩ := by
  have honly : windowInSecond.MappedOnlyIn World.quiet ⟨0⟩ ⟨0, .wayland ⟨0⟩⟩ "side" :=
    ⟨rfl, by decide, by decide⟩
  refine ⟨honly, by decide, by decide, fun h => ?_⟩
  have hfound := (h.found _ _ honly).1
  revert hfound
  decide

end Scape.Display.State
