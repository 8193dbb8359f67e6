import Scape.Proofs.Effects

/-!
# The order of the windows

The windows of the first space are a stack, and where their z-index is the same, to focus
one of them is to raise it. Two commands go through the stack by that: the search for an
app id, which raises the windows of an app one after the other (`focusWindowByAppId_visits`),
and `Tab` with 1, 2, and so on (`tab_order`). Each looks its window up in the stack that the
calls before have changed.

While the session is locked no action is executed, and so `Tab` does nothing (`tab_locked`).
-/

namespace Scape.Display

open Scape Fallible

/-- Distinct windows, all on one level. -/
structure World.Levels (W : World) (space : Space) : Prop where
  nodup : space.windows.Nodup
  zIndex : ∀ w ∈ space.windows, ∀ w' ∈ space.windows, W.zIndex w = W.zIndex w'

variable {W : World} {space : Space} {window : WorkspaceWindow} {s t : State} {appId : String}

/-! ## Raising a window -/

/-- The elements but one, and that one last. -/
structure Space.Raises (window : WorkspaceWindow) (space space' : Space) : Prop where
  perm : space'.elements.Perm space.elements
  others : space'.elements.filter (fun element => element.1 ≠ window) =
    space.elements.filter fun element => element.1 ≠ window
  stack : space'.stack = Stack.raise window space.stack

theorem Space.Raises.windows {space' : Space} (h : space.Raises window space') :
    space'.windows.Perm space.windows :=
  h.perm.map Prod.fst

theorem World.Levels.of_perm {space' : Space} (h : W.Levels space)
    (hperm : space'.windows.Perm space.windows) : W.Levels space' where
  nodup := hperm.nodup_iff.mpr h.nodup
  zIndex w hw w' hw' := h.zIndex w (hperm.mem_iff.mp hw) w' (hperm.mem_iff.mp hw')

theorem World.Levels.stack_nodup (h : W.Levels space) : space.stack.Nodup :=
  List.nodup_reverse.mpr h.nodup

/-- On one level nothing has to be sorted. -/
theorem World.Levels.insertionSort {elements : List (WorkspaceWindow × Point)}
    (h : W.Levels space) (hsub : ∀ element ∈ elements, element.1 ∈ space.windows) :
    elements.insertionSort (fun a b => W.zIndex a.1 ≤ W.zIndex b.1) = elements := by
  refine List.Pairwise.insertionSort_eq (List.pairwise_of_forall_mem_list ?_)
  intro a ha b hb
  exact Nat.le_of_eq (h.zIndex a.1 (hsub a ha) b.1 (hsub b hb))

theorem World.Levels.raiseElement (h : W.Levels space) (hmem : window ∈ space.windows) :
    space.Raises window (space.raiseElement W.zIndex window) := by
  obtain ⟨location, hloc⟩ :=
    Option.isSome_iff_exists.mp (Space.elementLocation_isSome_iff.mpr hmem)
  have hin : (window, location) ∈ space.elements := by
    obtain ⟨element, hfind, rfl⟩ := Option.map_eq_some_iff.mp hloc
    have hfst : element.1 = window := by simpa using List.find?_some hfind
    rw [← hfst]
    exact List.mem_of_find?_eq_some hfind
  have helements : (space.raiseElement W.zIndex window).elements =
      space.elements.filter (fun element => element.1 ≠ window) ++ [(window, location)] := by
    rw [Space.raiseElement, hloc]
    refine h.insertionSort fun element helement => ?_
    rcases List.mem_append.mp helement with hold | hnew
    · exact List.mem_map_of_mem (List.mem_filter.mp hold).1
    · rw [List.mem_singleton.mp hnew]
      exact hmem
  -- the element is told by its window
  have hne : space.elements.filter (fun element => element.1 ≠ window) =
      space.elements.filter fun element => element ≠ (window, location) := by
    refine List.filter_congr fun element helement => decide_eq_decide.mpr (not_congr ?_)
    exact ⟨fun he => List.inj_on_of_nodup_map h.nodup helement hin he, congrArg Prod.fst⟩
  refine ⟨?_, ?_, ?_⟩
  · rw [helements, hne]
    exact (List.perm_append_singleton _ _).trans (Stack.raise_perm (h.nodup.of_map _) hin)
  · rw [helements, List.filter_append, List.filter_filter, List.filter_cons_of_neg (by simp)]
    simp
  · rw [Space.stack, Space.windows, helements, List.map_append, List.reverse_append, Stack.raise,
      Space.stack, List.filter_reverse, Space.windows, List.filter_map]
    rfl

namespace State

/-- One window is raised in the first space, and the keyboard gets it. -/
structure Focuses (window : WorkspaceWindow) (s t : State) : Prop where
  raises : s.spaces.first.Raises window t.spaces.first
  keyboardFocus : t.keyboardFocus = some (.window window)
  focusSet : t.focusSet = .keyboard (.window window) :: s.focusSet
  sessionLock : t.sessionLock = s.sessionLock

theorem focusWindow_focuses (h : W.Levels s.spaces.first)
    (hmem : window ∈ s.spaces.first.stack) :
    s.Focuses window (s.focusWindow W window s.spaces.firstKey) := by
  rw [focusWindow, Registry.get?_of_mem s.spaces.firstKey_mem]
  have hfirst : ((s.modifySpace s.spaces.firstKey
      fun space => space.raiseElement W.zIndex window).setFocus (.window window)).spaces.first =
        s.spaces.first.raiseElement W.zIndex window := Function.update_self ..
  refine ⟨?_, rfl, rfl, rfl⟩
  rw [hfirst]
  exact h.raiseElement (List.mem_reverse.mp hmem)

theorem Focuses.levels (h : s.Focuses window t) (hs : W.Levels s.spaces.first) :
    W.Levels t.spaces.first :=
  hs.of_perm h.raises.windows

/-! ## The search for an app id -/

/-- What one call does, by what it returns. -/
theorem focusWindowByAppId_cases (appId : String) (h : W.Levels s.spaces.first) :
    (∃ window ∈ s.windowsOf W appId,
      Stack.pick (fun w => decide (W.appId w = appId)) s.spaces.first.stack = some window ∧
        s.Focuses window (s.focusWindowByAppId W appId).1 ∧
        (s.focusWindowByAppId W appId).2 = true) ∨
      (s.windowsOf W appId = [] ∧ s.focusWindowByAppId W appId = (s, false)) := by
  refine (focusWindowByAppId_eq s W appId).imp_left ?_
  intro ⟨window, hmem, hpick, heq⟩
  refine ⟨window, hmem, hpick, ?_⟩
  rw [heq]
  exact ⟨focusWindow_focuses h (List.mem_reverse.mpr (List.mem_filter.mp hmem).1), rfl⟩

/-- The state after a call. -/
def focusCall (W : World) (appId : String) (s : State) : State := (s.focusWindowByAppId W appId).1

/-- A call leaves the state as it is, or raises a window of the app and nothing else. -/
def CallsInOrder (W : World) (appId : String) (s : State) : Prop :=
  s.focusCall W appId = s ∨ ∃ window ∈ s.windowsOf W appId, s.Focuses window (s.focusCall W appId)

/-- What the keyboard was given, the last first. -/
def focusesOf (windows : List WorkspaceWindow) : List FocusTarget :=
  (windows.map fun w => .keyboard (.window w)).reverse

theorem focusCall_keeps (appId : String) (h : W.Levels s.spaces.first) :
    W.Levels (s.focusCall W appId).spaces.first ∧
      ((s.focusCall W appId).windowsOf W appId).Perm (s.windowsOf W appId) := by
  rcases focusWindowByAppId_cases appId h with ⟨window, -, -, hfocuses, -⟩ | ⟨-, hsame⟩
  · exact ⟨hfocuses.levels h, hfocuses.raises.windows.filter _⟩
  · rw [focusCall, hsame]
    exact ⟨h, .refl _⟩

theorem iterate_focusCall_keeps (appId : String) (h : W.Levels s.spaces.first) (k : ℕ) :
    W.Levels ((focusCall W appId)^[k] s).spaces.first ∧
      (((focusCall W appId)^[k] s).windowsOf W appId).Perm (s.windowsOf W appId) := by
  induction k with
  | zero => exact ⟨h, .refl _⟩
  | succ k ih =>
      rw [Function.iterate_succ_apply']
      have hnext := focusCall_keeps appId ih.1
      exact ⟨hnext.1, hnext.2.trans ih.2⟩

/-- What the calls focus is what the turns of the stack pick. -/
theorem iterate_focusCall_focusSet (h : W.Levels s.spaces.first) (hne : s.windowsOf W appId ≠ [])
    (k : ℕ) :
    ∃ picked : List WorkspaceWindow,
      Stack.picks (fun w => decide (W.appId w = appId)) k s.spaces.first.stack = picked.map some ∧
        ((focusCall W appId)^[k] s).focusSet = focusesOf picked ++ s.focusSet := by
  induction k generalizing s with
  | zero => exact ⟨[], rfl, rfl⟩
  | succ k ih =>
      rcases focusWindowByAppId_cases appId h with ⟨window, -, hpick, hfocuses, -⟩ | ⟨hnil, -⟩
      · have hkeeps := focusCall_keeps appId h
        have hne' : (s.focusCall W appId).windowsOf W appId ≠ [] := by
          intro hnil
          rw [hnil] at hkeeps
          exact hne (List.nil_perm.mp hkeeps.2)
        obtain ⟨picked, hpicks, hset⟩ := ih hkeeps.1 hne'
        refine ⟨window :: picked, ?_, ?_⟩
        · have hturn : Stack.turn (fun w => decide (W.appId w = appId)) s.spaces.first.stack =
              (s.focusCall W appId).spaces.first.stack := by
            rw [Stack.turn, hpick]
            exact hfocuses.raises.stack.symm
          rw [Stack.picks, hpick, hturn, hpicks, List.map_cons]
        · rw [Function.iterate_succ_apply, hset, focusCall, hfocuses.focusSet, focusesOf, focusesOf,
            List.map_cons, List.reverse_cons, List.append_assoc]
          rfl
      · exact absurd hnil hne

/-- As many calls as an app has windows focus each of them once. No call but raises one of
them, and it finds one exactly if there is one. -/
theorem focusWindowByAppId_visits (s : State) (appId : String) (h : W.Levels s.spaces.first) :
    (∃ picked, picked.Perm (s.windowsOf W appId) ∧
      ((focusCall W appId)^[(s.windowsOf W appId).length] s).focusSet =
        focusesOf picked ++ s.focusSet) ∧
      ∀ k, CallsInOrder W appId ((focusCall W appId)^[k] s) ∧
        ((((focusCall W appId)^[k] s).focusWindowByAppId W appId).2 = true ↔
          1 ≤ (s.windowsOf W appId).length) := by
  constructor
  · by_cases hnil : s.windowsOf W appId = []
    · refine ⟨[], ?_, ?_⟩
      · rw [hnil]
      · rw [hnil]
        rfl
    · obtain ⟨picked, hpicks, hset⟩ :=
        iterate_focusCall_focusSet h hnil (s.windowsOf W appId).length
      refine ⟨picked, ?_, hset⟩
      have hperm := Stack.picks_perm (p := fun w => decide (W.appId w = appId))
        h.stack_nodup
      rw [filter_stack, List.length_reverse, hpicks] at hperm
      exact ((List.map_perm_map_iff (Option.some_injective _)).mp hperm).trans
        (List.reverse_perm _)
  · intro k
    obtain ⟨hlevels, hperm⟩ := iterate_focusCall_keeps appId h k
    rcases focusWindowByAppId_cases appId hlevels with
      ⟨window, hmem, -, hfocuses, htrue⟩ | ⟨hnil, hsame⟩
    · refine ⟨.inr ⟨window, hmem, hfocuses⟩, iff_of_true htrue ?_⟩
      exact List.length_pos_of_mem (hperm.mem_iff.mp hmem)
    · rw [hnil] at hperm
      refine ⟨.inl ?_, iff_of_false ?_ ?_⟩
      · rw [focusCall, hsame]
      · rw [hsame]
        exact Bool.false_ne_true
      · rw [List.nil_perm.mp hperm]
        exact Nat.not_succ_le_zero 0

/-! ## Tab -/

/-- `Tab` with 1, 2, and so on. -/
def tabs (k : ℕ) : List Action := (List.range k).map fun i => .tab (i + 1)

theorem tabs_succ (k : ℕ) : tabs (k + 1) = tabs k ++ [.tab (k + 1)] := by
  rw [tabs, List.range_succ, List.map_append]
  rfl

theorem tab_focuses (h : W.Levels s.spaces.first) {index : Nat}
    (hat : s.spaces.first.stack[index]? = some window) : s.Focuses window (s.tab W index) := by
  rw [Space.stack] at hat
  rw [tab, hat]
  exact focusWindow_focuses h (List.mem_of_getElem? hat)

theorem execute_tab (hunlocked : s.locked = false) (index : Nat) :
    s.execute W (.tab index) = .ok (s.tab W index) := by
  rw [execute, hunlocked]
  rfl

/-- One `Tab` after the other, down to position `k`. -/
theorem run_tabs (h : W.Levels s.spaces.first) (hunlocked : s.locked = false) {k : ℕ}
    (hk : k < s.spaces.first.stack.length) :
    ∃ t, Fallible.run (execute W) s (tabs k) = .ok t ∧ t.locked = false ∧
      W.Levels t.spaces.first ∧ t.spaces.first.elements.Perm s.spaces.first.elements ∧
      t.spaces.first.stack = Stack.raiseUpTo s.spaces.first.stack k ∧
      t.focusSet = focusesOf ((s.spaces.first.stack.drop 1).take k) ++ s.focusSet := by
  induction k with
  | zero => exact ⟨s, rfl, hunlocked, h, .refl _, rfl, rfl⟩
  | succ k ih =>
      obtain ⟨t, hrun, ht, hlevels, hperm, hstack, hset⟩ := ih (Nat.lt_of_succ_lt hk)
      have hat : t.spaces.first.stack[k + 1]? = some s.spaces.first.stack[k + 1] := by
        rw [hstack, Stack.raiseUpTo_getElem? h.stack_nodup hk]
        exact List.getElem?_eq_getElem hk
      have hfocuses := tab_focuses hlevels hat
      refine ⟨t.tab W (k + 1), ?_, ?_, hfocuses.levels hlevels, hfocuses.raises.perm.trans hperm,
        ?_, ?_⟩
      · rw [tabs_succ, Fallible.run_append hrun, Fallible.run, execute_tab ht]
        rfl
      · rw [locked, hfocuses.sessionLock]
        exact ht
      · rw [hfocuses.raises.stack, Stack.raiseUpTo_succ, ← hstack, Stack.raiseAt, hat]
      · have hlt : k < (s.spaces.first.stack.drop 1).length := by
          rw [List.length_drop]
          omega
        rw [hfocuses.focusSet, hset, List.take_succ_eq_append_getElem hlt, focusesOf, focusesOf,
          List.map_append, List.reverse_append, List.getElem_drop]
        simp only [Nat.add_comm 1 k]
        rfl

/-- While the session is not locked, `Tab` with 1 to `k` focuses the windows at these
positions in their order, and turns round the stack down to there. An index that is too
large does nothing, locked or not. -/
theorem tab_order (s : State) (h : W.Levels s.spaces.first) :
    (s.locked = false → ∀ k < s.spaces.first.stack.length,
      ∃ t, Fallible.run (execute W) s (tabs k) = .ok t ∧
        t.focusSet = focusesOf ((s.spaces.first.stack.drop 1).take k) ++ s.focusSet ∧
        t.spaces.first.stack = (s.spaces.first.stack.take (k + 1)).reverse ++
          s.spaces.first.stack.drop (k + 1) ∧
        t.spaces.first.elements.Perm s.spaces.first.elements) ∧
      ∀ index, s.spaces.first.stack.length ≤ index → s.execute W (.tab index) = .ok s := by
  constructor
  · intro hunlocked k hk
    obtain ⟨t, hrun, -, -, hperm, hstack, hset⟩ := run_tabs h hunlocked hk
    rw [Stack.raiseUpTo_eq h.stack_nodup hk] at hstack
    exact ⟨t, hrun, hset, hstack, hperm⟩
  · intro index hle
    cases hlocked : s.locked with
    | true =>
        unfold execute
        rw [hlocked]
        rfl
    | false =>
        have hnone : s.spaces.first.windows.reverse[index]? = none := List.getElem?_eq_none hle
        rw [execute_tab hlocked, tab, hnone]

/-- Three windows on one level, two of them of one app. -/
def threeWindows : State :=
  let window (id : Nat) : WorkspaceWindow × Point := (⟨id, .wayland ⟨id⟩⟩, ⟨0, 0⟩)
  { State.new with
    spaces := State.new.spaces.modify "main" fun _ => ⟨[window 0, window 1, window 2], []⟩ }

def twoApps : World := { World.quiet with appId := fun w => if w.id = 1 then "editor" else "shell" }

theorem threeWindows_levels : twoApps.Levels threeWindows.spaces.first where
  nodup := by decide
  zIndex _ _ _ _ := rfl

theorem threeWindows_visits :
    (threeWindows.windowsOf twoApps "shell").length = 2 ∧
      (∃ picked, picked.Perm (threeWindows.windowsOf twoApps "shell") ∧
        ((focusCall twoApps "shell")^[2] threeWindows).focusSet = focusesOf picked ++ []) ∧
      ∀ k, CallsInOrder twoApps "shell" ((focusCall twoApps "shell")^[k] threeWindows) ∧
        ((((focusCall twoApps "shell")^[k] threeWindows).focusWindowByAppId twoApps "shell").2 =
          true ↔ 1 ≤ 2) :=
  ⟨by decide, focusWindowByAppId_visits threeWindows "shell" threeWindows_levels⟩

theorem threeWindows_tab :
    ∃ t, Fallible.run (execute twoApps) threeWindows (tabs 2) = .ok t ∧
      t.focusSet = [.keyboard (.window ⟨0, .wayland ⟨0⟩⟩), .keyboard (.window ⟨1, .wayland ⟨1⟩⟩)] ∧
      t.spaces.first.stack =
        [⟨0, .wayland ⟨0⟩⟩, ⟨1, .wayland ⟨1⟩⟩, ⟨2, .wayland ⟨2⟩⟩] ∧
      t.spaces.first.elements.Perm threeWindows.spaces.first.elements :=
  (tab_order threeWindows threeWindows_levels).1 rfl 2 (by decide)

/-- Under a lock `Tab` with 1 focuses nothing, though two windows lie below the topmost. -/
theorem tab_locked :
    let s := { threeWindows with sessionLock := some ⟨[]⟩ }
    twoApps.Levels s.spaces.first ∧ s.spaces.first.stack.length = 3 ∧
      Fallible.run (execute twoApps) s (tabs 1) = .ok s ∧
      s.focusSet ≠ focusesOf ((s.spaces.first.stack.drop 1).take 1) ++ s.focusSet :=
  ⟨threeWindows_levels, rfl, rfl, by decide⟩

end State

end Scape.Display
