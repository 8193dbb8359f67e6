import Scape.Shared.Message
import Mathlib.Data.List.Sort

/-!
# Windows, outputs and spaces

The display modules are written against smithay, whose `Space` is a stack of windows
and a list of outputs, each with a location. This file has as much of it as they use.
A window, an output or a surface is compared by what it is, not by what it looks
like, so each has a number for its identity.

What clients are told (activation, configure events, entered outputs) is no part of
this, and neither are the parameters that only decide that.
-/

namespace Scape.Display

structure Point where
  x : Int
  y : Int
  deriving DecidableEq, Repr

instance : Add Point := ⟨fun p q => ⟨p.x + q.x, p.y + q.y⟩⟩

structure Rectangle where
  loc : Point
  width : Int
  height : Int
  deriving DecidableEq, Repr

def Rectangle.contains (r : Rectangle) (p : Point) : Bool :=
  r.loc.x ≤ p.x && p.x < r.loc.x + r.width && r.loc.y ≤ p.y && p.y < r.loc.y + r.height

structure WlSurface where
  id : Nat
  deriving DecidableEq, Repr

structure X11Surface where
  id : Nat
  deriving DecidableEq, Repr

inductive WindowKind where
  | wayland (surface : WlSurface)
  | x11 (surface : X11Surface)
  | egui
  deriving DecidableEq, Repr

structure WorkspaceWindow where
  id : Nat
  kind : WindowKind
  deriving DecidableEq, Repr

def WorkspaceWindow.x11Surface (window : WorkspaceWindow) : Option X11Surface :=
  match window.kind with
  | .x11 surface => some surface
  | _ => none

/-- `WorkspaceWindow::close`: whether the window is to be unmapped right away. -/
def WorkspaceWindow.close (window : WorkspaceWindow) : Bool :=
  match window.kind with
  | .egui => true
  | _ => false

/-- An output of the compositor. It has a mode from the moment it exists. -/
structure SmithayOutput where
  id : Nat
  name : String
  mode : Mode
  deriving DecidableEq, Repr

/-- The elements are in stacking order, the topmost last. -/
structure Space where
  elements : List (WorkspaceWindow × Point)
  outputs : List (SmithayOutput × Point)
  deriving DecidableEq, Repr

namespace Space

def empty : Space := ⟨[], []⟩

def windows (space : Space) : List WorkspaceWindow := space.elements.map Prod.fst

def Holds (space : Space) (window : WorkspaceWindow) : Prop := window ∈ space.windows

instance (space : Space) (window : WorkspaceWindow) : Decidable (space.Holds window) :=
  inferInstanceAs (Decidable (_ ∈ _))

def elementLocation (space : Space) (window : WorkspaceWindow) : Option Point :=
  (space.elements.find? fun element => element.1 = window).map Prod.snd

variable (zIndex : WorkspaceWindow → Nat)

/-- The window on top of those with its index, whether it was there before or not. -/
def mapElement (space : Space) (window : WorkspaceWindow) (location : Point) : Space :=
  { space with
    elements :=
      (space.elements.filter (fun element => element.1 ≠ window) ++ [(window, location)])
        |>.insertionSort fun a b => zIndex a.1 ≤ zIndex b.1 }

def raiseElement (space : Space) (window : WorkspaceWindow) : Space :=
  match space.elementLocation window with
  | some location => space.mapElement zIndex window location
  | none => space

def unmapElem (space : Space) (window : WorkspaceWindow) : Space :=
  { space with elements := space.elements.filter fun element => element.1 ≠ window }

/-- Windows that are not alive any more are dropped. -/
def refresh (space : Space) (alive : WorkspaceWindow → Bool) : Space :=
  { space with elements := space.elements.filter fun element => alive element.1 }

def outputLocation (space : Space) (output : SmithayOutput) : Option Point :=
  (space.outputs.find? fun mapped => mapped.1 = output).map Prod.snd

/-- An output that is mapped already is moved. -/
def mapOutput (space : Space) (output : SmithayOutput) (location : Point) : Space :=
  { space with
    outputs :=
      if (space.outputLocation output).isSome then
        space.outputs.map fun mapped => if mapped.1 = output then (output, location) else mapped
      else space.outputs ++ [(output, location)] }

def unmapOutput (space : Space) (output : SmithayOutput) : Space :=
  { space with outputs := space.outputs.filter fun mapped => mapped.1 ≠ output }

def outputGeometry (space : Space) (output : SmithayOutput) : Option Rectangle :=
  (space.outputLocation output).map fun location =>
    ⟨location, output.mode.width, output.mode.height⟩

def outputAt (space : Space) (point : Point) (mapped : SmithayOutput × Point) : Bool :=
  (space.outputGeometry mapped.1).any (·.contains point)

/-- The topmost output under a point. -/
def outputUnder (space : Space) (point : Point) : Option SmithayOutput :=
  (space.outputs.reverse.find? (space.outputAt point)).map Prod.fst

/-! ## Elements -/

variable {zIndex} {space : Space} {window window' : WorkspaceWindow}

theorem elementLocation_isSome_iff :
    (space.elementLocation window).isSome ↔ window ∈ space.windows := by
  simp only [elementLocation, windows, Option.isSome_map, List.find?_isSome,
    decide_eq_true_eq, List.mem_map]

theorem mem_windows_mapElement {location : Point} :
    window' ∈ (space.mapElement zIndex window location).windows ↔
      window' ∈ space.windows ∨ window' = window := by
  have hperm := List.perm_insertionSort
    (fun a b : WorkspaceWindow × Point => zIndex a.1 ≤ zIndex b.1)
    (space.elements.filter (fun element => element.1 ≠ window) ++ [(window, location)])
  rw [windows, mapElement, (hperm.map Prod.fst).mem_iff]
  simp only [List.map_append, List.mem_append, List.mem_map, List.mem_filter, windows]
  by_cases h : window' = window
  · simp [h]
  · grind

theorem elementLocation_mapElement {location : Point} :
    (space.mapElement zIndex window location).elementLocation window = some location := by
  have hmapped : window ∈ (space.mapElement zIndex window location).windows :=
    mem_windows_mapElement.mpr (.inr rfl)
  obtain ⟨found, hfound⟩ := Option.isSome_iff_exists.mp (elementLocation_isSome_iff.mpr hmapped)
  rw [hfound]
  obtain ⟨element, hfind, rfl⟩ := Option.map_eq_some_iff.mp hfound
  have hself : element.1 = window := by simpa using List.find?_some hfind
  have hmem := List.mem_of_find?_eq_some hfind
  rw [mapElement, List.mem_insertionSort, List.mem_append, List.mem_singleton] at hmem
  rcases hmem with hother | rfl
  · exact absurd hself (by simpa using (List.mem_filter.mp hother).2)
  · rfl

theorem mem_windows_raiseElement :
    window' ∈ (space.raiseElement zIndex window).windows ↔ window' ∈ space.windows := by
  unfold raiseElement
  split
  next location hloc =>
    have hmem : window ∈ space.windows :=
      elementLocation_isSome_iff.mp (by rw [hloc]; rfl)
    rw [mem_windows_mapElement]
    exact or_iff_left_of_imp fun he => he ▸ hmem
  next => rfl

theorem mem_windows_unmapElem :
    window' ∈ (space.unmapElem window).windows ↔ window' ∈ space.windows ∧ window' ≠ window := by
  simp only [windows, unmapElem, List.mem_map, List.mem_filter]
  grind

theorem mem_windows_refresh {alive : WorkspaceWindow → Bool}
    (h : window ∈ (space.refresh alive).windows) : window ∈ space.windows := by
  simp only [windows, refresh, List.mem_map, List.mem_filter] at h ⊢
  obtain ⟨element, ⟨hmem, -⟩, he⟩ := h
  exact ⟨element, hmem, he⟩

/-! ## Outputs -/

variable {output output' : SmithayOutput} {location : Point}

theorem outputLocation_eq_some {mapped : List (SmithayOutput × Point)}
    (h : (mapped.find? fun p => p.1 = output).map Prod.snd = some location) :
    mapped.find? (fun p => p.1 = output) = some (output, location) := by
  obtain ⟨p, hfind, rfl⟩ := Option.map_eq_some_iff.mp h
  have hfst : p.1 = output := by simpa using List.find?_some hfind
  rw [hfind, ← hfst]

theorem outputLocation_mapOutput :
    (space.mapOutput output location).outputLocation output' =
      if output' = output then some location else space.outputLocation output' := by
  unfold mapOutput
  cases hold : space.outputLocation output with
  | none =>
      simp only [Option.isSome_none, Bool.false_eq_true, if_false]
      unfold outputLocation at hold ⊢
      rw [List.find?_append]
      by_cases he : output' = output
      · subst he
        rw [Option.map_eq_none_iff] at hold
        simp [hold]
      · simp [he, Ne.symm he]
  | some old =>
      simp only [Option.isSome_some, if_true]
      unfold outputLocation at hold ⊢
      rw [List.find?_map]
      -- moving an output leaves every entry the entry of its output
      have hsame : ((fun p : SmithayOutput × Point => decide (p.1 = output')) ∘
          fun p => if p.1 = output then (output, location) else p) =
          fun p => decide (p.1 = output') := by
        funext p
        by_cases hp : p.1 = output <;> simp [hp]
      rw [hsame]
      by_cases he : output' = output
      · subst he
        rw [outputLocation_eq_some hold]
        simp
      · cases hfind : space.outputs.find? fun p => p.1 = output' with
        | none => simp [he]
        | some p =>
            have hfst : p.1 = output' := by simpa using List.find?_some hfind
            simp [he, hfst]

theorem outputLocation_unmapOutput :
    (space.unmapOutput output).outputLocation output' =
      if output' = output then none else space.outputLocation output' := by
  unfold unmapOutput outputLocation
  rw [List.find?_filter]
  by_cases he : output' = output
  · subst he
    rw [if_pos rfl, Option.map_eq_none_iff, List.find?_eq_none]
    simp
  · rw [if_neg he]
    congr 2
    funext p
    by_cases hp : p.1 = output'
    · simp [hp, he]
    · simp [hp]

theorem outputGeometry_isSome_iff :
    (space.outputGeometry output).isSome ↔ (space.outputLocation output).isSome := by
  rw [outputGeometry, Option.isSome_map]

end Space

end Scape.Display
