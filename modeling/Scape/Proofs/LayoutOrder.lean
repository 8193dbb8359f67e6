import Scape.Display.Layout
import Scape.Lib.Fold
import Scape.Proofs.OutputLayout

/-!
# A layout, in any order

A layout is a map of spaces, and what is done for one of its spaces goes through a map of
outputs. Both are iterated in an order that nobody knows.

What comes out is looked at one thing at a time: one space, the active space of one output,
the location of one output. Each of these is changed by one entry of the layout only, as a
space has one entry, and an output that is listed once is listed in one. So the order of the
entries does not matter (`Fold.foldl_perm_of_one`), and `setLayout_order` puts this together.
-/

namespace Scape.Display

open Scape

/-! ## One space -/

def Space.mapListed (outputs : HashMap String SmithayOutput) (space : Space)
    (configOutput : Output) : Space :=
  match outputs.lookup configOutput.name with
  | none => space
  | some output => space.mapOutput output ⟨configOutput.x, configOutput.y⟩

/-- What the outputs listed for a space do to it, and then the others. -/
def Space.layOut (outputs : HashMap String SmithayOutput) (space : Space)
    (configOutputs : List Output) : Space :=
  outputs.entries.foldl
    (fun space entry =>
      if State.listed configOutputs entry.1 then space else space.unmapOutput entry.2)
    (configOutputs.foldl (mapListed outputs) space)

variable {outputs outputs' : HashMap String SmithayOutput} {configOutputs : List Output}
  {configOutput : Output} {space : Space} {output : SmithayOutput} {name n m : String}

theorem Space.layOut_perm (h : outputs'.entries.Perm outputs.entries) :
    layOut outputs' = layOut outputs := by
  have hmap : mapListed outputs' = mapListed outputs := by
    funext space configOutput
    rw [mapListed, mapListed, AList.perm_lookup h]
  funext space configOutputs
  rw [layOut, layOut, hmap]
  refine h.foldl_eq' (fun entry _ entry' _ space => ?_) _
  split
  · rfl
  · split
    · rfl
    · rw [unmapOutput, unmapOutput, unmapOutput, unmapOutput]
      dsimp only
      rw [List.filter_filter, List.filter_filter]
      congr 2
      funext mapped
      exact Bool.and_comm _ _

namespace State

variable {s : State}

/-! ## One look at the state -/

theorem activate_spaces : (s.activate output n).spaces = s.spaces := by
  rw [activate]
  split <;> rfl

theorem mapConfigOutput_get? :
    (s.mapConfigOutput n configOutput).spaces.get? m =
      if m = n then (s.spaces.get? n).map fun space => space.mapListed s.outputs configOutput
      else s.spaces.get? m := by
  rw [mapConfigOutput]
  cases hlookup : s.outputs.lookup configOutput.name with
  | none =>
      by_cases he : m = n
      · rw [if_pos he, he]
        cases s.spaces.get? n with
        | none => rfl
        | some space =>
            rw [Option.map_some, Space.mapListed, hlookup]
      · rw [if_neg he]
  | some output =>
      dsimp only
      rw [activate_spaces, modifySpace, Registry.get?_modify_map]
      congr 2
      funext space
      rw [Space.mapListed, hlookup]

/-- An output that has no active space gets this one. -/
theorem activate_activeSpace {found : SmithayOutput} :
    (s.activate found n).activeSpace output =
      if found = output then (s.activeSpace output).or (some n) else s.activeSpace output := by
  by_cases he : found = output
  · subst he
    rw [if_pos rfl, activate]
    cases hold : s.activeSpace found with
    | some old => exact hold
    | none => exact Function.update_self ..
  · rw [if_neg he, activate]
    split
    · rfl
    · exact Function.update_of_ne (Ne.symm he) _ _

theorem mapConfigOutput_activeSpace :
    (s.mapConfigOutput n configOutput).activeSpace output =
      if s.outputs.lookup configOutput.name = some output then (s.activeSpace output).or (some n)
      else s.activeSpace output := by
  rw [mapConfigOutput]
  cases s.outputs.lookup configOutput.name with
  | none => rw [if_neg fun he => by cases he]
  | some found =>
      simp only [Option.some.injEq]
      exact activate_activeSpace

theorem get?_unchanged : s.spaces.get? m =
    if m = n then (s.spaces.get? n).map fun space => space else s.spaces.get? m := by
  split
  next he =>
    rw [he]
    exact Option.map_id'.symm
  next => rfl

/-- What goes through a list and does something to one space at each step. -/
theorem foldl_get? {ι : Type} {f : State → ι → State} {g : Space → ι → Space}
    (hf : ∀ u i, u.outputs = s.outputs → (f u i).outputs = s.outputs ∧
      ∀ m, (f u i).spaces.get? m =
        if m = n then (u.spaces.get? n).map (g · i) else u.spaces.get? m)
    (l : List ι) {t : State} (ht : t.outputs = s.outputs) :
    (l.foldl f t).outputs = s.outputs ∧ ∀ m, (l.foldl f t).spaces.get? m =
      if m = n then (t.spaces.get? n).map (l.foldl g ·) else t.spaces.get? m := by
  induction l generalizing t with
  | nil => exact ⟨ht, fun m => get?_unchanged⟩
  | cons i l ih =>
      obtain ⟨houtputs, hget⟩ := hf t i ht
      refine ⟨(ih houtputs).1, fun m => ?_⟩
      rw [List.foldl_cons, (ih houtputs).2, hget, hget]
      split
      next => rw [if_pos rfl, Option.map_map]; rfl
      next => rfl

theorem layoutSpace_get? :
    (s.layoutSpace n configOutputs).outputs = s.outputs ∧
      ∀ m, (s.layoutSpace n configOutputs).spaces.get? m =
        if m = n then some (((s.spaces.get? n).getD .empty).layOut s.outputs configOutputs)
        else s.spaces.get? m := by
  have hlisted : ∀ (u : State) configOutput, u.outputs = s.outputs →
      (u.mapConfigOutput n configOutput).outputs = s.outputs ∧
        ∀ m, (u.mapConfigOutput n configOutput).spaces.get? m =
          if m = n then (u.spaces.get? n).map (Space.mapListed s.outputs · configOutput)
          else u.spaces.get? m := by
    intro u configOutput hu
    refine ⟨mapConfigOutput_rest.1.trans hu, fun m => ?_⟩
    rw [mapConfigOutput_get?, hu]
  have hunlisted : ∀ (u : State) (entry : Σ _ : String, SmithayOutput), u.outputs = s.outputs →
      (if listed configOutputs entry.1 then u
        else u.modifySpace n fun space => space.unmapOutput entry.2).outputs = s.outputs ∧
        ∀ m, (if listed configOutputs entry.1 then u
          else u.modifySpace n fun space => space.unmapOutput entry.2).spaces.get? m =
            if m = n then (u.spaces.get? n).map fun space =>
              if listed configOutputs entry.1 then space else space.unmapOutput entry.2
            else u.spaces.get? m := by
    intro u entry hu
    split
    · exact ⟨hu, fun m => get?_unchanged⟩
    · exact ⟨hu, fun m => Registry.get?_modify_map⟩
  obtain ⟨hmapped, hmap⟩ := foldl_get? hlisted configOutputs
    (t := { s with spaces := s.spaces.ensure n .empty }) rfl
  obtain ⟨hunmapped, hunmap⟩ := foldl_get? hunlisted s.outputs.entries hmapped
  rw [layoutSpace, unmapUnlisted, hmapped]
  refine ⟨hunmapped, fun m => ?_⟩
  rw [hunmap, hmap, hmap, Registry.get?_ensure, Registry.get?_ensure]
  split
  · rw [if_pos rfl, if_pos rfl]
    rfl
  · rfl

/-- What a space that lists an output does to its active space. -/
def activated (outputs : HashMap String SmithayOutput) (output : SmithayOutput)
    (active : Option String) (entry : Σ _ : String, List Output) : Option String :=
  entry.2.foldl
    (fun active configOutput =>
      if outputs.lookup configOutput.name = some output then active.or (some entry.1) else active)
    active

theorem layoutSpace_activeSpace :
    (s.layoutSpace n configOutputs).activeSpace output =
      activated s.outputs output (s.activeSpace output) ⟨n, configOutputs⟩ := by
  have hunmap : ∀ u : State, (u.unmapUnlisted n configOutputs).activeSpace = u.activeSpace := by
    intro u
    rw [unmapUnlisted]
    refine List.foldlRecOn (motive := fun v : State => v.activeSpace = u.activeSpace) _ _ rfl ?_
    intro v hv entry _
    split
    · exact hv
    · exact hv
  rw [layoutSpace, hunmap]
  refine Fold.foldl_look (fun u : State => u.outputs = s.outputs)
    (fun u => u.activeSpace output) (fun u hu _ => ?_) (fun u hu _ => ?_) _ rfl
  · exact mapConfigOutput_rest.1.trans hu
  · rw [mapConfigOutput_activeSpace, hu]

end State

namespace Layouts

open State

variable {x x' y : Layouts} {layout layout' : HashMap String (List Output)} {W W' : World}

/-! ## The locations of the outputs -/

theorem mapConfigOutput_state :
    (x.mapConfigOutput n configOutput).state = x.state.mapConfigOutput n configOutput := by
  rw [mapConfigOutput, State.mapConfigOutput]
  cases x.state.outputs.lookup configOutput.name with
  | none => rfl
  | some found => rfl

theorem layoutSpace_state :
    (x.layoutSpace n configOutputs).state = x.state.layoutSpace n configOutputs := by
  rw [layoutSpace, State.layoutSpace]
  dsimp only
  rw [← List.foldl_hom Layouts.state fun y configOutput => mapConfigOutput_state.symm]

/-- What is done here is what `setLayout` does of a state. -/
theorem setLayout_state : (x.setLayout W layout).state = x.state.setLayout W layout := by
  have hlaid : layout.entries.foldl (fun s entry => s.layoutSpace entry.1 entry.2) x.state =
      (layout.entries.foldl (fun x entry => x.layoutSpace entry.1 entry.2) x).state :=
    List.foldl_hom Layouts.state fun _ _ => layoutSpace_state.symm
  simp only [setLayout, State.setLayout, hlaid]
  split <;> rfl

/-- What a space that lists an output does to its location. -/
def located (outputs : HashMap String SmithayOutput) (output : SmithayOutput) (location : Point)
    (entry : Σ _ : String, List Output) : Point :=
  entry.2.foldl
    (fun location configOutput =>
      if outputs.lookup configOutput.name = some output then ⟨configOutput.x, configOutput.y⟩
      else location)
    location

theorem mapConfigOutput_currentLocation :
    (x.mapConfigOutput n configOutput).currentLocation output =
      if x.state.outputs.lookup configOutput.name = some output then
        ⟨configOutput.x, configOutput.y⟩
      else x.currentLocation output := by
  rw [mapConfigOutput]
  cases x.state.outputs.lookup configOutput.name with
  | none => rw [if_neg fun he => by cases he]
  | some found =>
      show Function.update x.currentLocation found _ output = _
      rw [Function.update_apply]
      simp only [Option.some.injEq, eq_comm]

theorem layoutSpace_currentLocation :
    (x.layoutSpace n configOutputs).currentLocation output =
      located x.state.outputs output (x.currentLocation output) ⟨n, configOutputs⟩ := by
  refine Fold.foldl_look (fun y : Layouts => y.state.outputs = x.state.outputs)
    (fun y => y.currentLocation output) (fun y hy _ => ?_) (fun y hy _ => ?_) _ rfl
  · rw [mapConfigOutput_state, State.mapConfigOutput_rest.1, hy]
  · rw [mapConfigOutput_currentLocation, hy]

/-! ## A whole layout -/

/-- A look that sees of each entry only what `f` does, and nothing of the order that the map
of spaces ends up in. -/
theorem setLayout_look {β : Type} (look : Layouts → β) {f : β → (Σ _ : String, List Output) → β}
    (hreorder : ∀ (y : Layouts) keys h,
      look { y with state := { y.state with spaces := y.state.spaces.reorder keys h } } = look y)
    (hlook : ∀ y : Layouts, y.state.outputs = x.state.outputs → ∀ entry,
      look (y.layoutSpace entry.1 entry.2) = f (look y) entry) :
    look (x.setLayout W layout) = layout.entries.foldl f (look x) := by
  have hlaid : look (layout.entries.foldl (fun x entry => x.layoutSpace entry.1 entry.2) x) =
      layout.entries.foldl f (look x) := by
    refine Fold.foldl_look (fun y : Layouts => y.state.outputs = x.state.outputs) look
      (fun y hy entry => ?_) hlook _ rfl
    rw [layoutSpace_state, layoutSpace_get?.1, hy]
  rw [setLayout]
  dsimp only
  split
  · exact hlaid
  · exact (hreorder ..).trans hlaid

/-- What a layout does to the space of a name. -/
def laidOut (outputs : HashMap String SmithayOutput) (m : String) (space : Option Space)
    (entry : Σ _ : String, List Output) : Option Space :=
  if m = entry.1 then some ((space.getD .empty).layOut outputs entry.2) else space

theorem setLayout_get? :
    (x.setLayout W layout).state.spaces.get? m =
      layout.entries.foldl (laidOut x.state.outputs m) (x.state.spaces.get? m) := by
  refine setLayout_look (fun y => y.state.spaces.get? m)
    (fun _ _ h => Registry.get?_reorder (h := h)) fun y hy entry => ?_
  rw [layoutSpace_state, layoutSpace_get?.2, hy, laidOut]
  split
  next he => rw [he]
  next => rfl

theorem setLayout_activeSpace :
    (x.setLayout W layout).state.activeSpace output =
      layout.entries.foldl (activated x.state.outputs output) (x.state.activeSpace output) := by
  refine setLayout_look (fun y => y.state.activeSpace output) (fun _ _ _ => rfl)
    fun y hy entry => ?_
  rw [layoutSpace_state, layoutSpace_activeSpace, hy]

theorem setLayout_currentLocation :
    (x.setLayout W layout).currentLocation output =
      layout.entries.foldl (located x.state.outputs output) (x.currentLocation output) := by
  refine setLayout_look (fun y => y.currentLocation output) (fun _ _ _ => rfl)
    fun y hy entry => ?_
  rw [layoutSpace_currentLocation, hy]

theorem setLayout_outputs : (x.setLayout W layout).state.outputs = x.state.outputs := by
  rw [setLayout_state]
  exact setLayout_keeps (fun _ _ => rfl) fun _ _ => rfl

/-! ## Any order -/

/-- Each output there is is listed at most once over all spaces. -/
def ListsOnce (outputs : HashMap String SmithayOutput)
    (layout : HashMap String (List Output)) : Prop :=
  (layout.entries.flatMap fun space =>
    space.2.filterMap fun configOutput => outputs.lookup configOutput.name).Nodup

instance : Decidable (ListsOnce outputs layout) := inferInstanceAs (Decidable (List.Nodup _))

/-- The same, but the maps of spaces and of outputs may be iterated in another order. -/
structure SameButOrder (x x' : Layouts) : Prop where
  outputs : x.state.outputs.entries.Perm x'.state.outputs.entries
  spaces : ∀ m, x.state.spaces.get? m = x'.state.spaces.get? m
  activeSpace : x.state.activeSpace = x'.state.activeSpace
  currentLocation : x.currentLocation = x'.currentLocation

/-- Of two entries one does not list the output. -/
theorem ListsOnce.one (h : ListsOnce outputs layout) {entry entry' : Σ _ : String, List Output}
    (hentry : entry ∈ layout.entries) (hentry' : entry' ∈ layout.entries) (hne : entry ≠ entry')
    (output : SmithayOutput) :
    (∀ configOutput ∈ entry.2, outputs.lookup configOutput.name ≠ some output) ∨
      ∀ configOutput ∈ entry'.2, outputs.lookup configOutput.name ≠ some output := by
  have hsymm : Std.Symm (Function.onFun List.Disjoint fun space : Σ _ : String, List Output =>
      space.2.filterMap fun configOutput => outputs.lookup configOutput.name) :=
    ⟨fun _ _ hd => hd.symm⟩
  have hdisjoint := (List.nodup_flatMap.mp h).2.forall hentry hentry' hne
  by_contra hboth
  push Not at hboth
  obtain ⟨⟨configOutput, hmem, hfound⟩, configOutput', hmem', hfound'⟩ := hboth
  exact hdisjoint (List.mem_filterMap.mpr ⟨configOutput, hmem, hfound⟩)
    (List.mem_filterMap.mpr ⟨configOutput', hmem', hfound'⟩)

theorem laidOut_perm (h : layout.entries.Perm layout'.entries) (space : Option Space) :
    layout.entries.foldl (laidOut outputs m) space =
      layout'.entries.foldl (laidOut outputs m) space := by
  refine Fold.foldl_perm_of_one h (fun entry hentry entry' hentry' hne => ?_) space
  by_cases he : m = entry.1
  · right
    intro space
    rw [laidOut, if_neg]
    intro he'
    exact hne (layout.nodupKeys.eq_of_fst_eq hentry hentry' (he.symm.trans he'))
  · exact .inl fun space => if_neg he

/-- What belongs to one output comes out the same, as one entry at most lists the output. -/
theorem ListsOnce.foldl_perm {β : Type} {f : β → (Σ _ : String, List Output) → β}
    (hlists : ListsOnce outputs layout) (h : layout.entries.Perm layout'.entries)
    (hf : ∀ entry : Σ _ : String, List Output,
      (∀ configOutput ∈ entry.2, outputs.lookup configOutput.name ≠ some output) →
        ∀ b, f b entry = b) (b : β) :
    layout.entries.foldl f b = layout'.entries.foldl f b := by
  refine Fold.foldl_perm_of_one h (fun entry hentry entry' hentry' hne => ?_) b
  exact (hlists.one hentry hentry' hne output).imp (hf entry) (hf entry')

theorem activated_unlisted {entry : Σ _ : String, List Output}
    (h : ∀ configOutput ∈ entry.2, outputs.lookup configOutput.name ≠ some output)
    (active : Option String) : activated outputs output active entry = active :=
  Fold.foldl_eq_self (fun configOutput hmem _ => if_neg (h configOutput hmem)) _

theorem located_unlisted {entry : Σ _ : String, List Output}
    (h : ∀ configOutput ∈ entry.2, outputs.lookup configOutput.name ≠ some output)
    (location : Point) : located outputs output location entry = location :=
  Fold.foldl_eq_self (fun configOutput hmem _ => if_neg (h configOutput hmem)) _

/-- Whatever order the maps are iterated in, a layout that lists each output at most once
leaves the same spaces, with the same outputs mapped at the same locations, the same current
locations and the same active spaces. -/
theorem setLayout_order (x x' : Layouts) (W W' : World)
    (layout layout' : HashMap String (List Output)) (hsame : SameButOrder x x')
    (hlayout : layout.entries.Perm layout'.entries)
    (hlists : ListsOnce x.state.outputs layout) :
    SameButOrder (x.setLayout W layout) (x'.setLayout W' layout') := by
  have hlookup : ∀ name, x'.state.outputs.lookup name = x.state.outputs.lookup name :=
    fun name => AList.perm_lookup hsame.outputs.symm
  have hlaid : laidOut x'.state.outputs = laidOut x.state.outputs := by
    funext m space entry
    rw [laidOut, laidOut, Space.layOut_perm hsame.outputs.symm]
  have hactivated : activated x'.state.outputs = activated x.state.outputs := by
    funext output active entry
    simp only [activated, hlookup]
  have hlocated : located x'.state.outputs = located x.state.outputs := by
    funext output location entry
    simp only [located, hlookup]
  refine ⟨?_, fun m => ?_, funext fun output => ?_, funext fun output => ?_⟩
  · rw [setLayout_outputs, setLayout_outputs]
    exact hsame.outputs
  · rw [setLayout_get?, setLayout_get?, hlaid, hsame.spaces]
    exact laidOut_perm hlayout _
  · rw [setLayout_activeSpace, setLayout_activeSpace, hactivated, hsame.activeSpace]
    exact hlists.foldl_perm hlayout (fun _ => activated_unlisted) _
  · rw [setLayout_currentLocation, setLayout_currentLocation, hlocated, hsame.currentLocation]
    exact hlists.foldl_perm hlayout (fun _ => located_unlisted) _

def second : SmithayOutput := ⟨1, "DP-1", ⟨2560, 1440⟩⟩

/-- The outputs there are, of which the panel is mapped. -/
def connected (outputs : List (String × SmithayOutput)) : Layouts where
  state :=
    { State.new with
      outputs := HashMap.collect outputs
      spaces := State.new.spaces.modify "main" (·.mapOutput panel ⟨0, 0⟩) }
  currentLocation _ := ⟨0, 0⟩

/-- The panel leaves its space, and comes second. -/
def swapped : List (String × List Output) :=
  [("main", [⟨"DP-1", 0, 0, none⟩]), ("work", [⟨"eDP-1", 2560, 0, none⟩])]

theorem swapped_order :
    SameButOrder
      ((connected [("eDP-1", panel), ("DP-1", second)]).setLayout World.quiet
        (HashMap.collect swapped))
      ((connected [("DP-1", second), ("eDP-1", panel)]).setLayout World.quiet
        (HashMap.collect swapped.reverse)) :=
  setLayout_order _ _ _ _ _ _ ⟨.swap _ _ _, fun _ => rfl, rfl, rfl⟩ (.swap _ _ _) (by decide)

end Layouts

end Scape.Display
