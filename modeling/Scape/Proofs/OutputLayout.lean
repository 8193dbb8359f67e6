import Scape.Proofs.StepEffects

/-!
# Where outputs are mapped after a layout

A layout lists outputs by name, space by space, and `setLayout` goes through it one
space at a time. In a space it maps the outputs that are listed and takes out the known
outputs that are not; a space it does not go through stays as it is, and so does an
output that is gone. `LaysOut` says that of any part of a layout, and the parts
compose.

Two things can go wrong from there. The active space of an output is set once, so a
later layout can take the output out of it (`keepsActive_renders`); and a space that a
layout leaves out keeps its outputs (`layouts_exact_iff`).
-/

namespace Scape.Display.State

open Scape Fallible Machine

/-- The output the state has under its name. -/
def Connected (s : State) (output : SmithayOutput) : Prop :=
  s.outputs.lookup output.name = some output

instance (s : State) (output : SmithayOutput) : Decidable (s.Connected output) :=
  inferInstanceAs (Decidable (_ = _))

/-- Outputs are kept under their names. -/
def Named (s : State) : Prop :=
  ∀ name output, s.outputs.lookup name = some output → output.name = name

/-- Where an output is mapped in the space of a name. -/
def outputLocation (s : State) (spaceName : String) (output : SmithayOutput) : Option Point :=
  (s.spaces.get? spaceName).bind (·.outputLocation output)

/-- Where a list of outputs maps an output of that name; of two entries the later
counts. -/
def configLocation (configOutputs : List Output) (name : String) : Option Point :=
  (configOutputs.reverse.find? fun configOutput => configOutput.name = name).map
    fun configOutput => ⟨configOutput.x, configOutput.y⟩

variable {s t u : State} {W : World} {e : Event} {m n name : String} {output : SmithayOutput}
  {configOutput : Output} {configOutputs : List Output} {location : Point}

theorem configLocation_concat :
    configLocation (configOutputs ++ [configOutput]) name =
      if configOutput.name = name then some ⟨configOutput.x, configOutput.y⟩
      else configLocation configOutputs name := by
  unfold configLocation
  rw [List.reverse_concat, List.find?_cons]
  by_cases he : configOutput.name = name <;> simp [he]

theorem configLocation_isSome_iff :
    (configLocation configOutputs name).isSome ↔ listed configOutputs name = true := by
  simp [configLocation, listed]

theorem configLocation_eq_none (h : listed configOutputs name = false) :
    configLocation configOutputs name = none := by
  rw [← Option.not_isSome_iff_eq_none, configLocation_isSome_iff, h]
  exact Bool.false_ne_true

theorem configLocation_of_nodup (h : (configOutputs.map Output.name).Nodup)
    (hmem : configOutput ∈ configOutputs) :
    configLocation configOutputs configOutput.name = some ⟨configOutput.x, configOutput.y⟩ := by
  have hsome : (configOutputs.reverse.find? fun c => c.name = configOutput.name).isSome :=
    List.find?_isSome.mpr ⟨configOutput, List.mem_reverse.mpr hmem, by simp⟩
  obtain ⟨found, hfound⟩ := Option.isSome_iff_exists.mp hsome
  have hname : found.name = configOutput.name := by simpa using List.find?_some hfound
  have hfmem := List.mem_reverse.mp (List.mem_of_find?_eq_some hfound)
  rw [configLocation, hfound, List.inj_on_of_nodup_map h hfmem hmem hname]
  rfl

/-- The layout an event brings. -/
def layoutOf : Event → Option (HashMap String (List Output))
  | .message (.setLayout layout) => some layout
  | _ => none

theorem eq_of_layoutOf {layout : HashMap String (List Output)} (h : layout ∈ layoutOf e) :
    e = .message (.setLayout layout) := by
  unfold layoutOf at h
  split at h
  · cases h
    rfl
  · cases h

/-! ## The rounds -/

theorem outputLocation_congr (hkeys : t.spaces.keys = s.spaces.keys)
    (hmapped : ∀ k, (t.spaces.value k).outputs = (s.spaces.value k).outputs) :
    t.outputLocation m output = s.outputLocation m output := by
  unfold outputLocation Registry.get? Space.outputLocation
  rw [hkeys]
  split
  · rw [Option.bind_some, Option.bind_some, hmapped]
  · rfl

theorem outputLocation_modifySpace {f : Space → Space} (h : n ∈ s.spaces.keys) :
    (s.modifySpace n f).outputLocation m output =
      if m = n then (f (s.spaces.value n)).outputLocation output
      else s.outputLocation m output := by
  rw [outputLocation, modifySpace]
  dsimp only
  rw [Registry.get?_modify h]
  split <;> rfl

/-- A space that is new has no outputs. -/
theorem outputLocation_ensure :
    outputLocation { s with spaces := s.spaces.ensure n .empty } m output =
      s.outputLocation m output := by
  unfold outputLocation
  dsimp only
  rw [Registry.get?_ensure]
  split
  next he =>
    subst he
    cases s.spaces.get? m <;> rfl
  next => rfl

theorem mapConfigOutput_rest :
    (s.mapConfigOutput n configOutput).outputs = s.outputs ∧
      (s.mapConfigOutput n configOutput).spaces.keys = s.spaces.keys := by
  rw [mapConfigOutput]
  split
  next => exact ⟨rfl, rfl⟩
  next output _ =>
    rw [activate]
    split
    · exact ⟨rfl, rfl⟩
    · exact ⟨rfl, rfl⟩

/-- The output that an entry of a layout names. -/
theorem connected_of_lookup (hs : s.Named) (h : s.outputs.lookup name = some output) :
    s.Connected output ∧ output.name = name := by
  have hname := hs name output h
  subst hname
  exact ⟨h, rfl⟩

theorem mapConfigOutput_location (hs : s.Named) (hn : n ∈ s.spaces.keys) :
    (s.mapConfigOutput n configOutput).outputLocation m output =
      if m = n ∧ s.Connected output ∧ configOutput.name = output.name then
        some ⟨configOutput.x, configOutput.y⟩
      else s.outputLocation m output := by
  rw [mapConfigOutput]
  split
  next hnone =>
    refine (if_neg ?_).symm
    rintro ⟨-, hconn, he⟩
    rw [he, hconn] at hnone
    cases hnone
  next found hfound =>
    obtain ⟨hconn, he⟩ := connected_of_lookup hs hfound
    have hactivate : ∀ u : State, (u.activate found n).outputLocation m output =
        u.outputLocation m output := by
      intro u
      rw [activate]
      split <;> rfl
    rw [hactivate, outputLocation_modifySpace hn, Space.outputLocation_mapOutput]
    by_cases ho : output = found
    · subst ho
      simp [hconn, he]
    · have hother : ¬ (s.Connected output ∧ configOutput.name = output.name) := by
        rintro ⟨hconn', he'⟩
        rw [Connected, ← he', hfound] at hconn'
        exact ho (Option.some.inj hconn').symm
      rw [if_neg ho, if_neg (c := m = n ∧ _) fun hand => hother hand.2]
      split
      next hm =>
        subst hm
        rw [outputLocation, Registry.get?_of_mem hn, Option.bind_some]
      next => rfl

theorem mapConfigOutput_keeps (h : s.activeSpace output = some m) :
    (s.mapConfigOutput n configOutput).activeSpace output = some m := by
  rw [mapConfigOutput]
  split
  next => exact h
  next found _ =>
    rw [activate]
    split
    next => exact h
    next hnone =>
      -- an output that has an active space is not the one that gets one
      have hne : output ≠ found := by
        rintro rfl
        exact absurd (h.symm.trans hnone) (Option.some_ne_none m)
      exact (Function.update_of_ne hne _ _).trans h

theorem mapConfigOutput_activates (hs : s.Named)
    (h : (s.mapConfigOutput n configOutput).activeSpace output = some m) :
    s.activeSpace output = some m ∨
      (m = n ∧ s.Connected output ∧ configOutput.name = output.name) := by
  unfold mapConfigOutput at h
  split at h
  next => exact .inl h
  next found hfound =>
    obtain ⟨hconn, he⟩ := connected_of_lookup hs hfound
    unfold activate at h
    split at h
    next => exact .inl h
    next =>
      dsimp only at h
      rw [Function.update_apply] at h
      split at h
      next ho =>
        subst ho
        exact .inr ⟨(Option.some.inj h).symm, hconn, he.symm⟩
      next => exact .inl h

/-- The first loop over the outputs of a space. -/
structure MapsOutputs (spaceName : String) (configOutputs : List Output) (s t : State) : Prop where
  outputs : t.outputs = s.outputs
  keys : t.spaces.keys = s.spaces.keys
  location : ∀ m output, t.outputLocation m output =
    if m = spaceName ∧ s.Connected output then
      configLocation configOutputs output.name <|> s.outputLocation m output
    else s.outputLocation m output
  keeps : ∀ m output, s.activeSpace output = some m → t.activeSpace output = some m
  activates : ∀ m output, t.activeSpace output = some m →
    s.activeSpace output = some m ∨
      (m = spaceName ∧ s.Connected output ∧ listed configOutputs output.name = true)

theorem mapsOutputs_nil : MapsOutputs n [] s s where
  outputs := rfl
  keys := rfl
  location _ _ := (ite_self _).symm
  keeps _ _ := id
  activates _ _ := .inl

theorem connected_congr (h : t.outputs = s.outputs) :
    t.Connected output ↔ s.Connected output := by
  rw [Connected, Connected, h]

theorem MapsOutputs.concat (hs : s.Named) (hn : n ∈ s.spaces.keys)
    (h : MapsOutputs n configOutputs s t) :
    MapsOutputs n (configOutputs ++ [configOutput]) s (t.mapConfigOutput n configOutput) where
  outputs := mapConfigOutput_rest.1.trans h.outputs
  keys := mapConfigOutput_rest.2.trans h.keys
  location m output := by
    have ht : t.Named := fun name output => h.outputs ▸ hs name output
    rw [mapConfigOutput_location ht (h.keys ▸ hn), h.location, configLocation_concat]
    simp only [connected_congr h.outputs]
    by_cases hconn : m = n ∧ s.Connected output
    · by_cases he : configOutput.name = output.name <;> simp [hconn, he]
    · rw [if_neg hconn, if_neg hconn, if_neg fun hand => hconn ⟨hand.1, hand.2.1⟩]
  keeps m output hold := mapConfigOutput_keeps (h.keeps m output hold)
  activates m output hnew := by
    have ht : t.Named := fun name output => h.outputs ▸ hs name output
    unfold listed at *
    rw [List.any_append, Bool.or_eq_true]
    rcases mapConfigOutput_activates ht hnew with hold | ⟨rfl, hconn, he⟩
    · exact (h.activates m output hold).imp_right fun ⟨hm, hconn, hl⟩ => ⟨hm, hconn, .inl hl⟩
    · exact .inr ⟨rfl, (connected_congr h.outputs).mp hconn, .inr (by simp [he])⟩

theorem foldl_mapsOutputs (configOutputs : List Output) (hs : s.Named) (hn : n ∈ s.spaces.keys) :
    MapsOutputs n configOutputs s (configOutputs.foldl (mapConfigOutput n) s) := by
  induction configOutputs using List.reverseRecOn with
  | nil => exact mapsOutputs_nil
  | append_singleton configOutputs configOutput ih =>
      rw [List.foldl_concat]
      exact ih.concat hs hn

/-- The second loop, over the outputs there are. -/
structure UnmapsOutputs (spaceName : String) (gone : SmithayOutput → Prop) (s t : State) :
    Prop where
  outputs : t.outputs = s.outputs
  keys : t.spaces.keys = s.spaces.keys
  activeSpace : t.activeSpace = s.activeSpace
  unmapped : ∀ output, gone output → t.outputLocation spaceName output = none
  mapped : ∀ m output, ¬ (m = spaceName ∧ gone output) →
    t.outputLocation m output = s.outputLocation m output

theorem unmapsOutputs_refl : UnmapsOutputs n (fun _ => False) s s where
  outputs := rfl
  keys := rfl
  activeSpace := rfl
  unmapped _ := False.elim
  mapped _ _ _ := rfl

theorem UnmapsOutputs.unmap {gone : SmithayOutput → Prop} (h : UnmapsOutputs n gone s t)
    (output : SmithayOutput) (hn : n ∈ s.spaces.keys) :
    UnmapsOutputs n (fun output' => gone output' ∨ output' = output) s
      (t.modifySpace n fun space => space.unmapOutput output) where
  outputs := h.outputs
  keys := h.keys
  activeSpace := h.activeSpace
  unmapped output' hgone := by
    have ht : n ∈ t.spaces.keys := h.keys ▸ hn
    rw [outputLocation_modifySpace ht, if_pos rfl, Space.outputLocation_unmapOutput]
    split
    next => rfl
    next hne =>
      have hold := h.unmapped output' (hgone.resolve_right hne)
      rwa [outputLocation, Registry.get?_of_mem ht, Option.bind_some] at hold
  mapped m output' hnot := by
    have ht : n ∈ t.spaces.keys := h.keys ▸ hn
    rw [← h.mapped m output' fun hand => hnot ⟨hand.1, .inl hand.2⟩, outputLocation_modifySpace ht]
    split
    next hm =>
      subst hm
      rw [Space.outputLocation_unmapOutput, if_neg fun he => hnot ⟨rfl, .inr he⟩, outputLocation,
        Registry.get?_of_mem ht, Option.bind_some]
    next => rfl

theorem unmapUnlisted_unmapsOutputs (configOutputs : List Output) (hs : s.Named)
    (hn : n ∈ s.spaces.keys) :
    UnmapsOutputs n (fun output => s.Connected output ∧ listed configOutputs output.name = false)
      s (s.unmapUnlisted n configOutputs) := by
  have hloop : ∀ entries : List (Σ _ : String, SmithayOutput),
      UnmapsOutputs n
        (fun output => ∃ entry ∈ entries, entry.2 = output ∧ listed configOutputs entry.1 = false) s
        (entries.foldl
          (fun s entry =>
            if listed configOutputs entry.1 then s
            else s.modifySpace n fun space => space.unmapOutput entry.2) s) := by
    intro entries
    induction entries using List.reverseRecOn with
    | nil => simpa using unmapsOutputs_refl
    | append_singleton entries entry ih =>
        rw [List.foldl_concat]
        split
        next hlisted => simpa [hlisted] using ih
        next hlisted =>
          have hone := ih.unmap entry.2 hn
          simp only [List.mem_append, List.mem_singleton, or_and_right, exists_or, exists_eq_left,
            hlisted, and_true, eq_comm (a := entry.2)]
          simpa [hlisted] using hone
  have hgone : ∀ output, (∃ entry ∈ s.outputs.entries,
      entry.2 = output ∧ listed configOutputs entry.1 = false) ↔
        s.Connected output ∧ listed configOutputs output.name = false := by
    intro output
    constructor
    · rintro ⟨⟨name, found⟩, hmem, rfl, hlisted⟩
      obtain ⟨hconn, rfl⟩ := connected_of_lookup hs (AList.mem_lookup_iff.mpr hmem)
      exact ⟨hconn, hlisted⟩
    · rintro ⟨hconn, hlisted⟩
      exact ⟨⟨output.name, output⟩, AList.mem_lookup_iff.mp hconn, rfl, hlisted⟩
  rw [unmapUnlisted]
  simpa only [hgone] using hloop s.outputs.entries

/-! ## The layout -/

/-- What the spaces of a layout do, one after the other. -/
structure LaysOut (entries : List (Σ _ : String, List Output)) (s t : State) : Prop where
  outputs : t.outputs = s.outputs
  keys : s.spaces.keys ⊆ t.spaces.keys
  unknown : ∀ m output, ¬ s.Connected output →
    t.outputLocation m output = s.outputLocation m output
  location : ∀ m output, s.Connected output →
    t.outputLocation m output =
      match entries.dlookup m with
      | some configOutputs => configLocation configOutputs output.name
      | none => s.outputLocation m output
  keeps : ∀ m output, s.activeSpace output = some m → t.activeSpace output = some m
  activates : ∀ m output, t.activeSpace output = some m →
    s.activeSpace output = some m ∨
      (s.Connected output ∧
        ∃ configOutputs, entries.dlookup m = some configOutputs ∧
          listed configOutputs output.name = true)

theorem laysOut_nil : LaysOut [] s s where
  outputs := rfl
  keys := List.Subset.refl _
  unknown _ _ _ := rfl
  location _ _ _ := rfl
  keeps _ _ := id
  activates _ _ := .inl

theorem LaysOut.cons {entry : Σ _ : String, List Output}
    {entries : List (Σ _ : String, List Output)} (h : LaysOut [entry] s t)
    (h' : LaysOut entries t u) (hnew : entry.1 ∉ entries.keys) :
    LaysOut (entry :: entries) s u where
  outputs := h'.outputs.trans h.outputs
  keys := List.Subset.trans h.keys h'.keys
  unknown m output hnot :=
    (h'.unknown m output (mt (connected_congr h.outputs).mp hnot)).trans (h.unknown m output hnot)
  location m output hconn := by
    rw [h'.location m output ((connected_congr h.outputs).mpr hconn), h.location m output hconn]
    by_cases hm : m = entry.1
    · subst hm
      rw [List.dlookup_eq_none.mpr hnew, List.dlookup_cons_eq, List.dlookup_cons_eq]
    · rw [List.dlookup_cons_ne _ _ hm, List.dlookup_cons_ne _ _ hm, List.dlookup_nil]
  keeps m output hold := h'.keeps m output (h.keeps m output hold)
  activates m output hu := by
    rcases h'.activates m output hu with ht | ⟨hconn, configOutputs, hlookup, hlisted⟩
    · refine (h.activates m output ht).imp_right ?_
      rintro ⟨hconn, configOutputs, hlookup, hlisted⟩
      have hm : m = entry.1 := by
        by_contra hne
        rw [List.dlookup_cons_ne _ _ hne] at hlookup
        cases hlookup
      subst hm
      rw [List.dlookup_cons_eq] at hlookup
      exact ⟨hconn, configOutputs, (List.dlookup_cons_eq ..).trans hlookup, hlisted⟩
    · have hm : m ≠ entry.1 := by
        rintro rfl
        rw [List.dlookup_eq_none.mpr hnew] at hlookup
        cases hlookup
      refine .inr ⟨(connected_congr h.outputs).mp hconn, configOutputs, ?_, hlisted⟩
      exact (List.dlookup_cons_ne _ _ hm).trans hlookup

theorem layoutSpace_laysOut (hs : s.Named) :
    LaysOut [⟨n, configOutputs⟩] s (s.layoutSpace n configOutputs) := by
  set v : State := { s with spaces := s.spaces.ensure n .empty }
  have hv : n ∈ v.spaces.keys := Registry.mem_ensure.mpr (.inl rfl)
  have hmaps := foldl_mapsOutputs configOutputs (s := v) hs hv
  set w := configOutputs.foldl (mapConfigOutput n) v
  have hw : w.Named := fun name output => hmaps.outputs ▸ hs name output
  have hunmaps := unmapUnlisted_unmapsOutputs configOutputs hw (hmaps.keys ▸ hv)
  have hconnected : ∀ output, w.Connected output ↔ s.Connected output :=
    fun output => connected_congr hmaps.outputs
  refine ⟨hunmaps.outputs.trans hmaps.outputs, fun m hm => ?_, fun m output hnot => ?_,
    fun m output hconn => ?_, fun m output hold => ?_, fun m output hnew => ?_⟩
  · rw [layoutSpace, hunmaps.keys, hmaps.keys]
    exact Registry.mem_ensure.mpr (.inr hm)
  · rw [layoutSpace, hunmaps.mapped m output fun hand => hnot ((hconnected output).mp hand.2.1),
      hmaps.location, if_neg fun hand => hnot hand.2, outputLocation_ensure]
  · by_cases hm : m = n
    · subst hm
      rw [List.dlookup_cons_eq, layoutSpace]
      dsimp only
      have hwconn := (hconnected output).mpr hconn
      cases hlisted : listed configOutputs output.name with
      | false =>
          rw [hunmaps.unmapped output ⟨hwconn, hlisted⟩, configLocation_eq_none hlisted]
      | true =>
          obtain ⟨location, hlocation⟩ :=
            Option.isSome_iff_exists.mp (configLocation_isSome_iff.mpr hlisted)
          rw [hunmaps.mapped m output (by simp [hlisted]), hmaps.location, if_pos ⟨rfl, hconn⟩,
            hlocation]
          rfl
    · rw [List.dlookup_cons_ne _ _ hm, layoutSpace,
        hunmaps.mapped m output fun hand => hm hand.1, hmaps.location,
        if_neg fun hand => hm hand.1, outputLocation_ensure]
      rfl
  · rw [layoutSpace, hunmaps.activeSpace]
    exact hmaps.keeps m output hold
  · rw [layoutSpace, hunmaps.activeSpace] at hnew
    refine (hmaps.activates m output hnew).imp_right ?_
    rintro ⟨rfl, hconn, hlisted⟩
    exact ⟨hconn, configOutputs, List.dlookup_cons_eq .., hlisted⟩

theorem foldl_laysOut (hs : s.Named) {entries : List (Σ _ : String, List Output)}
    (h : entries.NodupKeys) :
    LaysOut entries s (entries.foldl (fun s entry => s.layoutSpace entry.1 entry.2) s) := by
  induction entries generalizing s with
  | nil => exact laysOut_nil
  | cons entry entries ih =>
      obtain ⟨hnew, hrest⟩ := List.nodupKeys_cons.mp h
      have hone : LaysOut [entry] s (s.layoutSpace entry.1 entry.2) := layoutSpace_laysOut hs
      exact hone.cons (ih (fun name output => hone.outputs ▸ hs name output) hrest) hnew

theorem setLayout_laysOut (hs : s.Named) (layout : HashMap String (List Output)) :
    LaysOut layout.entries s (s.setLayout W layout) := by
  have h := foldl_laysOut hs layout.nodupKeys
  unfold setLayout
  dsimp only
  split
  · exact h
  · -- the order of the spaces is no matter
    have hlocation : ∀ (u : State) keys hperm m output,
        outputLocation { u with spaces := u.spaces.reorder keys hperm } m output =
          u.outputLocation m output := by
      intro u keys hperm m output
      unfold outputLocation
      rw [Registry.get?_reorder]
    refine ⟨h.outputs, fun m hm => (W.order_perm _).mem_iff.mpr (h.keys hm),
      fun m output hnot => ?_, fun m output hconn => ?_, h.keeps, h.activates⟩
    · rw [hlocation, h.unknown m output hnot]
    · rw [hlocation, h.location m output hconn]

/-! ## Runs -/

theorem step_named (hs : s.Known) (hn : s.Named) (hstep : s.step W e = .ok t) : t.Named := by
  intro name output hlookup
  by_cases he : ChangesOutputs e
  · rcases changesOutputs_cases he with ⟨layout, rfl⟩ | ⟨outputName, mode, rfl⟩ | ⟨gone, rfl⟩
    · cases hstep
      rw [(setLayout_laysOut hn layout).outputs] at hlookup
      exact hn name output hlookup
    · cases hstep
      dsimp only [connectorConnected] at hlookup
      by_cases hname : name = outputName
      · subst hname
        rw [AList.lookup_insert] at hlookup
        cases hlookup
        rfl
      · rw [AList.lookup_insert_ne hname] at hlookup
        exact hn name output hlookup
    · cases hstep
      have hmem := AList.mem_lookup_iff.mp hlookup
      exact hn name output (AList.mem_lookup_iff.mpr (List.mem_of_mem_filter hmem))
  · rw [(step_keepsOutputs hs he t hstep).outputs] at hlookup
    exact hn name output hlookup

theorem reachable_named {ok : State → World × Event → Prop} (h : ReachableUnder system ok s) :
    s.Named := by
  refine reachable_invariant (J := fun _ => True) (fun _ _ => trivial) ?_ ?_ h
  · exact fun _ _ hlookup => by cases hlookup
  · exact fun s t W e hs _ hn _ hstep => step_named hs hn hstep

/-! ## The active space -/

/-- An output that has an active space is mapped in it. -/
def ActiveMapped (s : State) : Prop :=
  ∀ output name, s.activeSpace output = some name → (s.outputLocation name output).isSome

/-- A layout that has a space lists the outputs there that have it as their active
space. -/
def KeepsActive (s : State) (i : World × Event) : Prop :=
  ∀ layout ∈ layoutOf i.2, ∀ space ∈ layout.entries, ∀ output ∈ s.outputs.values,
    s.activeSpace output = some space.1 → listed space.2 output.name = true

variable {layout : HashMap String (List Output)}

theorem mem_values_iff (hs : s.Named) : output ∈ s.outputs.values ↔ s.Connected output := by
  rw [HashMap.values, List.mem_map]
  constructor
  · rintro ⟨⟨name, found⟩, hmem, rfl⟩
    exact (connected_of_lookup hs (AList.mem_lookup_iff.mpr hmem)).1
  · exact fun hconn => ⟨⟨output.name, output⟩, AList.mem_lookup_iff.mp hconn, rfl⟩

theorem renderSurface_succeeds_iff :
    Succeeds (s.renderSurface output) ↔
      ∀ name, s.activeSpace output = some name → (s.outputLocation name output).isSome := by
  rw [renderSurface]
  cases hactive : s.activeSpace output with
  | none => simp
  | some name =>
      simp only [succeeds_expect_bind, succeeds_pure, and_true, Option.some.injEq, forall_eq',
        ← Option.isSome_iff_exists, Space.outputGeometry_isSome_iff]
      rw [outputLocation]
      cases s.spaces.get? name with
      | none => simp
      | some space => simp

theorem setLayout_activeMapped_iff (hs : s.Named) (h : s.ActiveMapped) :
    (s.setLayout W layout).ActiveMapped ↔ KeepsActive s (W, .message (.setLayout layout)) := by
  have hlaid := setLayout_laysOut (W := W) hs layout
  constructor
  · rintro hmapped _ ⟨⟩ space hspace output houtput hactive
    have hconn := (mem_values_iff hs).mp houtput
    have hsome := hmapped output space.1 (hlaid.keeps _ _ hactive)
    rw [hlaid.location _ _ hconn, List.mem_dlookup layout.nodupKeys hspace] at hsome
    exact configLocation_isSome_iff.mp hsome
  · intro hkeeps output name hactive
    by_cases hconn : s.Connected output
    · rw [hlaid.location _ _ hconn]
      cases hlookup : layout.entries.dlookup name with
      | none =>
          rcases hlaid.activates _ _ hactive with hold | ⟨-, configOutputs, hlookup', -⟩
          · exact h output name hold
          · rw [hlookup] at hlookup'
            cases hlookup'
      | some configOutputs =>
          refine configLocation_isSome_iff.mpr ?_
          rcases hlaid.activates _ _ hactive with hold | ⟨-, configOutputs', hlookup', hlisted⟩
          · exact hkeeps layout rfl ⟨name, configOutputs⟩ (List.of_mem_dlookup hlookup) output
              ((mem_values_iff hs).mpr hconn) hold
          · rw [hlookup] at hlookup'
            cases hlookup'
            exact hlisted
    · rw [hlaid.unknown _ _ hconn]
      exact h output name ((hlaid.activates _ _ hactive).resolve_right fun hand => hconn hand.1)

theorem step_activeMapped_iff (hs : s.Known) (hn : s.Named) (h : s.ActiveMapped)
    (hstep : s.step W e = .ok t) : t.ActiveMapped ↔ KeepsActive s (W, e) := by
  by_cases he : ChangesOutputs e
  · rcases changesOutputs_cases he with ⟨layout, rfl⟩ | ⟨outputName, mode, rfl⟩ | ⟨gone, rfl⟩
    · cases hstep
      exact setLayout_activeMapped_iff hn h
    · cases hstep
      exact iff_of_true h nofun
    · cases hstep
      exact iff_of_true h nofun
  · have hkeeps := step_keepsOutputs hs he t hstep
    refine iff_of_true (fun output name hactive => ?_) fun layout hlayout => ?_
    · rw [hkeeps.activeSpace] at hactive
      rw [outputLocation_congr hkeeps.keys hkeeps.mapped]
      exact h output name hactive
    · have heq : e = .message (.setLayout layout) := eq_of_layoutOf hlayout
      rw [heq] at he
      exact absurd trivial he

theorem reachable_activeMapped (h : ReachableUnder system KeepsActive s) : s.ActiveMapped := by
  refine reachable_invariant (fun _ => reachable_named) ?_ ?_ h
  · exact fun _ _ hactive => by cases hactive
  · intro s t W e hs hn hmapped hok hstep
    exact (step_activeMapped_iff hs hn hmapped hstep).mpr hok

/-- In every run whose layouts list an output in its active space whenever they have
that space, every output is mapped in its active space, and so it can be rendered; and
with a layout that does not, an output is left that cannot be. -/
theorem keepsActive_renders :
    (ReachableUnder system KeepsActive s →
      s.ActiveMapped ∧ ∀ output, Succeeds (s.renderSurface output)) ∧
    (ReachableUnder system KeepsActive s → s.step W e = .ok t → ¬ KeepsActive s (W, e) →
      ¬ t.ActiveMapped ∧ ∃ output, ¬ Succeeds (t.renderSurface output)) := by
  constructor
  · intro h
    have hmapped := reachable_activeMapped h
    exact ⟨hmapped, fun output => renderSurface_succeeds_iff.mpr (hmapped output)⟩
  · intro h hstep hnot
    have hiff := step_activeMapped_iff (reachable_known h) (reachable_named h)
      (reachable_activeMapped h) hstep
    have ht : ¬ t.ActiveMapped := fun ht => hnot (hiff.mp ht)
    refine ⟨ht, ?_⟩
    by_contra hall
    exact ht fun output => renderSurface_succeeds_iff.mp (not_exists_not.mp hall output)

/-- The output of a laptop. -/
def panel : SmithayOutput := ⟨0, "eDP-1", ⟨1920, 1080⟩⟩

/-- A layout that has the panel in the first of some spaces. -/
def panelLayout (spaceName : String) (others : List String) : HashMap String (List Output) :=
  HashMap.collect ((spaceName, [⟨"eDP-1", 0, 0, none⟩]) :: others.map fun other => (other, []))

/-- The state after the panel has been connected and mapped. -/
def panelMapped : State :=
  (State.new.connectorConnected "eDP-1" ⟨1920, 1080⟩).setLayout World.quiet (panelLayout "a" [])

theorem panelMapped_reached : ReachableUnder system KeepsActive panelMapped := by
  have hconnected : ReachableUnder system KeepsActive
      (State.new.connectorConnected "eDP-1" ⟨1920, 1080⟩) :=
    .step (i := (World.quiet, .connectorConnected "eDP-1" ⟨1920, 1080⟩)) (.init rfl) nofun rfl
  refine .step (i := (World.quiet, .message (.setLayout (panelLayout "a" [])))) hconnected ?_ rfl
  rintro _ ⟨⟩ space hspace output houtput hactive
  cases hactive

/-- The panel is rendered, until a layout moves it to another space. -/
theorem panelMapped_renders :
    (Succeeds (panelMapped.renderSurface panel) ∧ panelMapped.activeSpace panel = some "a") ∧
      ¬ (panelMapped.setLayout World.quiet (panelLayout "b" ["a"])).ActiveMapped := by
  refine ⟨⟨((keepsActive_renders (W := World.quiet) (e := .refresh)
    (t := panelMapped)).1 panelMapped_reached).2 panel, rfl⟩, ?_⟩
  refine ((keepsActive_renders (W := World.quiet)
    (e := .message (.setLayout (panelLayout "b" ["a"])))).2 panelMapped_reached rfl ?_).1
  intro hkeeps
  have hlisted := hkeeps _ rfl ⟨"a", []⟩ (by decide) panel (by decide) rfl
  exact absurd hlisted (by decide)

/-- An output that is moved to another space keeps its active space and cannot be
rendered. -/
theorem movedOutput_panics :
    ∃ s, Reachable system s ∧ s.activeSpace panel = some "a" ∧ s.outputLocation "a" panel = none ∧
      s.renderSurface panel = .error .outputGeometry := by
  have hreached : Reachable system _ := reachable_run
    (show run next new [(World.quiet, .connectorConnected "eDP-1" ⟨1920, 1080⟩),
      (World.quiet, .message (.setLayout (panelLayout "a" []))),
      (World.quiet, .message (.setLayout (panelLayout "b" ["a"])))] = _ from rfl)
  exact ⟨_, hreached, rfl, rfl, rfl⟩

/-! ## Exact layouts -/

/-- A layout lists every output at most once. -/
def ListedOnce (layout : HashMap String (List Output)) : Prop :=
  (layout.entries.flatMap fun space => space.2.map Output.name).Nodup

instance : Decidable (ListedOnce layout) := inferInstanceAs (Decidable (List.Nodup _))

/-- The outputs there are that a layout lists are mapped where it says and nowhere else,
and outputs that it does not list are mapped nowhere. -/
structure LayoutExact (s : State) (layout : HashMap String (List Output)) (t : State) : Prop where
  listed : ∀ space ∈ layout.entries, ∀ configOutput ∈ space.2, ∀ output,
    s.Connected output → configOutput.name = output.name →
      ∀ m, t.outputLocation m output =
        if m = space.1 then some ⟨configOutput.x, configOutput.y⟩ else none
  unlisted : ∀ output, (∀ space ∈ layout.entries, State.listed space.2 output.name = false) →
    ∀ m, t.outputLocation m output = none

/-- What is mapped before a layout is mapped in a space that the layout has; or the
output is gone, and the layout lists another of its name. -/
def Clean (s : State) (layout : HashMap String (List Output)) : Prop :=
  ∀ m ∈ s.spaces.keys, ∀ mapped ∈ (s.spaces.value m).outputs,
    if s.Connected mapped.1 then m ∈ layout
    else ∃ space ∈ layout.entries, listed space.2 mapped.1.name = true

instance : Decidable (Clean s layout) :=
  inferInstanceAs (Decidable (∀ m ∈ s.spaces.keys, ∀ mapped ∈ (s.spaces.value m).outputs,
    if s.Connected mapped.1 then m ∈ layout
    else ∃ space ∈ layout.entries, listed space.2 mapped.1.name = true))

theorem outputLocation_isSome_iff :
    (s.outputLocation m output).isSome ↔
      m ∈ s.spaces.keys ∧ ∃ mapped ∈ (s.spaces.value m).outputs, mapped.1 = output := by
  rw [outputLocation, Registry.get?]
  split
  next hm => simp [hm, Space.outputLocation]
  next hm => simp [hm]

theorem clean_iff :
    Clean s layout ↔ ∀ m output, (s.outputLocation m output).isSome →
      if s.Connected output then m ∈ layout
      else ∃ space ∈ layout.entries, listed space.2 output.name = true := by
  simp only [outputLocation_isSome_iff]
  constructor
  · rintro hclean m _ ⟨hm, mapped, hmapped, rfl⟩
    exact hclean m hm mapped hmapped
  · exact fun h m hm mapped hmapped => h m mapped.1 ⟨hm, mapped, hmapped, rfl⟩

theorem listed_of_mem (h : configOutput ∈ configOutputs) :
    listed configOutputs configOutput.name = true :=
  List.any_eq_true.mpr ⟨configOutput, h, decide_eq_true rfl⟩

/-- Of a layout that lists every output at most once, the one space that lists it. -/
theorem ListedOnce.space_eq (h : ListedOnce layout) {space space' : Σ _ : String, List Output}
    (hs : space ∈ layout.entries) (hs' : space' ∈ layout.entries)
    (hl : listed space.2 name = true) (hl' : listed space'.2 name = true) : space = space' := by
  by_contra hne
  have hsymm : Std.Symm (Function.onFun List.Disjoint
      fun space : Σ _ : String, List Output => space.2.map Output.name) :=
    ⟨fun _ _ => List.Disjoint.symm⟩
  have hdisjoint := (List.nodup_flatMap.mp h).2.forall hs hs' hne
  have hname : ∀ configOutputs, listed configOutputs name = true →
      name ∈ configOutputs.map Output.name := by
    intro configOutputs hlisted
    simpa [listed] using hlisted
  exact hdisjoint (hname _ hl) (hname _ hl')

/-- A space that the layout leaves out stays as it is. -/
theorem LaysOut.outside (h : LaysOut layout.entries s t) (hout : m ∉ layout) :
    t.outputLocation m output = s.outputLocation m output := by
  by_cases hconn : s.Connected output
  · rw [h.location m output hconn, List.dlookup_eq_none.mpr (mt AList.mem_keys.mpr hout)]
  · exact h.unknown m output hconn

theorem LaysOut.inside (h : LaysOut layout.entries s t) (hconn : s.Connected output)
    {space : Σ _ : String, List Output} (hspace : space ∈ layout.entries) :
    t.outputLocation space.1 output = configLocation space.2 output.name := by
  rw [h.location _ _ hconn, List.mem_dlookup layout.nodupKeys hspace]

theorem clean_of_layoutExact (hlaid : LaysOut layout.entries s t) (h : LayoutExact s layout t) :
    Clean s layout := by
  rw [clean_iff]
  intro m output hmapped
  have hunlisted : (¬ ∃ space ∈ layout.entries, listed space.2 output.name = true) →
      t.outputLocation m output = none := by
    intro hnone
    refine h.unlisted output (fun space hspace => ?_) m
    exact Bool.eq_false_of_not_eq_true fun hl => hnone ⟨space, hspace, hl⟩
  split
  next hconn =>
    -- a space the layout leaves out would still have the output
    by_contra hout
    have hgone : t.outputLocation m output = none := by
      by_cases hlisted : ∃ space ∈ layout.entries, listed space.2 output.name = true
      · obtain ⟨space, hspace, hl⟩ := hlisted
        obtain ⟨configOutput, hmem, he⟩ := List.any_eq_true.mp hl
        have hname : configOutput.name = output.name := of_decide_eq_true he
        rw [h.listed space hspace configOutput hmem output hconn hname, if_neg]
        rintro rfl
        exact hout (AList.mem_keys.mpr (List.mem_keys_of_mem hspace))
      · exact hunlisted hlisted
    rw [← hlaid.outside hout, hgone] at hmapped
    cases hmapped
  next hconn =>
    by_contra hnone
    rw [← hlaid.unknown m output hconn, hunlisted hnone] at hmapped
    cases hmapped

theorem Clean.unmapped (h : Clean s layout) (hconn : s.Connected output) (hout : m ∉ layout) :
    s.outputLocation m output = none := by
  by_contra hmapped
  have hin := clean_iff.mp h m output (Option.isSome_iff_ne_none.mpr hmapped)
  rw [if_pos hconn] at hin
  exact hout hin

theorem layoutExact_of_clean (hlaid : LaysOut layout.entries s t) (honce : ListedOnce layout)
    (h : Clean s layout) : LayoutExact s layout t where
  listed space hspace configOutput hmem output hconn he m := by
    have hlisted : State.listed space.2 output.name = true := he ▸ listed_of_mem hmem
    by_cases hm : m ∈ layout
    · obtain ⟨space', hspace', rfl⟩ := List.mem_map.mp (AList.mem_keys.mp hm)
      rw [hlaid.inside hconn hspace']
      split
      next heq =>
        obtain rfl : space' = space := layout.nodupKeys.eq_of_fst_eq hspace' hspace heq
        rw [← he]
        exact configLocation_of_nodup ((List.nodup_flatMap.mp honce).1 space' hspace) hmem
      next hne =>
        refine configLocation_eq_none (Bool.eq_false_of_not_eq_true fun hl => hne ?_)
        exact congrArg Sigma.fst (honce.space_eq hspace' hspace hl hlisted)
    · rw [hlaid.outside hm, h.unmapped hconn hm, if_neg]
      rintro rfl
      exact hm (AList.mem_keys.mpr (List.mem_keys_of_mem hspace))
  unlisted output hnot m := by
    by_cases hconn : s.Connected output
    · by_cases hm : m ∈ layout
      · obtain ⟨space, hspace, rfl⟩ := List.mem_map.mp (AList.mem_keys.mp hm)
        rw [hlaid.inside hconn hspace, configLocation_eq_none (hnot space hspace)]
      · rw [hlaid.outside hm, h.unmapped hconn hm]
    · rw [hlaid.unknown m output hconn]
      by_contra hmapped
      have hin := clean_iff.mp h m output (Option.isSome_iff_ne_none.mpr hmapped)
      rw [if_neg hconn] at hin
      obtain ⟨space, hspace, hl⟩ := hin
      rw [hnot space hspace] at hl
      cases hl

theorem setLayout_exact_iff (hs : s.Named) (honce : ListedOnce layout) :
    LayoutExact s layout (s.setLayout W layout) ↔ Clean s layout :=
  have hlaid := setLayout_laysOut hs layout
  ⟨clean_of_layoutExact hlaid, layoutExact_of_clean hlaid honce⟩

/-- In a run whose layouts list every output at most once, every layout is met exactly
if and only if each finds the outputs mapped in no space that it leaves out. -/
theorem layouts_exact_iff (is : List (World × Event))
    (honce : ∀ i ∈ is, ∀ layout ∈ layoutOf i.2, ListedOnce layout) :
    (∀ p ∈ steps next State.new is, ∀ layout ∈ layoutOf p.2.2, ∀ t, next p.1 p.2 = .ok t →
        LayoutExact p.1 layout t) ↔
      ∀ p ∈ steps next State.new is, ∀ layout ∈ layoutOf p.2.2, Clean p.1 layout := by
  refine forall₂_congr fun p hp => forall₂_congr fun layout hlayout => ?_
  have hnew : Reachable system State.new := .init rfl
  obtain ⟨hreach, hmem⟩ := reachable_of_mem_steps hnew hp
  have hstep : next p.1 p.2 = .ok (p.1.setLayout p.2.1 layout) := by
    rw [State.next, eq_of_layoutOf hlayout]
    rfl
  rw [hstep]
  simp only [Except.ok.injEq, forall_eq']
  exact setLayout_exact_iff (reachable_named hreach) (honce p.2 hmem layout hlayout)

/-- The panel is connected, mapped, and moved to another space. -/
def movePanel (others : List String) : List (World × Event) :=
  [(World.quiet, .connectorConnected "eDP-1" ⟨1920, 1080⟩),
    (World.quiet, .message (.setLayout (panelLayout "a" []))),
    (World.quiet, .message (.setLayout (panelLayout "b" others)))]

/-- A layout that still has the space the panel was in takes it out there. -/
theorem movePanel_exact :
    LayoutExact panelMapped (panelLayout "b" ["a"])
      (panelMapped.setLayout World.quiet (panelLayout "b" ["a"])) := by
  have hexact := (layouts_exact_iff (movePanel ["a"]) (by decide)).mpr (by decide)
  have hlast : (panelMapped, World.quiet, Event.message (.setLayout (panelLayout "b" ["a"]))) ∈
      steps next State.new (movePanel ["a"]) :=
    List.mem_cons_of_mem _ (List.mem_cons_of_mem _ (List.mem_singleton_self _))
  exact hexact _ hlast _ rfl _ rfl

/-- A layout that leaves that space out leaves the panel in it. -/
theorem movePanel_keeps :
    (∀ i ∈ movePanel [], ∀ layout ∈ layoutOf i.2, ListedOnce layout) ∧
      ∃ s, run next State.new (movePanel []) = .ok s ∧
        s.outputLocation "a" panel = some ⟨0, 0⟩ ∧ s.outputLocation "b" panel = some ⟨0, 0⟩ := by
  refine ⟨by decide, _, rfl, rfl, rfl⟩

end Scape.Display.State
