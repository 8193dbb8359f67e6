import Scape.Display.Composition

/-!
# What a list of zones leaves of the one before it

`set_zones` gets all the zones there are to be. The map is cleared and filled from
the list, so it comes out the same whatever it was. The name of the default zone is
only ever overwritten: a list that flags no zone leaves the default of the list
before it, which may not even be in the map any more.
-/

namespace Scape.Display.State

open Scape

variable {s s' : State} {zones : List Zone} {name : String}

/-- The zone a list has under a name: the last. -/
def listedZone (zones : List Zone) (name : String) : Option Zone :=
  zones.reverse.find? fun zone => zone.name = name

/-- The default zone of a list: the last that is flagged. -/
def flaggedZone (zones : List Zone) : Option String :=
  (zones.reverse.find? Zone.default).map Zone.name

/-- The zones are those of the list, and so is the default. -/
structure ZonesOf (zones : List Zone) (s : State) : Prop where
  listed : ∀ name, s.zones.lookup name = listedZone zones name
  flagged : s.defaultZone = flaggedZone zones

/-- Whatever was configured before, the zones are those of the list. -/
structure SetAlike (zones : List Zone) (s s' : State) : Prop where
  left : ZonesOf zones (s.setZones zones)
  right : ZonesOf zones (s'.setZones zones)
  same : (s.setZones zones).zones = (s'.setZones zones).zones
  sameDefault : (s.setZones zones).defaultZone = (s'.setZones zones).defaultZone

/-! ## The loop -/

theorem foldl_setZone_zones (s : State) (zones : List Zone) :
    (zones.foldl setZone s).zones =
      zones.foldl (fun m zone => m.insert zone.name zone) s.zones := by
  induction zones generalizing s with
  | nil => rfl
  | cons zone zones ih => exact ih (s.setZone zone)

theorem foldl_setZone_lookup (s : State) (zones : List Zone) (name : String) :
    (zones.foldl setZone s).zones.lookup name =
      (listedZone zones name).or (s.zones.lookup name) := by
  induction zones using List.reverseRecOn with
  | nil => rfl
  | append_singleton zones zone ih =>
      rw [List.foldl_concat, listedZone, List.reverse_concat]
      by_cases h : zone.name = name
      · rw [List.find?_cons_of_pos (by simpa using h), Option.some_or, setZone, ← h]
        exact AList.lookup_insert _
      · rw [List.find?_cons_of_neg (by simpa using h), setZone]
        exact (AList.lookup_insert_ne (Ne.symm h)).trans ih

theorem foldl_setZone_default (s : State) (zones : List Zone) :
    (zones.foldl setZone s).defaultZone = (flaggedZone zones).or s.defaultZone := by
  induction zones using List.reverseRecOn with
  | nil => rfl
  | append_singleton zones zone ih =>
      rw [List.foldl_concat, flaggedZone, List.reverse_concat, setZone]
      by_cases h : zone.default = true
      · rw [List.find?_cons_of_pos h, if_pos h]
        rfl
      · rw [List.find?_cons_of_neg h, if_neg h]
        exact ih

/-! ## The whole list -/

theorem setZones_lookup (s : State) (zones : List Zone) (name : String) :
    (s.setZones zones).zones.lookup name = listedZone zones name := by
  rw [setZones, foldl_setZone_lookup, AList.lookup_empty, Option.or_none]

theorem setZones_default (s : State) (zones : List Zone) :
    (s.setZones zones).defaultZone = (flaggedZone zones).or s.defaultZone := by
  rw [setZones, foldl_setZone_default]

theorem flaggedZone_eq_none_iff :
    flaggedZone zones = none ↔ ∀ zone ∈ zones, zone.default = false := by
  rw [flaggedZone, Option.map_eq_none_iff, List.find?_eq_none]
  simp

/-- The default of the list before goes away if the list has a default. -/
theorem zonesOf_setZones_iff :
    ZonesOf zones (s.setZones zones) ↔
      (∃ zone ∈ zones, zone.default = true) ∨ s.defaultZone = none := by
  have hdefault : (flaggedZone zones).or s.defaultZone = flaggedZone zones ↔
      flaggedZone zones ≠ none ∨ s.defaultZone = none := by
    cases flaggedZone zones <;> simp
  have hflagged : (∃ zone ∈ zones, zone.default = true) ↔ flaggedZone zones ≠ none := by
    rw [Ne, flaggedZone_eq_none_iff]
    push Not
    simp
  rw [hflagged, ← hdefault, ← setZones_default]
  constructor
  · intro h
    exact h.flagged
  · intro h
    exact ⟨setZones_lookup s zones, h⟩

/-- A list of zones replaces the configuration before it, whichever that was,
exactly if it flags a default or none was set. -/
theorem setAlike_iff :
    SetAlike zones s s' ↔
      (∃ zone ∈ zones, zone.default = true) ∨
        (s.defaultZone = none ∧ s'.defaultZone = none) := by
  rw [or_and_left, ← zonesOf_setZones_iff, ← zonesOf_setZones_iff]
  constructor
  · intro h
    exact ⟨h.left, h.right⟩
  · intro h
    refine ⟨h.1, h.2, ?_, ?_⟩
    · rw [setZones, setZones, foldl_setZone_zones, foldl_setZone_zones]
    · rw [h.1.flagged, h.2.flagged]

/-- A list of no zones leaves the default of the list before it. -/
theorem not_setAlike_empty :
    ¬ SetAlike [] (State.new.setZones [⟨"left", 0, 0, 1280, 1440, true⟩]) State.new := by
  intro h
  have hsame := h.sameDefault
  cases hsame

end Scape.Display.State
