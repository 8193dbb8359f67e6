import Scape.Display.InitialConfigure
import Scape.Display.Machine

/-!
# How often a surface gets its initial configure

The commits of a surface come with what each finds: the space, the popups, the layers. As
long as the surface is what it is, a toplevel or a popup is sent a configure on its first
commit, which sets the flag that the next one looks at. A layer is sent one on each commit,
as the flag that is looked at is one that no layer has. So the initial configure is sent
once exactly if the surface is none of a layer, or is committed once only
(`initialConfigure_once_iff`).
-/

namespace Scape.Display

open Scape Fallible

/-- What a commit finds. -/
structure CommitView where
  W : World
  findPopup : WlSurface → Option PopupKind
  layersOf : SmithayOutput → List LayerSurface
  space : Space

namespace CommitView

def configure (view : CommitView) (surface : WlSurface) (data : RoleData) : RoleData × Bool :=
  ensureInitialConfigure view.W view.findPopup view.layersOf view.space surface data

/-- No window in the space is that of the surface. -/
def NoWindow (view : CommitView) (surface : WlSurface) : Prop :=
  ∀ window ∈ view.space.windows, view.W.surfaceOf window ≠ some surface

/-- The surface is the root of a toplevel in the space, of a popup that is tracked, or of a
layer on an output of the space, and as it has one role it is the root of nothing else. -/
def Root (view : CommitView) (surface : WlSurface) : Role → Prop
  | .toplevel =>
      ¬ view.NoWindow surface ∧ ∀ window ∈ view.space.windows,
        view.W.surfaceOf window = some surface → window.kind = .wayland surface
  | .popup => view.NoWindow surface ∧ view.findPopup surface = some .xdg
  | .layer =>
      view.NoWindow surface ∧ view.findPopup surface = none ∧
        ∃ mapped ∈ view.space.outputs, ∃ layer ∈ view.layersOf mapped.1, layer.surface = surface

end CommitView

/-- Where the first configure leaves its flag. -/
def RoleData.sent : Role → RoleData
  | .toplevel => ⟨some true, none, none⟩
  | .popup => ⟨none, some true, none⟩
  | .layer => ⟨none, none, some true⟩

variable {view : CommitView} {views before after : List CommitView} {surface : WlSurface}
  {data : RoleData} {role : Role}

namespace CommitView

theorem NoWindow.find?_eq_none (h : view.NoWindow surface) :
    (view.space.windows.find? fun window => view.W.surfaceOf window = some surface) = none :=
  List.find?_eq_none.mpr fun window hmem => by simpa using h window hmem

/-! ## One commit -/

theorem configure_toplevel (h : view.Root surface .toplevel) :
    view.configure surface data =
      if data.xdgToplevel = some true then (data, false)
      else ({ data with xdgToplevel := some true }, true) := by
  obtain ⟨hsome, hkind⟩ := h
  rw [configure, ensureInitialConfigure]
  cases hfind : view.space.windows.find? fun window => view.W.surfaceOf window = some surface with
  | none =>
      refine absurd ?_ hsome
      intro window hmem
      simpa using List.find?_eq_none.mp hfind window hmem
  | some window =>
      have hsurface : view.W.surfaceOf window = some surface := by
        simpa using List.find?_some hfind
      dsimp only
      rw [hkind window (List.mem_of_find?_eq_some hfind) hsurface]

theorem configure_popup (h : view.Root surface .popup) :
    view.configure surface data =
      if data.xdgPopup = some true then (data, false)
      else ({ data with xdgPopup := some true }, true) := by
  rw [configure, ensureInitialConfigure, h.1.find?_eq_none, h.2]

/-- The flag of a layer is not looked at. -/
theorem configure_layer (h : view.Root surface .layer) :
    view.configure surface data =
      if data.xdgToplevel.getD false then (data, false)
      else ({ data with layer := some true }, true) := by
  obtain ⟨hwindow, hpopup, mapped, hmapped, layer, hlayer, hroot⟩ := h
  rw [configure, ensureInitialConfigure, hwindow.find?_eq_none, hpopup]
  have hlayers : (layerForSurface (view.layersOf mapped.1) surface).isSome :=
    List.find?_isSome.mpr ⟨layer, hlayer, by simpa using hroot⟩
  have houtput : (view.space.outputs.find? fun mapped =>
      (layerForSurface (view.layersOf mapped.1) surface).isSome).isSome :=
    List.find?_isSome.mpr ⟨mapped, hmapped, hlayers⟩
  obtain ⟨found, hfound⟩ := Option.isSome_iff_exists.mp houtput
  dsimp only
  rw [hfound]

theorem configure_new (h : view.Root surface role) :
    view.configure surface (.new role) = (.sent role, true) := by
  cases role with
  | toplevel => exact configure_toplevel h
  | popup => exact configure_popup h
  | layer => exact configure_layer h

theorem configure_sent (h : view.Root surface role) :
    view.configure surface (.sent role) = (.sent role, decide (role = .layer)) := by
  cases role with
  | toplevel => exact configure_toplevel h
  | popup => exact configure_popup h
  | layer => exact configure_layer h

/-! ## All commits -/

/-- The data of the surface after some commits. -/
def dataAfter (surface : WlSurface) (data : RoleData) (views : List CommitView) : RoleData :=
  views.foldl (fun data view => (view.configure surface data).1) data

/-- Of the commits of a surface that has just got its role, the first is answered with a
configure and no other is. -/
def ConfiguredOnce (surface : WlSurface) (role : Role) (views : List CommitView) : Prop :=
  ∀ before view after, views = before ++ view :: after →
    ((view.configure surface (dataAfter surface (.new role) before)).2 = true ↔ before = [])

theorem dataAfter_sent (h : ∀ view ∈ views, view.Root surface role) :
    dataAfter surface (.sent role) views = .sent role := by
  induction views with
  | nil => rfl
  | cons view views ih =>
      rw [dataAfter, List.foldl_cons, configure_sent (h view List.mem_cons_self)]
      exact ih fun other hmem => h other (List.mem_cons_of_mem view hmem)

theorem dataAfter_new (h : ∀ view ∈ views, view.Root surface role) (hne : views ≠ []) :
    dataAfter surface (.new role) views = .sent role := by
  obtain ⟨view, views, rfl⟩ := List.exists_cons_of_ne_nil hne
  rw [dataAfter, List.foldl_cons, configure_new (h view List.mem_cons_self)]
  exact dataAfter_sent fun other hmem => h other (List.mem_cons_of_mem view hmem)

/-- The initial configure is sent once exactly if this is no layer, or if there are no two
commits. -/
theorem initialConfigure_once_iff (surface : WlSurface) (role : Role) (views : List CommitView)
    (h : ∀ view ∈ views, view.Root surface role) :
    ConfiguredOnce surface role views ↔ (role = .layer → views.length ≤ 1) := by
  have hlater : ∀ before view after, views = before ++ view :: after → before ≠ [] →
      (view.configure surface (dataAfter surface (.new role) before)).2 =
        decide (role = .layer) := by
    rintro before view after rfl hne
    rw [dataAfter_new (fun other hmem => h other (List.mem_append_left _ hmem)) hne,
      configure_sent (h view (List.mem_append_right before List.mem_cons_self))]
  constructor
  · intro honce hlayer
    obtain _ | ⟨first, _ | ⟨second, rest⟩⟩ := views
    · exact Nat.zero_le 1
    · exact Nat.le_refl 1
    · have hsent := hlater [first] second rest rfl (List.cons_ne_nil _ _)
      rw [decide_eq_true hlayer] at hsent
      exact absurd ((honce [first] second rest rfl).mp hsent) (List.cons_ne_nil _ _)
  · intro hlength before view after hviews
    by_cases hne : before = []
    · subst hne
      rw [dataAfter, List.foldl_nil, configure_new (h view (hviews ▸ List.mem_cons_self))]
      exact iff_of_true rfl rfl
    · rw [hlater before view after hviews hne, decide_eq_true_iff]
      refine iff_of_false ?_ hne
      intro hlayer
      have hshort := hlength hlayer
      rw [hviews, List.length_append, List.length_cons] at hshort
      have hpos := List.length_pos_iff.mpr hne
      omega

/-! ## A toplevel and a layer -/

/-- A space with a window on an output, and a layer there. -/
def windowAndLayer : CommitView where
  W := .quiet
  findPopup := fun _ => none
  layersOf := fun _ => [⟨0, ⟨1⟩⟩]
  space := ⟨[(⟨0, .wayland ⟨0⟩⟩, ⟨0, 0⟩)], [(⟨0, "DP-1", ⟨1920, 1080⟩⟩, ⟨0, 0⟩)]⟩

theorem windowAndLayer_toplevel : windowAndLayer.Root ⟨0⟩ .toplevel :=
  ⟨fun hno => hno ⟨0, .wayland ⟨0⟩⟩ (by decide) rfl, by decide⟩

theorem windowAndLayer_layer : windowAndLayer.Root ⟨1⟩ .layer := by
  refine ⟨?_, rfl, _, List.mem_singleton_self _, _, List.mem_singleton_self _, rfl⟩
  show ∀ window ∈ _, _
  decide

theorem toplevel_once : ConfiguredOnce ⟨0⟩ .toplevel [windowAndLayer, windowAndLayer] :=
  (initialConfigure_once_iff ⟨0⟩ .toplevel [windowAndLayer, windowAndLayer]
    (by simp [windowAndLayer_toplevel])).mpr fun hlayer => by cases hlayer

/-- The second commit of a layer is answered as the first is. -/
theorem layer_twice :
    (∀ view ∈ [windowAndLayer, windowAndLayer], view.Root ⟨1⟩ .layer) ∧
      ¬ ConfiguredOnce ⟨1⟩ .layer [windowAndLayer, windowAndLayer] := by
  refine ⟨by simp [windowAndLayer_layer], ?_⟩
  intro honce
  have hsent := congrArg Prod.snd (configure_sent windowAndLayer_layer)
  exact absurd ((honce [windowAndLayer] windowAndLayer [] rfl).mp hsent) (List.cons_ne_nil _ _)

end CommitView

end Scape.Display
