import Scape.Display.Desk
import Scape.Proofs.LockScreen
import Scape.Proofs.LuaRuns

/-!
# No output is ever shown

The config thread is never told of an output, so what it makes of a layout has none, whatever
the user's configuration says and whenever it says it. A layout without outputs adds spaces
and maps nothing. Nothing else maps an output or gives one its active space.

So in every run of the two threads no output has an active space. On udev a render is given up
before it begins; on winit, where an active space is taken for granted, the first drawing ends
the display thread, and so does the first absolute motion of a pointer on either.
-/

namespace Scape.Config

open Fallible (bind_eq_ok_iff)

variable {M : Mlua} {I : Interpreter M} {overflowChecks : Bool} {peers : Peers}
  {st st' : ConfigState M} {effects : List Effect}

/-! ## A config thread that knows no output -/

/-- An action that sends no finished layout, and nothing that is for other threads to send. -/
def Idle.Plain : Idle M → Prop
  | .display (.setLayout _) | .display .shutdown | .display (.keyboardInput _ _ _ _) => False
  | _ => True

/-- A layout that lists no outputs, or another message. -/
def Bare : DisplayMessage → Prop
  | .setLayout spaces => ∀ entry ∈ spaces.entries, entry.2 = []
  | _ => True

/-- The thread knows no output, and layouts wait only as what Lua has asked for. -/
structure ConfigState.Unaware (st : ConfigState M) : Prop where
  outputs : st.outputs = ∅
  idles : ∀ idle ∈ st.idles, idle.Plain

theorem Api.idle_plain {api : Api} {args : List M.Value} {idle : Idle M}
    (h : api.idle args = .ok idle) : idle.Plain := by
  cases api with
  | focusOrSpawn =>
      obtain ⟨appId, -, hrest⟩ := bind_eq_ok_iff.mp (mapError_eq_ok_iff.mp h)
      obtain ⟨command, -, hok⟩ := bind_eq_ok_iff.mp hrest
      cases hok
      trivial
  | setZones =>
      obtain ⟨values, -, hrest⟩ := bind_eq_ok_iff.mp (mapError_eq_ok_iff.mp h)
      obtain ⟨zones, -, hok⟩ := bind_eq_ok_iff.mp hrest
      cases hok
      trivial
  | moveCurrentWindowToZone | addWindowRule =>
      obtain ⟨_, -, hok⟩ := bind_eq_ok_iff.mp (mapError_eq_ok_iff.mp h)
      cases hok
      trivial
  | onStartup | mapKey | onConnectorChange | setLayout | spawn =>
      obtain ⟨_, -, rfl⟩ := map_eq_ok_iff.mp h
      trivial
  | toggleDebugUi | quit | shutdown | startVideoStream | closeCurrentWindow | vtSwitch =>
      cases h
      trivial

theorem Idle.Called.plain {idle : Idle M} (h : idle.Called) : idle.Plain := by
  obtain ⟨api, args, hidle⟩ := h
  exact Api.idle_plain hidle

namespace ConfigState

/-- What Lua does brings in no output. -/
theorem Unaware.ran (h : st.Unaware) (hran : LuaRan st st') : st'.Unaware := by
  obtain ⟨queued, hidles, hcalled⟩ := hran.idles
  refine ⟨hran.outputs.trans h.outputs, ?_⟩
  rw [hidles]
  exact List.forall_mem_append.mpr ⟨h.idles, fun idle hidle => (hcalled idle hidle).plain⟩

theorem new_unaware {env : Surroundings}
    (h : ConfigState.new I overflowChecks peers env = .ok (st, effects)) : st.Unaware := by
  have hfresh : (fresh I).Unaware := ⟨rfl, by simp [fresh]⟩
  exact hfresh.ran (new_luaRan h)

/-! ## What its turns send -/

end ConfigState

/-- A send puts its own message on the display thread's channel, or none. -/
theorem mem_displayMessages_sendOn {e : Envelope} (h : sendOn peers e = .ok effects)
    {message : DisplayMessage} (hmem : message ∈ Display.displayMessages effects) :
    e = .display message := by
  unfold sendOn at h
  split at h
  next e' he' =>
    cases h
    have hsent : e' = .display message := by
      cases e' <;> simp_all [Display.displayMessages]
    subst hsent
    unfold Comms.send at he'
    split at he'
    next => split at he' <;> cases he'; rfl
    next =>
      split at he'
      · cases he'; rfl
      · split at he' <;> cases he'
  next => cases h

theorem collect_entries {κ ν : Type} [DecidableEq κ] {P : ν → Prop} {pairs : List (κ × ν)}
    (h : ∀ pair ∈ pairs, P pair.2) : ∀ entry ∈ (HashMap.collect pairs).entries, P entry.2 := by
  unfold HashMap.collect
  refine List.foldlRecOn pairs _
    (motive := fun m : HashMap κ ν => ∀ entry ∈ m.entries, P entry.2)
    (fun entry hentry => absurd hentry List.not_mem_nil) fun m hm pair hpair => ?_
  rw [AList.entries_insert]
  refine List.forall_mem_cons.mpr ⟨h pair hpair, fun entry hentry => hm entry ?_⟩
  exact List.kerase_sublist _ _ |>.subset hentry

namespace ConfigState

/-- Without outputs to look up, a layout has none. -/
theorem layoutSpaces_bare (layout : ConfigLayout) : Bare (.setLayout (layoutSpaces ∅ layout)) := by
  refine collect_entries (P := fun outputs : List Output => outputs = []) fun pair hpair => ?_
  obtain ⟨space, -, rfl⟩ := List.mem_map.mp hpair
  show space.2.filterMap _ = []
  rw [List.filterMap_eq_nil_iff]
  intro configOutput _
  rfl

theorem Unaware.exec {idle : Idle M} (h : st.Unaware) (hplain : idle.Plain)
    (hexec : idle.exec overflowChecks peers st = .ok (st', effects)) :
    st'.Unaware ∧ ∀ message ∈ Display.displayMessages effects, Bare message := by
  cases idle with
  | keymap keymap =>
      obtain ⟨cs, r, -, rfl, hsent⟩ := mapKey_eq_ok hexec
      refine ⟨⟨h.outputs, h.idles⟩, fun message hmem => ?_⟩
      cases mem_displayMessages_sendOn hsent hmem
  | onStartup callback =>
      obtain ⟨cs, r, -, rfl, rfl⟩ := Idle.exec_onStartup_eq_ok hexec
      exact ⟨⟨h.outputs, h.idles⟩, fun message hmem => absurd hmem List.not_mem_nil⟩
  | onConnectorChange callback =>
      obtain ⟨cs, r, -, rfl, rfl⟩ := Idle.exec_onConnectorChange_eq_ok hexec
      exact ⟨⟨h.outputs, h.idles⟩, fun message hmem => absurd hmem List.not_mem_nil⟩
  | spawn configSpawn =>
      cases hexec
      exact ⟨h, fun message hmem => absurd hmem List.not_mem_nil⟩
  | setLayout layout =>
      obtain ⟨rfl, hsent⟩ := sendOn_bind_eq_ok hexec
      refine ⟨h, fun message hmem => ?_⟩
      cases mem_displayMessages_sendOn hsent hmem
      rw [h.outputs]
      exact layoutSpaces_bare layout
  | display sent =>
      obtain ⟨rfl, hsent⟩ := sendOn_bind_eq_ok hexec
      refine ⟨h, fun message hmem => ?_⟩
      cases mem_displayMessages_sendOn hsent hmem
      cases sent with
      | setLayout => exact hplain.elim
      | _ => trivial
  | main sent =>
      obtain ⟨rfl, hsent⟩ := sendOn_bind_eq_ok hexec
      refine ⟨h, fun message hmem => ?_⟩
      cases mem_displayMessages_sendOn hsent hmem

/-- No message but `ConnectorChange` brings outputs, and none is answered with a message to
the display thread. -/
theorem Unaware.handleMessage {message : ConfigMessage} {result : Except (ConfigError M) Unit}
    (h : st.Unaware) (hsent : Display.Desk.Sent (.message message))
    (hhandle : st.handleMessage I message = .ok (st', effects, result)) :
    st'.Unaware ∧ Display.displayMessages effects = [] := by
  cases message with
  | connectorChange => exact hsent.elim
  | runCallback callbackRef =>
      obtain ⟨p, hrun, hok⟩ := bind_eq_ok_iff.mp hhandle
      cases hok
      exact ⟨h.ran (runCallback_luaRan hrun), rfl⟩
  | startup =>
      simp only [ConfigState.handleMessage] at hhandle
      split at hhandle
      next => cases hhandle; exact ⟨h, rfl⟩
      next =>
        obtain ⟨p, hrun, hok⟩ := bind_eq_ok_iff.mp hhandle
        cases hok
        exact ⟨h.ran (runCallback_luaRan hrun), rfl⟩
  | shutdown | forgetCallback | extraEnv | spawn =>
      cases hhandle
      exact ⟨⟨h.outputs, h.idles⟩, rfl⟩

theorem Unaware.turn {turn : Turn} {result : Except (ConfigError M) Unit} (h : st.Unaware)
    (hsent : Display.Desk.Sent turn)
    (hturn : st.turn I overflowChecks peers turn = .ok (st', effects, result)) :
    st'.Unaware ∧ ∀ message ∈ Display.displayMessages effects, Bare message := by
  cases turn with
  | message message =>
      obtain ⟨hst', hnone⟩ := h.handleMessage hsent hturn
      rw [hnone]
      exact ⟨hst', fun message hmem => absurd hmem List.not_mem_nil⟩
  | idle =>
      simp only [ConfigState.turn] at hturn
      split at hturn
      next => cases hturn; exact ⟨h, fun message hmem => absurd hmem List.not_mem_nil⟩
      next idle idles hidles =>
        obtain ⟨p, hexec, hok⟩ := bind_eq_ok_iff.mp hturn
        cases hok
        have hall := h.idles
        rw [hidles, List.forall_mem_cons] at hall
        have hrest : ({ st with idles := idles } : ConfigState M).Unaware :=
          ⟨h.outputs, hall.2⟩
        exact hrest.exec hall.1 hexec
  | fileChanged read =>
      simp only [ConfigState.turn] at hturn
      split at hturn
      · obtain ⟨st₁, hchanged, hok⟩ := bind_eq_ok_iff.mp hturn
        cases hok
        exact ⟨h.ran (configChanged_luaRan hchanged),
          fun message hmem => absurd hmem List.not_mem_nil⟩
      · cases hturn
        exact ⟨h, fun message hmem => absurd hmem List.not_mem_nil⟩

end ConfigState

end Scape.Config

namespace Scape.Display

open Fallible (ensures_ok)
open Scape.Config (Bare ConfigState Interpreter Mlua)

/-! ## A display thread that shows nothing -/

namespace State

variable {s t : State} {W : World} {e : Event}

/-- No output is mapped in a space or has an active one. -/
structure Dark (s : State) : Prop where
  activeSpace : ∀ output, s.activeSpace output = none
  outputs : ∀ name, (s.spaces.value name).outputs = []

theorem Dark.modifySpace (h : s.Dark) {name : String} {f : Space → Space}
    (hf : ∀ space, space.outputs = [] → (f space).outputs = []) : (s.modifySpace name f).Dark := by
  refine ⟨h.activeSpace, fun name' => ?_⟩
  show ((s.spaces.modify name f).value name').outputs = []
  rw [Registry.modify_value, Function.update_apply]
  split
  · exact hf _ (h.outputs name)
  · exact h.outputs name'

theorem Dark.layoutSpace (h : s.Dark) {name : String} : (s.layoutSpace name []).Dark := by
  have hensure : ({ s with spaces := s.spaces.ensure name .empty } : State).Dark := by
    refine ⟨h.activeSpace, fun name' => ?_⟩
    show ((s.spaces.ensure name .empty).value name').outputs = []
    unfold Registry.ensure
    split
    · exact h.outputs name'
    · show (Function.update s.spaces.value name Space.empty name').outputs = []
      rw [Function.update_apply]
      split
      · rfl
      · exact h.outputs name'
  rw [State.layoutSpace, List.foldl_nil, unmapUnlisted]
  refine List.foldlRecOn _ _ hensure fun u hu entry _ => ?_
  split
  · exact hu
  · refine hu.modifySpace fun space hspace => ?_
    show space.outputs.filter _ = []
    rw [hspace, List.filter_nil]

theorem Dark.setLayout (h : s.Dark) {spaces : HashMap String (List Output)}
    (hbare : Bare (.setLayout spaces)) : (s.setLayout W spaces).Dark := by
  have hlaid : (spaces.entries.foldl (fun s entry => s.layoutSpace entry.1 entry.2) s).Dark := by
    refine List.foldlRecOn _ _ h fun u hu entry hentry => ?_
    rw [hbare entry hentry]
    exact hu.layoutSpace
  rw [State.setLayout]
  split
  · exact hlaid
  · exact ⟨hlaid.activeSpace, hlaid.outputs⟩

theorem Dark.of_keepsOutputs (h : s.Dark) (hkeeps : KeepsOutputs s t) : t.Dark := by
  refine ⟨fun output => ?_, fun name => ?_⟩
  · rw [hkeeps.activeSpace]
    exact h.activeSpace output
  · rw [hkeeps.mapped]
    exact h.outputs name

/-- Only a layout that lists outputs would end it. -/
theorem Dark.step (h : s.Dark) (hs : s.Known)
    (hbare : ∀ message, e = .message message → Bare message)
    (hstep : s.step W e = .ok t) : t.Dark := by
  by_cases he : ChangesOutputs e
  · rcases changesOutputs_cases he with ⟨layout, rfl⟩ | ⟨outputName, mode, rfl⟩ | ⟨output, rfl⟩
    · cases hstep
      exact h.setLayout (hbare _ rfl)
    · cases hstep
      exact ⟨h.activeSpace, h.outputs⟩
    · cases hstep
      exact ⟨h.activeSpace, h.outputs⟩
  · exact h.of_keepsOutputs (step_keepsOutputs hs he t hstep)

end State

namespace Desk

variable {M : Mlua} {I : Interpreter M} {overflowChecks : Bool} {s t : Desk M}
  {action : DeskAction}

/-! ## The two together -/

/-- What keeps the screen dark: neither thread has an output, nor does a layout on its way
from one to the other. -/
structure Blank (s : Desk M) : Prop where
  config : s.config.Unaware
  queue : ∀ message ∈ s.toDisplay, Bare message
  known : s.display.Known
  dark : s.display.Dark

theorem Blank.step (h : s.Blank) (hstep : Step I overflowChecks s action t) : t.Blank := by
  cases hstep with
  | turn hsent hturn =>
      obtain ⟨hconfig, hbare⟩ := h.config.turn hsent hturn
      refine ⟨hconfig, fun message hmem => ?_, h.known, h.dark⟩
      rcases List.mem_append.mp hmem with hold | hnew
      · exact h.queue message hold
      · exact hbare message hnew
  | @toDisplay message hother =>
      refine ⟨h.config, fun message' hmem => ?_, h.known, h.dark⟩
      rcases List.mem_append.mp hmem with hold | hnew
      · exact h.queue message' hold
      · obtain rfl := List.mem_singleton.mp hnew
        cases message' with
        | setLayout => exact absurd trivial hother
        | _ => trivial
  | @message W message queue display hqueue hdisplay =>
      have hall := h.queue
      rw [hqueue, List.forall_mem_cons] at hall
      refine ⟨h.config, hall.2, (State.step_keepsWindows h.known _ hdisplay).known h.known,
        h.dark.step h.known (fun m hm => ?_) hdisplay⟩
      cases hm
      exact hall.1
  | event hother hdisplay =>
      exact ⟨h.config, h.queue, (State.step_keepsWindows h.known _ hdisplay).known h.known,
        h.dark.step h.known (fun m hm => absurd hm (hother m)) hdisplay⟩

theorem reachable_blank (h : Machine.Reachable (system I overflowChecks) s) : s.Blank := by
  refine h.invariant (fun s hinit => ?_) fun s action t hs _ hstep => hs.step hstep
  obtain ⟨peers, env, sent, hnew, hdisplay, hqueue⟩ := hinit
  refine ⟨ConfigState.new_unaware hnew, ?_, ?_, ?_⟩
  · rw [hqueue]
    exact fun message hmem => absurd hmem List.not_mem_nil
  · rw [hdisplay]
    exact State.new_known
  · rw [hdisplay]
    exact ⟨fun _ => rfl, fun _ => rfl⟩

/-- In every run of the two threads no output has an active space, and none is mapped in a
space. So there is nothing to render, however it is tried, and no output to point at. -/
theorem nothing_shown (h : Machine.Reachable (system I overflowChecks) s) (R : RenderWorld)
    (r : RenderState) (hr : r.state = s.display) :
    (∀ output, s.display.activeSpace output = none) ∧
    (∀ name space, s.display.spaces.get? name = some space → space.outputs = []) ∧
    (∀ output, r.renderSurfaceCrtc R output = .ok (r, none)) ∧
    (∀ t, r.renderWindow R ≠ .ok t) ∧
    ∀ W location, s.display.step W (.input (.pointerMotionAbsolute location)) =
      .error .noOutput := by
  have hdark := (reachable_blank h).dark
  refine ⟨hdark.activeSpace, fun name space hspace => ?_, fun output => ?_, fun t ht => ?_,
    fun W location => ?_⟩
  · rw [← (Registry.get?_eq_some_iff.mp hspace).2]
    exact hdark.outputs name
  · rw [RenderState.renderSurfaceCrtc, hr, hdark.activeSpace]
  · obtain ⟨output, -, hrest⟩ := Fallible.bind_eq_ok_iff.mp ht
    obtain ⟨spaceName, hname, -⟩ := Fallible.bind_eq_ok_iff.mp hrest
    rw [hr, hdark.activeSpace] at hname
    cases hname
  · show s.display.onPointerMoveAbsolute W location = _
    rw [State.onPointerMoveAbsolute, Registry.first, hdark.outputs]
    rfl

/-- Lays the panel out in the first space. -/
def layoutScript : Config.Script Config.plainLua :=
  .call .setLayout
    [.table [(.string "main", .table [(.integer 1, .table
      [(.string "name", .string "eDP-1"), (.string "x", .integer 0), (.string "y", .integer 0),
        (.string "width", .integer 1920), (.string "height", .integer 1080)])])]]
    fun _ => .done ()

/-- The panel is connected and a layout names it, and still it is not rendered. -/
theorem nothing_shown_panel :
    ∃ s, Machine.Reachable (system (Config.plainInterpreter fun _ => layoutScript) true) s ∧
      State.panel ∈ s.display.outputs.values ∧ s.config.idles = [] ∧ s.toDisplay = [] ∧
      s.display.spaces.keys.contains "main" = true ∧ s.display.activeSpace State.panel = none ∧
      RenderState.renderSurfaceCrtc RenderState.lockWorld
          ⟨s.display, RenderState.hiddenCursor, none, false, [], []⟩ State.panel =
        .ok (⟨s.display, RenderState.hiddenCursor, none, false, [], []⟩, none) := by
  obtain ⟨config, sent, hnew⟩ : ∃ config sent, ConfigState.new
      (Config.plainInterpreter fun _ => layoutScript) true .all Config.oneFile =
        .ok (config, sent) := ⟨_, _, rfl⟩
  have h₀ : Machine.Reachable (system (Config.plainInterpreter fun _ => layoutScript) true)
      ⟨config, .new, []⟩ := .init ⟨_, _, _, hnew, rfl, rfl⟩
  cases hnew
  have h₁ := h₀.next (.event (W := .quiet) (e := .connectorConnected "eDP-1" ⟨1920, 1080⟩)
    (fun _ => by simp) rfl)
  have h₂ := h₁.next (@Step.turn _ _ _ _ .all .idle _ _ _ trivial rfl)
  have h₃ := h₂.next (.message (W := .quiet) rfl rfl)
  obtain ⟨hactive, -, hrender, -⟩ := nothing_shown h₃ RenderState.lockWorld
    ⟨_, RenderState.hiddenCursor, none, false, [], []⟩ rfl
  exact ⟨_, h₃, by decide, rfl, rfl, by decide, hactive State.panel, hrender State.panel⟩

end Desk

end Scape.Display
