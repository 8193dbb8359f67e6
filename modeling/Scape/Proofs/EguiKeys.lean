import Scape.Display.Egui
import Mathlib.Data.Finset.Dedup

/-!
# No key of the debug UI is left down

Three things are to agree on what is down: the list of pressed keys, the events egui has
been sent, and the state of xkbcommon. The handlers see one key at a time, and each of them
tells egui and xkbcommon the same of it. So what is in the list is enough to let go of
everything, if nothing else is down.

The list has keycodes. egui only has keys, which several keycodes may share: letting go of
one of them lets go of the key, and the entry of the other stays. The other way round a
key that egui has as pressed always has an entry.
-/

namespace Scape.Display.Egui

open Scape Scape.Input Machine

variable {K : KbdInternal}

/-! ## What the seat does -/

inductive KeyboardCall where
  | enter (keys : List KeysymHandle)
  | leave
  | key (handle : KeysymHandle) (state : KeyState)
  | modifiers (modifiers : ModifiersState)
  | render
  deriving DecidableEq, Repr

/-- The keys that a call hands over. -/
def KeyboardCall.handles : KeyboardCall → List KeysymHandle
  | .enter keys => keys
  | .key handle _ => [handle]
  | _ => []

/-- The focus of a seat: elsewhere, or here with some keys down. -/
inductive Seat where
  | away
  | entered (down : Finset Keycode)
  deriving DecidableEq

/-- The calls a seat makes. The focus comes and leaves in turn, no key is held twice, and a
key is pressed only when it is up. -/
def Seat.next : Seat → KeyboardCall → Option Seat
  | .away, .enter keys =>
      if (keys.map KeysymHandle.rawCode).Nodup then
        some (.entered (keys.map KeysymHandle.rawCode).toFinset)
      else none
  | .entered _, .leave => some .away
  | .entered down, .key handle .pressed =>
      if handle.rawCode ∈ down then none else some (.entered (insert handle.rawCode down))
  | .entered down, .key handle .released => some (.entered (down.erase handle.rawCode))
  | seat, .modifiers _ => some seat
  | seat, .render => some seat
  | _, _ => none

/-- The keycodes that are down, as far as they concern the surface. -/
def Seat.down : Seat → Finset Keycode
  | .away => ∅
  | .entered down => down

/-- An `EguiState`, with the events that earlier frames have taken from it. -/
structure Session (K : KbdInternal) where
  inner : EguiInner K
  taken : List Event

namespace Session

def new (K : KbdInternal) : Session K := ⟨EguiInner.new K, []⟩

def step (s : Session K) : KeyboardCall → Session K
  | .enter keys => { s with inner := s.inner.enter keys }
  | .leave => { s with inner := s.inner.leave }
  | .key handle state => { s with inner := s.inner.key handle state }
  | .modifiers modifiers => { s with inner := s.inner.modifiers modifiers }
  | .render => ⟨s.inner.render.1, s.taken ++ s.inner.render.2.events⟩

/-- All events there have been. -/
def reported (s : Session K) : List Event := s.taken ++ s.inner.events

end Session

/-- What an event says of a key. -/
def Event.reports (key : Key) : Event → Option Bool
  | .key key' _ pressed _ _ => if key' = key then some pressed else none
  | .text _ => none

/-- The last that was said of a key. -/
def lastReported (key : Key) (events : List Event) : Option Bool :=
  (events.filterMap (Event.reports key)).getLast?

/-- xkbcommon counts a key down and up, and no other with it. -/
structure KbdInternal.CountsKeys (K : KbdInternal) : Prop where
  new : ∀ kbd, K.new = some kbd → ∀ code, K.held kbd code = 0
  down : ∀ kbd code code', K.held (K.updateKey kbd code .down) code' =
    K.held kbd code' + if code' = code then 1 else 0
  up : ∀ kbd code code', K.held (K.updateKey kbd code .up) code' =
    K.held kbd code' - if code' = code then 1 else 0

variable {syms : Keycode → List Keysym} {taken : List Event} {inner inner' : EguiInner K}
  {entries : List (Option Key × Keycode)} {key : Key} {code : Keycode} {pressed : Bool}

theorem lastReported_append (key : Key) (events events' : List Event) :
    lastReported key (events ++ events') =
      (lastReported key events').or (lastReported key events) := by
  rw [lastReported, List.filterMap_append, List.getLast?_append, lastReported, lastReported]

/-! ## What the handlers tell of a key -/

/-- egui and xkbcommon are told that a keycode goes down or up. -/
structure Tells (syms : Keycode → List Keysym) (code : Keycode) (pressed : Bool)
    (inner inner' : EguiInner K) : Prop where
  events : ∃ events, inner'.events = inner.events ++ events ∧
    ∀ key, lastReported key events =
      if convertKey (syms code) = some key then some pressed else none
  kbd : inner'.kbd = inner.kbd.map fun kbd => keyInput kbd code pressed

theorem pushKey_events (key' : Option Key) (modifiers : Modifiers) :
    ∃ events, (inner.pushKey key' pressed modifiers).events = inner.events ++ events ∧
      ∀ key, lastReported key events = if key' = some key then some pressed else none := by
  cases key' with
  | none => exact ⟨[], (List.append_nil _).symm, fun key => rfl⟩
  | some key' =>
      refine ⟨_, rfl, fun key => ?_⟩
      rw [lastReported, List.filterMap_cons, Event.reports]
      by_cases hkey : key' = key
      · rw [if_pos hkey, if_pos (congrArg some hkey)]
        rfl
      · rw [if_neg hkey, if_neg fun h => hkey (Option.some.inj h)]
        rfl

theorem enterKey_tells {handle : KeysymHandle} (h : handle.rawSyms = syms handle.rawCode) :
    Tells syms handle.rawCode true inner (inner.enterKey handle) := by
  constructor
  case events =>
    rw [← h]
    exact pushKey_events ..
  case kbd =>
    show Option.map _ (EguiInner.pushKey ..).kbd = _
    rw [EguiInner.pushKey_kbd]

theorem leaveKey_tells {entry : Option Key × Keycode}
    (h : entry.1 = convertKey (syms entry.2)) :
    Tells syms entry.2 false inner (inner.leaveKey entry) := by
  constructor
  case events =>
    rw [← h]
    exact pushKey_events ..
  case kbd =>
    show Option.map _ (EguiInner.pushKey ..).kbd = _
    rw [EguiInner.pushKey_kbd]

/-- The text of a key says nothing of a key. -/
theorem typeKey_events (inner : EguiInner K) (code : Keycode) (pressed : Bool) :
    ∃ events, (inner.typeKey code pressed).events = inner.events ++ events ∧
      ∀ key, lastReported key events = none := by
  unfold EguiInner.typeKey
  split
  next kbd hkbd =>
    cases pressed with
    | false => exact ⟨[], (List.append_nil _).symm, fun key => rfl⟩
    | true => exact ⟨_, rfl, fun key => rfl⟩
  next => exact ⟨[], (List.append_nil _).symm, fun key => rfl⟩

theorem handleKeyboard_tells {handle : KeysymHandle} {modifiers : ModifiersState}
    (h : handle.rawSyms = syms handle.rawCode) :
    Tells syms handle.rawCode pressed inner (inner.handleKeyboard handle pressed modifiers) := by
  let base : EguiInner K := { inner with lastModifiers := modifiers }
  let key := convertKey (syms handle.rawCode)
  obtain ⟨events, hevents, hlast⟩ : ∃ events,
      (base.pushKey key pressed (convertModifiers modifiers)).events = inner.events ++ events ∧
        ∀ key', lastReported key' events = if key = some key' then some pressed else none :=
    pushKey_events key (convertModifiers modifiers)
  rw [EguiInner.handleKeyboard, h]
  constructor
  case events =>
    obtain ⟨text, htext, hnone⟩ := typeKey_events (if pressed then
        { base.pushKey key pressed (convertModifiers modifiers) with pressed := _ }
      else { base.pushKey key pressed (convertModifiers modifiers) with pressed := _ })
      handle.rawCode pressed
    refine ⟨events ++ text, htext.trans ?_, fun key' => ?_⟩
    · rw [← List.append_assoc, ← hevents]
      cases pressed <;> rfl
    · rw [lastReported_append, hnone, hlast]
      rfl
  case kbd =>
    rw [EguiInner.typeKey_kbd]
    cases pressed
    · exact congrArg _ (EguiInner.pushKey_kbd ..)
    · exact congrArg _ (EguiInner.pushKey_kbd ..)

theorem handleKeyboard_pressed {handle : KeysymHandle} {modifiers : ModifiersState} :
    (inner.handleKeyboard handle pressed modifiers).pressed =
      if pressed then inner.pressed ++ [(convertKey handle.rawSyms, handle.rawCode)]
      else inner.pressed.filter fun entry => entry.2 ≠ handle.rawCode := by
  rw [EguiInner.handleKeyboard, EguiInner.typeKey_pressed]
  cases pressed <;> simp

/-! ## What is down -/

/-- Of the entries of a list each is of the key that egui has for its keycode. What
xkbcommon has as down is among them, and what egui has as pressed. -/
structure Listed (syms : Keycode → List Keysym) (taken : List Event)
    (entries : List (Option Key × Keycode)) (inner : EguiInner K) : Prop where
  keys : ∀ entry ∈ entries, entry.1 = convertKey (syms entry.2)
  held : ∀ kbd, inner.kbd = some kbd → ∀ code,
    K.held kbd code ≤ (entries.map Prod.snd).count code
  reported : ∀ key, lastReported key (taken ++ inner.events) = some true →
    ∃ code, (some key, code) ∈ entries

/-- What was last said of a key, once a handler has told of a keycode. -/
theorem Tells.lastReported_eq (h : Tells syms code pressed inner inner') (key : Key) :
    lastReported key (taken ++ inner'.events) =
      if convertKey (syms code) = some key then some pressed
      else lastReported key (taken ++ inner.events) := by
  obtain ⟨events, hevents, hlast⟩ := h.events
  rw [hevents, ← List.append_assoc, lastReported_append, hlast]
  split <;> rfl

theorem Tells.held (h : Tells syms code pressed inner inner') {kbd' : K.State}
    (hkbd : inner'.kbd = some kbd') :
    ∃ kbd, inner.kbd = some kbd ∧ kbd' = keyInput kbd code pressed := by
  rw [h.kbd, Option.map_eq_some_iff] at hkbd
  obtain ⟨kbd, hkbd, rfl⟩ := hkbd
  exact ⟨kbd, hkbd, rfl⟩

variable (hK : K.CountsKeys)

include hK in
/-- A keycode that goes down gets an entry. -/
theorem Listed.press (h : Listed syms taken entries inner)
    (htells : Tells syms code true inner inner') :
    Listed syms taken (entries ++ [(convertKey (syms code), code)]) inner' := by
  constructor
  case keys =>
    intro entry hentry
    rcases List.mem_append.mp hentry with hold | hnew
    · exact h.keys entry hold
    · rw [List.mem_singleton.mp hnew]
  case held =>
    intro kbd' hkbd' code'
    obtain ⟨kbd, hkbd, rfl⟩ := htells.held hkbd'
    have hle := h.held kbd hkbd code'
    rw [List.map_append, List.count_append]
    show K.held (K.updateKey kbd code .down) code' ≤ _ + List.count code' [code]
    rw [hK.down, List.count_singleton]
    by_cases hcode : code' = code
    · rw [if_pos hcode, if_pos (by rw [hcode, beq_self_eq_true])]
      omega
    · rw [if_neg hcode]
      omega
  case reported =>
    intro key hkey
    rw [htells.lastReported_eq] at hkey
    split at hkey
    next hnew =>
      exact ⟨code, List.mem_append_right _ (by rw [hnew]; exact List.mem_singleton_self _)⟩
    next =>
      obtain ⟨code', hmem⟩ := h.reported key hkey
      exact ⟨code', List.mem_append_left _ hmem⟩

include hK in
/-- A keycode that goes up takes its only entry with it. -/
theorem Listed.release {entries' : List (Option Key × Keycode)}
    (h : Listed syms taken entries inner) (htells : Tells syms code false inner inner')
    (hsub : ∀ entry ∈ entries', entry ∈ entries)
    (hothers : ∀ entry ∈ entries, entry.2 ≠ code → entry ∈ entries')
    (hcount : ∀ code', (entries.map Prod.snd).count code' ≤
      (entries'.map Prod.snd).count code' + if code' = code then 1 else 0) :
    Listed syms taken entries' inner' := by
  constructor
  case keys => exact fun entry hentry => h.keys entry (hsub entry hentry)
  case held =>
    intro kbd' hkbd' code'
    obtain ⟨kbd, hkbd, rfl⟩ := htells.held hkbd'
    have hle := h.held kbd hkbd code'
    have hentries := hcount code'
    show K.held (K.updateKey kbd code .up) code' ≤ _
    rw [hK.up]
    omega
  case reported =>
    intro key hkey
    rw [htells.lastReported_eq] at hkey
    split at hkey
    next => cases hkey
    next hother =>
      obtain ⟨code', hmem⟩ := h.reported key hkey
      refine ⟨code', hothers _ hmem fun hcode => hother ?_⟩
      have hkeys : some key = convertKey (syms code') := h.keys _ hmem
      rw [hkeys, ← hcode]

/-- The entry of a key. -/
def entryOf (syms : Keycode → List Keysym) (handle : KeysymHandle) : Option Key × Keycode :=
  (convertKey (syms handle.rawCode), handle.rawCode)

theorem map_entryOf (syms : Keycode → List Keysym) (keys : List KeysymHandle) :
    (keys.map (entryOf syms)).map Prod.snd = keys.map KeysymHandle.rawCode := by
  rw [List.map_map]
  rfl

include hK in
theorem Listed.enterKeys {keys : List KeysymHandle}
    (hsyms : ∀ handle ∈ keys, handle.rawSyms = syms handle.rawCode) :
    ∀ {entries : List (Option Key × Keycode)} {inner : EguiInner K},
      Listed syms taken entries inner →
        Listed syms taken (entries ++ keys.map (entryOf syms))
          (keys.foldl EguiInner.enterKey inner) ∧
        (keys.foldl EguiInner.enterKey inner).pressed =
          inner.pressed ++ keys.map (entryOf syms) := by
  induction keys with
  | nil =>
      intro entries inner h
      rw [List.map_nil, List.append_nil, List.append_nil]
      exact ⟨h, rfl⟩
  | cons handle keys ih =>
      intro entries inner h
      obtain ⟨hhandle, hkeys⟩ := List.forall_mem_cons.mp hsyms
      obtain ⟨hlisted, hpressed⟩ := ih hkeys (h.press hK (enterKey_tells hhandle))
      have hfirst : (inner.enterKey handle).pressed = inner.pressed ++ [entryOf syms handle] := by
        show (EguiInner.pushKey ..).pressed ++ [(convertKey handle.rawSyms, _)] = _
        rw [EguiInner.pushKey_pressed, hhandle]
        rfl
      rw [List.foldl_cons, List.map_cons, List.append_cons entries,
        List.append_cons inner.pressed]
      rw [hfirst] at hpressed
      exact ⟨hlisted, hpressed⟩

include hK in
theorem Listed.leaveKeys :
    ∀ {inner : EguiInner K}, Listed syms taken entries inner →
      Listed syms taken [] (entries.foldl EguiInner.leaveKey inner) ∧
        (entries.foldl EguiInner.leaveKey inner).pressed = inner.pressed := by
  induction entries with
  | nil => exact fun h => ⟨h, rfl⟩
  | cons entry entries ih =>
      intro inner h
      have hentry := h.keys entry List.mem_cons_self
      have hrest : Listed syms taken entries (inner.leaveKey entry) := by
        refine h.release hK (leaveKey_tells hentry) (fun _ => List.mem_cons_of_mem _) ?_ ?_
        · intro other hother hcode
          rcases List.mem_cons.mp hother with rfl | hmem
          · exact absurd rfl hcode
          · exact hmem
        · intro code'
          rw [List.map_cons, List.count_cons]
          by_cases hcode : code' = entry.2
          · rw [if_pos hcode, if_pos (by rw [hcode, beq_self_eq_true])]
          · rw [if_neg hcode, if_neg fun h => hcode (eq_of_beq h).symm]
      obtain ⟨hlisted, hpressed⟩ := ih hrest
      refine ⟨hlisted, hpressed.trans ?_⟩
      exact EguiInner.pushKey_pressed ..

/-! ## Runs -/

/-- What the list, egui and xkbcommon have as down is what the seat has. -/
structure Balanced (syms : Keycode → List Keysym) (seat : Seat) (s : Session K) : Prop where
  nodup : (s.inner.pressed.map Prod.snd).Nodup
  down : ∀ code, code ∈ s.inner.pressed.map Prod.snd ↔ code ∈ seat.down
  listed : Listed syms s.taken s.inner.pressed s.inner

theorem Balanced.of_pressed {seat : Seat} (hpressed : inner.pressed = entries)
    (hnodup : (entries.map Prod.snd).Nodup)
    (hdown : ∀ code, code ∈ entries.map Prod.snd ↔ code ∈ seat.down)
    (hlisted : Listed syms taken entries inner) : Balanced syms seat ⟨inner, taken⟩ := by
  subst hpressed
  exact ⟨hnodup, hdown, hlisted⟩

theorem Seat.next_cases {seat seat' : Seat} {call : KeyboardCall}
    (h : seat.next call = some seat') :
    (∃ keys, call = .enter keys ∧ seat = .away ∧ (keys.map KeysymHandle.rawCode).Nodup ∧
      seat' = .entered (keys.map KeysymHandle.rawCode).toFinset) ∨
    (call = .leave ∧ seat' = .away) ∨
    (∃ handle, call = .key handle .pressed ∧ handle.rawCode ∉ seat.down ∧
      seat' = .entered (insert handle.rawCode seat.down)) ∨
    (∃ handle, call = .key handle .released ∧
      seat' = .entered (seat.down.erase handle.rawCode)) ∨
    ((call = .render ∨ ∃ modifiers, call = .modifiers modifiers) ∧ seat' = seat) := by
  cases call with
  | enter keys =>
      cases seat with
      | away =>
          have hnext : (if (keys.map KeysymHandle.rawCode).Nodup then
              some (.entered (keys.map KeysymHandle.rawCode).toFinset) else none) =
            some seat' := h
          split at hnext
          next hnodup =>
            cases hnext
            exact .inl ⟨keys, rfl, rfl, hnodup, rfl⟩
          next => cases hnext
      | entered down => cases h
  | leave =>
      cases seat with
      | away => cases h
      | entered down =>
          cases h
          exact .inr (.inl ⟨rfl, rfl⟩)
  | key handle state =>
      cases seat with
      | away => cases state <;> cases h
      | entered down =>
          cases state with
          | pressed =>
              have hnext : (if handle.rawCode ∈ down then none
                else some (.entered (insert handle.rawCode down))) = some seat' := h
              split at hnext
              next => cases hnext
              next hup =>
                cases hnext
                exact .inr (.inr (.inl ⟨handle, rfl, hup, rfl⟩))
          | released =>
              cases h
              exact .inr (.inr (.inr (.inl ⟨handle, rfl, rfl⟩)))
  | modifiers modifiers =>
      cases seat <;> cases h <;> exact .inr (.inr (.inr (.inr ⟨.inr ⟨modifiers, rfl⟩, rfl⟩)))
  | render => cases seat <;> cases h <;> exact .inr (.inr (.inr (.inr ⟨.inl rfl, rfl⟩)))

include hK in
theorem balanced_new (syms : Keycode → List Keysym) : Balanced syms .away (Session.new K) := by
  refine ⟨List.nodup_nil, fun code => Iff.rfl, ⟨fun _ h => (by cases h), ?_, ?_⟩⟩
  · intro kbd hkbd code
    exact Nat.le_of_eq (hK.new kbd hkbd code)
  · intro key hkey
    cases hkey

include hK in
theorem Balanced.enter {s : Session K} {keys : List KeysymHandle} (h : Balanced syms .away s)
    (hsyms : ∀ handle ∈ keys, handle.rawSyms = syms handle.rawCode)
    (hnodup : (keys.map KeysymHandle.rawCode).Nodup) :
    Balanced syms (.entered (keys.map KeysymHandle.rawCode).toFinset) (s.step (.enter keys)) := by
  have hempty : s.inner.pressed = [] :=
    List.map_eq_nil_iff.mp <| List.eq_nil_iff_forall_not_mem.mpr fun code hmem =>
      Finset.notMem_empty code ((h.down code).mp hmem)
  have hfocused : Listed syms s.taken [] { s.inner with focused := true } := by
    rw [← hempty]
    exact ⟨h.listed.keys, h.listed.held, h.listed.reported⟩
  obtain ⟨hlisted, hentries⟩ := hfocused.enterKeys hK hsyms
  have hpressed : (s.inner.enter keys).pressed = keys.map (entryOf syms) := by
    refine hentries.trans ?_
    show s.inner.pressed ++ _ = _
    rw [hempty, List.nil_append]
  refine .of_pressed hpressed ?_ (fun code => ?_) hlisted
  · rw [map_entryOf]
    exact hnodup
  · show _ ↔ code ∈ List.toFinset _
    rw [map_entryOf, List.mem_toFinset]

include hK in
theorem Balanced.leave {seat : Seat} {s : Session K} (h : Balanced syms seat s) :
    Balanced syms .away (s.step .leave) := by
  have hleft : Listed syms s.taken s.inner.pressed
      { s.inner with focused := false, pressed := [] } :=
    ⟨h.listed.keys, h.listed.held, h.listed.reported⟩
  obtain ⟨hlisted, hpressed⟩ := hleft.leaveKeys hK
  exact .of_pressed hpressed List.nodup_nil (fun code => Iff.rfl) hlisted

include hK in
theorem Balanced.press {seat : Seat} {s : Session K} {handle : KeysymHandle}
    (h : Balanced syms seat s) (hsyms : handle.rawSyms = syms handle.rawCode)
    (hup : handle.rawCode ∉ seat.down) :
    Balanced syms (.entered (insert handle.rawCode seat.down))
      (s.step (.key handle .pressed)) := by
  have htells : Tells syms handle.rawCode true s.inner (s.inner.key handle .pressed) :=
    handleKeyboard_tells hsyms
  have hpressed : (s.inner.key handle .pressed).pressed =
      s.inner.pressed ++ [entryOf syms handle] := by
    rw [EguiInner.key, handleKeyboard_pressed, hsyms]
    rfl
  refine .of_pressed hpressed ?_ (fun code => ?_) (h.listed.press hK htells)
  · rw [List.map_append]
    refine List.nodup_append.mpr ⟨h.nodup, List.nodup_singleton _, fun code hcode code' hnew => ?_⟩
    have hcode' : code' = handle.rawCode := List.mem_singleton.mp hnew
    rw [hcode']
    intro heq
    rw [heq] at hcode
    exact hup ((h.down _).mp hcode)
  · show _ ↔ code ∈ insert _ _
    rw [List.map_append, List.mem_append, h.down, Finset.mem_insert, or_comm]
    exact or_congr_left List.mem_singleton

include hK in
theorem Balanced.release {seat : Seat} {s : Session K} {handle : KeysymHandle}
    (h : Balanced syms seat s) (hsyms : handle.rawSyms = syms handle.rawCode) :
    Balanced syms (.entered (seat.down.erase handle.rawCode))
      (s.step (.key handle .released)) := by
  have htells : Tells syms handle.rawCode false s.inner (s.inner.key handle .released) :=
    handleKeyboard_tells hsyms
  have hpressed : (s.inner.key handle .released).pressed =
      s.inner.pressed.filter fun entry => entry.2 ≠ handle.rawCode := by
    rw [EguiInner.key, handleKeyboard_pressed]
    rfl
  have hcodes : (s.inner.pressed.filter fun entry => entry.2 ≠ handle.rawCode).map Prod.snd =
      (s.inner.pressed.map Prod.snd).filter fun code => code ≠ handle.rawCode := by
    rw [List.filter_map]
    rfl
  refine .of_pressed hpressed ?_ (fun code => ?_)
    (h.listed.release hK htells (fun _ hentry => (List.mem_filter.mp hentry).1) ?_ fun code => ?_)
  · rw [hcodes]
    exact h.nodup.filter _
  · show _ ↔ code ∈ Finset.erase _ _
    rw [hcodes, List.mem_filter, h.down, Finset.mem_erase, decide_eq_true_eq, and_comm]
  · intro entry hentry hcode
    exact List.mem_filter.mpr ⟨hentry, decide_eq_true hcode⟩
  · rw [hcodes]
    by_cases hcode : code = handle.rawCode
    · have hle := List.nodup_iff_count_le_one.mp h.nodup code
      rw [if_pos hcode]
      omega
    · have hkept : decide (code ≠ handle.rawCode) = true := decide_eq_true hcode
      rw [List.count_filter (p := fun code => decide (code ≠ handle.rawCode)) hkept]
      exact Nat.le_add_right _ _

include hK in
theorem balanced_step {seat seat' : Seat} {s : Session K} {call : KeyboardCall}
    (h : Balanced syms seat s)
    (hsyms : ∀ handle ∈ call.handles, handle.rawSyms = syms handle.rawCode)
    (hnext : seat.next call = some seat') : Balanced syms seat' (s.step call) := by
  rcases Seat.next_cases hnext with ⟨keys, rfl, rfl, hnodup, rfl⟩ | ⟨rfl, rfl⟩ |
    ⟨handle, rfl, hup, rfl⟩ | ⟨handle, rfl, rfl⟩ | ⟨hcall, rfl⟩
  · exact h.enter hK hsyms hnodup
  · exact h.leave hK
  · exact h.press hK (hsyms handle (List.mem_singleton_self _)) hup
  · exact h.release hK (hsyms handle (List.mem_singleton_self _))
  · rcases hcall with rfl | ⟨modifiers, rfl⟩
    · refine ⟨h.nodup, h.down, h.listed.keys, h.listed.held, fun key hkey => ?_⟩
      refine h.listed.reported key ?_
      rw [← hkey]
      show _ = lastReported key ((s.taken ++ s.inner.events) ++ [])
      rw [List.append_nil]
    · exact ⟨h.nodup, h.down, h.listed.keys, h.listed.held, h.listed.reported⟩

/-- Whatever calls a seat makes, each key that egui has as pressed and each keycode that
xkbcommon has as down is in the list, and while the focus is elsewhere there are none. -/
theorem keys_let_go (hK : K.CountsKeys) (syms : Keycode → List Keysym)
    {calls : List KeyboardCall} {seat : Seat}
    (hseat : follow Seat.next .away calls = some seat)
    (hsyms : ∀ call ∈ calls, ∀ handle ∈ call.handles, handle.rawSyms = syms handle.rawCode) :
    let s := calls.foldl Session.step (Session.new K)
    (∀ key, lastReported key s.reported = some true →
      ∃ code, (some key, code) ∈ s.inner.pressed) ∧
    (∀ kbd, s.inner.kbd = some kbd → ∀ code, 0 < K.held kbd code →
      ∃ key, (key, code) ∈ s.inner.pressed) ∧
    (seat = .away →
      (∀ key, lastReported key s.reported ≠ some true) ∧
      ∀ kbd, s.inner.kbd = some kbd → ∀ code, K.held kbd code = 0) := by
  intro s
  have hs : Balanced syms seat s :=
    follow_foldl (f := Session.step) (fun _ _ _ _ h hok hnext => balanced_step hK h hok hnext)
      (balanced_new hK syms) hsyms hseat
  have hheld : ∀ kbd, s.inner.kbd = some kbd → ∀ code, 0 < K.held kbd code →
      code ∈ s.inner.pressed.map Prod.snd := by
    intro kbd hkbd code hpos
    exact List.count_pos_iff.mp (Nat.lt_of_lt_of_le hpos (hs.listed.held kbd hkbd code))
  refine ⟨hs.listed.reported, fun kbd hkbd code hpos => ?_, fun haway => ?_⟩
  · obtain ⟨entry, hentry, rfl⟩ := List.mem_map.mp (hheld kbd hkbd code hpos)
    exact ⟨entry.1, hentry⟩
  · subst haway
    have hup : ∀ code, code ∉ s.inner.pressed.map Prod.snd :=
      fun code hmem => Finset.notMem_empty code ((hs.down code).mp hmem)
    constructor
    · intro key hkey
      obtain ⟨code, hmem⟩ := hs.listed.reported key hkey
      exact hup code (List.mem_map_of_mem hmem)
    · intro kbd hkbd code
      exact Nat.eq_zero_of_not_pos fun hpos => hup code (hheld kbd hkbd code hpos)

/-- The key A is held when the focus comes, and Shift from then on until it leaves. -/
theorem keys_let_go_shift :
    let K : KbdInternal := ⟨Keycode → Nat, some fun _ => 0,
      fun held code direction => Function.update held code
        (if direction = .down then held code + 1 else held code - 1), fun _ _ => "", id⟩
    let s := [KeyboardCall.enter [⟨38, [0x61]⟩], .key ⟨50, [0xffe1]⟩ .pressed, .render,
      .key ⟨38, [0x61]⟩ .released, .leave].foldl Session.step (Session.new K)
    (∀ key, lastReported key s.reported ≠ some true) ∧
      ∀ kbd, s.inner.kbd = some kbd → ∀ code, K.held kbd code = 0 := by
  intro K s
  have hK : K.CountsKeys := by
    constructor
    case new =>
      intro kbd hkbd code
      cases hkbd
      rfl
    case down =>
      intro kbd code code'
      show Function.update kbd code (kbd code + 1) code' = kbd code' + _
      by_cases hcode : code' = code
      · rw [hcode, Function.update_self, if_pos rfl]
      · rw [Function.update_of_ne hcode, if_neg hcode]
        rfl
    case up =>
      intro kbd code code'
      show Function.update kbd code (kbd code - 1) code' = kbd code' - _
      by_cases hcode : code' = code
      · rw [hcode, Function.update_self, if_pos rfl]
      · rw [Function.update_of_ne hcode, if_neg hcode]
        rfl
  have hseat : follow Seat.next .away [.enter [⟨38, [0x61]⟩], .key ⟨50, [0xffe1]⟩ .pressed, .render,
      .key ⟨38, [0x61]⟩ .released, .leave] = some .away := by decide
  exact (keys_let_go hK (fun code => if code = 38 then [0x61] else [0xffe1]) hseat
    (by decide)).2.2 rfl

end Scape.Display.Egui
