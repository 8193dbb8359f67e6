import Scape.Input.Devices

/-!
# The LEDs of the keyboards

A keyboard that is plugged in is told the state of the LEDs, and from then on every change of
it, as all the others are. So whatever order keys, devices and messages come in, each keyboard
that is there shows the state that the module has, and nothing is sent to one that is gone.

A pointer, a touch screen or a tablet ends the thread with the first thing that it does. So
does a message that nobody is left to receive.
-/

namespace Scape.Input

open Scape Fallible

variable {X : Xkb} {st : InputState X}

@[simp] theorem ledsSent_append (es es' : List (Effect X)) :
    ledsSent (es ++ es') = ledsSent es ++ ledsSent es' := List.filterMap_append

@[simp] theorem ledsSent_send (e : Envelope) : ledsSent [(.send e : Effect X)] = [] := rfl

/-- The events that are not still to be done. -/
def InputEvent.Handled : InputEvent → Prop
  | .deviceAdded _ | .deviceRemoved _ | .keyboard _ => True
  | _ => False

def SeatEvent.Handled : SeatEvent → Prop
  | .input _ event => event.Handled
  | .message _ _ _ => True

def SeatEvent.peers : SeatEvent → Peers
  | .input peers _ => peers
  | .message peers _ _ => peers

/-- There is a thread left for the message: its own, or the main one that is asked to shut
down. -/
def Received (peers : Peers) (e : Envelope) : Prop :=
  peers.main = true ∨ ∃ m, e.module = some m ∧ peers.module m = true

theorem succeeds_deliver_iff {peers : Peers} {effects : List (Effect X)} :
    Succeeds (deliver peers effects) ↔ ∀ e ∈ messagesSent effects, Received peers e := by
  rw [deliver, succeeds_forM]
  refine forall₂_congr fun e _ => ?_
  have hsend : Comms.send peers e ≠ none ↔ Received peers e := by
    rw [ne_eq, Comms.send_eq_none_iff, Received]
    simp only [not_and_or, Bool.not_eq_false, not_forall, exists_prop]
  rw [succeeds_expect_bind, ← hsend, Option.ne_none_iff_exists']
  exact exists_congr fun _ => and_iff_left succeeds_pure

theorem succeeds_deliver_pure_iff {peers : Peers} {effects : List (Effect X)} {t : Seat X} :
    Succeeds (do deliver peers effects; return t) ↔
      ∀ e ∈ messagesSent effects, Received peers e := by
  rw [← succeeds_deliver_iff]
  exact succeeds_bind.trans (exists_congr fun _ => and_iff_left succeeds_pure)

namespace InputState

theorem ledsSent_ledUpdates (ks : KeyboardState X) :
    ledsSent (st.ledUpdates ks) =
      if ks.ledState = st.keyboardState.ledState then []
      else st.keyboards.map fun keyboard => (keyboard, ks.ledState) := by
  unfold ledUpdates
  split
  · rfl
  · rw [ledsSent, List.filterMap_map]
    exact List.filterMap_eq_map'.symm ▸ rfl

/-- Of the keyboards a key event changes nothing, and it tells them of the LEDs. -/
theorem handleKeyboardEvent_leds (event : KeyEvent) :
    (st.handleKeyboardEvent event).1.keyboards = st.keyboards ∧
    (st.handleKeyboardEvent event).1.keyboardState = (st.keyboardState.update event).1 ∧
    ledsSent (st.handleKeyboardEvent event).2 =
      ledsSent (st.ledUpdates (st.keyboardState.update event).1) := by
  cases h : st.shortcut event with
  | some callback =>
      simp only [shortcut, modifiersOf, keysymOf] at h
      simp only [handleKeyboardEvent, keyboardShortcut, h, ledsSent_append, ledsSent_send,
        List.append_nil]
      split <;> simp
  | none =>
      simp only [shortcut, modifiersOf, keysymOf] at h
      simp only [handleKeyboardEvent, keyboardShortcut, h]
      split <;> split <;> simp only [ledsSent_append, ledsSent_send, List.append_nil, and_self]

/-- A message has to do with neither. -/
theorem handleMessage_leds (opened : Option Nat) (message : InputMessage) :
    (st.handleMessage opened message).1.keyboards = st.keyboards ∧
    (st.handleMessage opened message).1.keyboardState = st.keyboardState ∧
    ledsSent (st.handleMessage opened message).2 = [] := by
  cases message with
  | shutdown => exact ⟨rfl, rfl, rfl⟩
  | openFileInSessionForRenderer path =>
      cases opened <;> exact ⟨rfl, rfl, rfl⟩
  | keymap keyName mods callback =>
      show (st.keymap keyName mods callback).1.keyboards = _ ∧
        (st.keymap keyName mods callback).1.keyboardState = _ ∧
        ledsSent (st.keymap keyName mods callback).2 = []
      unfold keymap
      split
      · exact ⟨rfl, rfl, rfl⟩
      next mods key _ =>
        refine ⟨rfl, rfl, ?_⟩
        show ledsSent ((st.keymaps.bind mods key callback).2.toList.map _) = []
        cases (st.keymaps.bind mods key callback).2 <;> rfl

end InputState

namespace Seat

variable {s t : Seat X} {e : SeatEvent}

/-- Where all updates show the same, those that get one show it. -/
theorem foldl_update {L : Type} {v : L} {updates : List (Nat × L)}
    (h : ∀ update ∈ updates, update.2 = v) (leds : Nat → Option L) (k : Nat) :
    updates.foldl (fun (leds : Nat → Option L) update =>
        Function.update leds update.1 (some update.2)) leds k =
      if k ∈ updates.map Prod.fst then some v else leds k := by
  induction updates generalizing leds with
  | nil => simp
  | cons update updates ih =>
      obtain ⟨hfirst, hrest⟩ := List.forall_mem_cons.mp h
      rw [List.foldl_cons, ih hrest, List.map_cons, hfirst]
      by_cases hk : k ∈ updates.map Prod.fst
      · simp [hk]
      · by_cases he : k = update.1
        · subst he
          simp
        · simp [hk, he]

/-- The keyboards that the module knows are those that are there, and each shows what the
module has. -/
structure Lit (s : Seat X) : Prop where
  ids : (s.plugged.map Device.id).Nodup
  keyboards : ∀ k, k ∈ s.input.keyboards ↔
    ∃ device ∈ s.plugged, device.keyboard = true ∧ device.id = k
  leds : ∀ k ∈ s.input.keyboards, s.leds k = some s.input.keyboardState.ledState

/-- What leaves the keyboards alone and tells them nothing. -/
theorem Lit.keep (h : s.Lit) {input : InputState X} {effects : List (Effect X)}
    (hkeyboards : input.keyboards = s.input.keyboards)
    (hstate : input.keyboardState = s.input.keyboardState) (hsent : ledsSent effects = []) :
    Lit ⟨input, s.plugged, light s.leds effects⟩ := by
  refine ⟨h.ids, fun k => ?_, fun k hk => ?_⟩
  · show k ∈ input.keyboards ↔ _
    rw [hkeyboards]
    exact h.keyboards k
  · rw [light, hsent, hstate]
    exact h.leds k (hkeyboards ▸ hk)

theorem Lit.key (h : s.Lit) (event : KeyEvent) :
    Lit ⟨(s.input.handleKeyboardEvent event).1, s.plugged,
      light s.leds (s.input.handleKeyboardEvent event).2⟩ := by
  obtain ⟨hkeyboards, hstate, hsent⟩ := s.input.handleKeyboardEvent_leds event
  refine ⟨h.ids, fun k => ?_, fun k hk => ?_⟩
  · show k ∈ (s.input.handleKeyboardEvent event).1.keyboards ↔ _
    rw [hkeyboards]
    exact h.keyboards k
  · dsimp only at hk ⊢
    rw [hkeyboards] at hk
    rw [light, hsent, hstate, InputState.ledsSent_ledUpdates]
    split
    next hsame =>
      rw [List.foldl_nil, hsame]
      exact h.leds k hk
    next =>
      rw [foldl_update (v := (s.input.keyboardState.update event).1.ledState) (by simp),
        if_pos (by simpa using hk)]

theorem Lit.added (h : s.Lit) {device : Device} (hnew : ∀ other ∈ s.plugged, other.id ≠ device.id)
    {peers : Peers} (hstep : s.step (.input peers (.deviceAdded device)) = .ok t) : t.Lit := by
  have hids : ((device :: s.plugged).map Device.id).Nodup := by
    refine List.nodup_cons.mpr ⟨fun hmem => ?_, h.ids⟩
    obtain ⟨other, hother, he⟩ := List.mem_map.mp hmem
    exact hnew other hother he
  cases hkeyboard : device.keyboard with
  | true =>
      simp only [step, InputState.handleInputEvent, hkeyboard, if_true] at hstep
      cases hstep
      refine ⟨hids, fun k => ?_, fun k hk => ?_⟩
      · show k ∈ s.input.keyboards ++ [device.id] ↔ ∃ other ∈ device :: s.plugged, _
        rw [List.mem_append, List.mem_singleton, h.keyboards k, List.exists_mem_cons_iff]
        rw [or_comm, hkeyboard]
        simp only [true_and, eq_comm]
      · show Function.update s.leds device.id _ k = _
        by_cases he : k = device.id
        · subst he
          exact Function.update_self ..
        · rw [Function.update_of_ne he]
          exact h.leds k ((List.mem_append.mp hk).resolve_right (by simpa using he))
  | false =>
      simp only [step, InputState.handleInputEvent, hkeyboard] at hstep
      cases hstep
      refine ⟨hids, fun k => ?_, h.leds⟩
      show k ∈ s.input.keyboards ↔ ∃ other ∈ device :: s.plugged, _
      rw [h.keyboards k, List.exists_mem_cons_iff, hkeyboard]
      simp

theorem Lit.removed (h : s.Lit) {device : Device} (hin : device ∈ s.plugged)
    {peers : Peers} (hstep : s.step (.input peers (.deviceRemoved device)) = .ok t) :
    t.Lit := by
  have hids : ((s.plugged.erase device).map Device.id).Nodup :=
    h.ids.sublist (List.erase_sublist.map _)
  have hmem : ∀ other, other ∈ s.plugged.erase device ↔ other ≠ device ∧ other ∈ s.plugged :=
    fun other => (List.Nodup.of_map _ h.ids).mem_erase_iff
  cases hkeyboard : device.keyboard with
  | true =>
      simp only [step, InputState.handleInputEvent, hkeyboard, if_true] at hstep
      cases hstep
      refine ⟨hids, fun k => ?_, fun k hk => h.leds k (List.mem_filter.mp hk).1⟩
      show k ∈ s.input.keyboards.filter (· ≠ device.id) ↔ ∃ other ∈ s.plugged.erase device, _
      simp only [List.mem_filter, decide_eq_true_eq, h.keyboards k, hmem]
      constructor
      · intro hk
        obtain ⟨⟨other, hother, hboard, rfl⟩, hne⟩ := hk
        exact ⟨other, ⟨fun he => hne (he ▸ rfl), hother⟩, hboard, rfl⟩
      · intro hk
        obtain ⟨other, ⟨hne, hother⟩, hboard, rfl⟩ := hk
        refine ⟨⟨other, hother, hboard, rfl⟩, fun he => hne ?_⟩
        exact List.inj_on_of_nodup_map h.ids hother hin he
  | false =>
      simp only [step, InputState.handleInputEvent, hkeyboard] at hstep
      cases hstep
      refine ⟨hids, fun k => ?_, h.leds⟩
      show k ∈ s.input.keyboards ↔ ∃ other ∈ s.plugged.erase device, _
      rw [h.keyboards k]
      constructor
      · intro hk
        obtain ⟨other, hother, hboard, rfl⟩ := hk
        refine ⟨other, (hmem other).mpr ⟨?_, hother⟩, hboard, rfl⟩
        rintro rfl
        rw [hkeyboard] at hboard
        cases hboard
      · intro hk
        obtain ⟨other, hother, hrest⟩ := hk
        exact ⟨other, ((hmem other).mp hother).2, hrest⟩

theorem Lit.step (h : s.Lit) (hok : s.Plausible e) (hstep : s.step e = .ok t) : t.Lit := by
  cases e with
  | message peers opened message =>
      obtain ⟨hkeyboards, hstate, hsent⟩ := s.input.handleMessage_leds opened message
      obtain ⟨-, -, ht⟩ := bind_eq_ok_iff.mp hstep
      obtain rfl := Except.ok.inj ht
      exact h.keep hkeyboards hstate hsent
  | input peers event =>
      cases event with
      | deviceAdded device => exact h.added hok hstep
      | deviceRemoved device => exact h.removed hok hstep
      | keyboard event =>
          obtain ⟨done, hevent, hrest⟩ := bind_eq_ok_iff.mp hstep
          cases hevent
          obtain ⟨-, -, ht⟩ := bind_eq_ok_iff.mp hrest
          obtain rfl := Except.ok.inj ht
          exact h.key event
      | _ => cases hstep

/-- An update goes to a keyboard that is plugged in when it is sent. -/
theorem Lit.sent (h : s.Lit) {event : InputEvent} {input : InputState X}
    {effects : List (Effect X)} (hevent : s.input.handleInputEvent event = .ok (input, effects))
    {update : Nat × X.LedState} (hupdate : update ∈ ledsSent effects) :
    ∃ device ∈ plug s.plugged event, device.keyboard = true ∧ device.id = update.1 := by
  cases event with
  | deviceAdded device =>
      simp only [InputState.handleInputEvent] at hevent
      split at hevent
      next hkeyboard =>
        cases hevent
        obtain rfl := List.mem_singleton.mp hupdate
        exact ⟨device, List.mem_cons_self, hkeyboard, rfl⟩
      next =>
        cases hevent
        cases hupdate
  | deviceRemoved device =>
      simp only [InputState.handleInputEvent] at hevent
      split at hevent <;> cases hevent <;> cases hupdate
  | keyboard event =>
      obtain rfl : (s.input.handleKeyboardEvent event).2 = effects :=
        congrArg Prod.snd (Except.ok.inj hevent)
      obtain ⟨-, -, hsent⟩ := s.input.handleKeyboardEvent_leds event
      rw [hsent, InputState.ledsSent_ledUpdates] at hupdate
      split at hupdate
      · cases hupdate
      · obtain ⟨k, hk, rfl⟩ := List.mem_map.mp hupdate
        exact (h.keyboards k).mp hk
  | _ => cases hevent

/-- What the module sends at an event. -/
def sends (s : Seat X) : SeatEvent → List Envelope
  | .input _ (.keyboard event) => messagesSent (s.input.handleKeyboardEvent event).2
  | .input _ _ => []
  | .message _ opened message => messagesSent (s.input.handleMessage opened message).2

theorem succeeds_step_iff (s : Seat X) (e : SeatEvent) :
    Succeeds (s.step e) ↔ e.Handled ∧ ∀ envelope ∈ s.sends e, Received e.peers envelope := by
  cases e with
  | message peers opened message =>
      exact Iff.trans succeeds_deliver_pure_iff (and_iff_right trivial).symm
  | input peers event =>
      cases event with
      | keyboard event => exact Iff.trans succeeds_deliver_pure_iff (and_iff_right trivial).symm
      | deviceAdded device | deviceRemoved device =>
          refine iff_of_true ?_ ⟨trivial, fun envelope hmem => by cases hmem⟩
          simp only [step, InputState.handleInputEvent]
          split <;> exact succeeds_ok
      | _ => exact iff_of_false not_succeeds_error fun h => h.1

/-- In every run, each keyboard that is plugged in shows the LEDs as the module has them, none
that is gone is told anything, and the thread gets through an event exactly if it is not still
to be done and somebody is left for what it makes the module send. -/
theorem leds_shown (h : Machine.ReachableUnder (system (X := X)) Plausible s) :
    (∀ device ∈ s.plugged, device.keyboard = true →
      s.leds device.id = some s.input.keyboardState.ledState) ∧
    (∀ event input effects, s.input.handleInputEvent event = .ok (input, effects) →
      ∀ update ∈ ledsSent effects,
        ∃ device ∈ plug s.plugged event, device.keyboard = true ∧ device.id = update.1) ∧
    ∀ e, Succeeds (s.step e) ↔
      e.Handled ∧ ∀ envelope ∈ s.sends e, Received e.peers envelope := by
  have hlit : s.Lit := by
    refine h.invariant (fun s hinit => ?_) fun s e t hs hok hstep => hs.step hok hstep
    obtain ⟨xkbState, rfl⟩ := hinit
    exact ⟨List.nodup_nil, fun k => by simp [new, InputState.new],
      fun k hk => absurd hk List.not_mem_nil⟩
  refine ⟨fun device hin hkeyboard => ?_, fun _ _ _ hevent _ => hlit.sent hevent,
    s.succeeds_step_iff⟩
  exact hlit.leds _ ((hlit.keyboards _).mpr ⟨device, hin, hkeyboard, rfl⟩)

/-- A keyboard with nothing but a caps lock. -/
def capsLock : Xkb where
  State := Bool
  LedState := Bool
  tables :=
    { toLowercase := id, isUppercase := Char.isUpper
      toUppercase := fun c => [c.toUpper], fromChar := fun c => c.val }
  updateKey := fun locked _ direction =>
    if direction = .down then (!locked, 2) else (locked, 0)
  modifiers := fun _ => {}
  leds := id
  keyGetOneSym := fun _ _ => 0xffe5

/-- A keyboard is plugged in, its caps lock is struck, and a second one comes before the first
one goes. The next key ends the thread if the display thread is gone, and the main thread. -/
theorem leds_shown_capsLock :
    ∃ s : Seat capsLock, Machine.ReachableUnder system Plausible s ∧
      s.plugged = [⟨2, true⟩] ∧ s.leds 2 = some true ∧
      ¬ Succeeds (s.step (.input ⟨false, fun _ => false⟩ (.keyboard ⟨66, .released, 0⟩))) := by
  have h₀ : Machine.ReachableUnder (system (X := capsLock)) Plausible (new false) :=
    .init ⟨false, rfl⟩
  have h₁ := h₀.step (i := SeatEvent.input .all (.deviceAdded ⟨1, true⟩)) (fun _ => by simp [new])
    rfl
  have h₂ := h₁.step (i := SeatEvent.input .all (.keyboard ⟨66, .pressed, 0⟩)) trivial rfl
  have h₃ := h₂.step (i := SeatEvent.input .all (.deviceAdded ⟨2, true⟩))
    (fun other hmem => by obtain rfl := List.mem_singleton.mp hmem; decide) rfl
  have h := h₃.step (i := SeatEvent.input .all (.deviceRemoved ⟨1, true⟩))
    (List.mem_cons_of_mem _ List.mem_cons_self) rfl
  obtain ⟨hleds, -, hsteps⟩ := leds_shown h
  refine ⟨_, h, rfl, hleds ⟨2, true⟩ (by decide) rfl, fun hsucceeds => ?_⟩
  rcases ((hsteps _).mp hsucceeds).2 _ List.mem_cons_self with hmain | ⟨m, -, hm⟩
  · cases hmain
  · cases hm

end Seat

end Scape.Input
