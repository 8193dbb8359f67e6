import Scape.Config.Link
import Mathlib.Tactic.Abel

/-!
# Who owns a callback

A registered callback has one owner at a time: the message that carries it to
the input thread, the binding it gets there, the message that brings it back, or
one of the config thread's hooks. This file keeps the book of it and shows what
each step of the pair does to the book.

A reference changes hands in four ways. Registration issues one, and because the
counter has not wrapped it is a new one. Handling `ForgetCallback`, and setting
`on_startup` again, give one back. Binding a key passes the new reference on to
the keymaps and the displaced one on to a message, which the book does not
notice. And two steps drop a reference without giving it back: setting
`on_connector_change` again, and rejecting the key name of a `Keymap` message.
`Leaks` names these two, and `Step.moves` is the account of all of them.
-/

namespace Scape.Config

open Scape Scape.Input Assoc Ledger

namespace Link

variable {M : Mlua} {X : Xkb} {I : Interpreter M} {overflowChecks : Bool}
  {s t : Link M X} {action : LinkAction}

/-! ## Numbering -/

/-- Every reference handed out so far is below the counter and handed out once,
and only these are registered. -/
structure Numbered (issued : List CallbackRef) (cs : CallbackState M) : Prop where
  below : ∀ r ∈ issued, r.callbackId < cs.callbackCounter
  nodup : issued.Nodup
  live : ∀ r ∈ cs.live, r ∈ issued

theorem Numbered.fresh {issued : List CallbackRef} {cs : CallbackState M}
    (h : Numbered issued cs) : ⟨cs.callbackCounter⟩ ∉ issued :=
  fun hmem => absurd (h.below _ hmem) (lt_irrefl _)

theorem Numbered.forget {issued : List CallbackRef} {cs : CallbackState M}
    (h : Numbered issued cs) (r : CallbackRef) : Numbered issued (cs.forgetCallback r) where
  below := h.below
  nodup := h.nodup
  live := fun r' hr' => h.live r' (Finset.mem_of_mem_erase (by simpa using hr'))

/-- A registration that succeeds leaves room behind it: the build checked that
it does, or the counter had not reached its last number. -/
theorem counter_succ {cs cs' : CallbackState M} {callback : M.Function} {r : CallbackRef}
    (hroom : overflowChecks = true ∨ cs.callbackCounter < usizeMax)
    (h : cs.registerCallback overflowChecks callback = some (cs', r)) :
    cs'.callbackCounter = cs.callbackCounter + 1 := by
  refine (CallbackState.registerCallback_eq_some h).2.2 ?_
  rcases hroom with hchecks | hlt
  · by_contra hfull
    have hnone : cs.registerCallback overflowChecks callback = none :=
      CallbackState.registerCallback_eq_none_iff.mpr ⟨hchecks, by omega⟩
    rw [h] at hnone
    cases hnone
  · exact hlt

theorem Numbered.register {issued : List CallbackRef} {cs cs' : CallbackState M}
    {callback : M.Function} {r : CallbackRef} (hn : Numbered issued cs)
    (hroom : overflowChecks = true ∨ cs.callbackCounter < usizeMax)
    (h : cs.registerCallback overflowChecks callback = some (cs', r)) :
    Numbered (issued ++ [r]) cs' := by
  obtain ⟨rfl, hlive, -⟩ := CallbackState.registerCallback_eq_some h
  have hsucc := counter_succ hroom h
  refine ⟨fun r hr => ?_, ?_, fun r hr => ?_⟩
  · rw [hsucc]
    rcases List.mem_append.mp hr with hr | hr
    · exact Nat.lt_succ_of_lt (hn.below r hr)
    · rw [List.mem_singleton.mp hr]
      exact Nat.lt_succ_self _
  · rw [List.nodup_append]
    refine ⟨hn.nodup, List.nodup_singleton _, fun r hr r' hr' => ?_⟩
    rw [List.mem_singleton.mp hr']
    rintro rfl
    exact hn.fresh hr
  · rw [hlive, Finset.mem_insert] at hr
    rcases hr with rfl | hr
    · simp
    · exact List.mem_append_left _ (hn.live r hr)

theorem issue_eq {cs cs' : CallbackState M} {callback : M.Function} {r : CallbackRef}
    (h : cs.registerCallback overflowChecks callback = some (cs', r)) :
    issue overflowChecks cs callback = [r] := by
  simp [issue, h]

theorem issue_forget {st : ConfigState M} {hook : Option CallbackRef}
    {callback : M.Function} {cs' : CallbackState M} {r : CallbackRef}
    (h : (hook.elim st st.forget).callbackState.registerCallback overflowChecks callback =
      some (cs', r)) :
    issue overflowChecks st.callbackState callback = [r] := by
  cases hook with
  | none => exact issue_eq h
  | some old =>
      simp only [Option.elim, ConfigState.forget, CallbackState.registerCallback,
        CallbackState.callbackCounter_forgetCallback, Option.map_eq_some_iff,
        Prod.mk.injEq] at h
      obtain ⟨counter, hcounter, -, rfl⟩ := h
      simp [issue, CallbackState.registerCallback, hcounter]

/-! ## The book -/

def boundRefs (keymaps : Keymaps) : Multiset CallbackRef :=
  (vals keymaps).bind vals

/-- The references somebody can name: bound to a key, on the way to the input
thread, on the way back, or in a hook. -/
def owned (s : Link M X) : Multiset CallbackRef :=
  boundRefs s.input.keymaps + (s.toInput.filterMap mappedRef : List CallbackRef) +
    (s.toConfig.filterMap forgottenRef : List CallbackRef) +
    (s.config.onStartup.toList : List CallbackRef) +
    (s.config.onConnectorChange.toList : List CallbackRef)

def book (s : Link M X) : Book CallbackRef :=
  ⟨s.config.callbackState.live, s.owned⟩

/-- The two steps that drop a reference: setting `on_connector_change` while it
is set, and rejecting a key name. -/
def Leaks (s : Link M X) : LinkAction → Prop
  | .idle _ =>
      (∃ callback idles, s.config.idles = .onConnectorChange callback :: idles) ∧
      s.config.onConnectorChange ≠ none
  | .inputMessage _ =>
      ∃ keyName mods callbackRef queue,
        s.toInput = .keymap keyName mods callbackRef :: queue ∧
        resolveKey X.tables keyName mods = none
  | _ => False

theorem boundRefs_bind (keymaps : Keymaps) (mods : Mods) (key : Keysym)
    (callback : CallbackRef) :
    boundRefs (keymaps.bind mods key callback).1 +
        ((keymaps.bound mods key).toList : List CallbackRef) =
      callback ::ₘ boundRefs keymaps := by
  have hold : boundRefs keymaps =
      vals ((keymaps.lookup mods).getD ∅) + (vals (keymaps.erase mods)).bind vals := by
    rw [boundRefs, vals_eq_lookup_add keymaps mods, Multiset.add_bind]
    cases keymaps.lookup mods <;> simp
  have hbound : keymaps.bound mods key = ((keymaps.lookup mods).getD ∅).lookup key := by
    unfold Keymaps.bound
    cases keymaps.lookup mods <;> simp
  rw [hold, hbound, boundRefs, Keymaps.bind]
  simp only [vals_insert, Multiset.cons_bind]
  rw [vals_eq_lookup_add ((keymaps.lookup mods).getD ∅) key]
  simp only [← Multiset.singleton_add]
  abel

/-! ## What a step does to the book -/

/-- A registration is an issue, if the new reference is entered as owned. -/
theorem register_takes {issued : List CallbackRef} {cs cs' : CallbackState M}
    {callback : M.Function} {r : CallbackRef} {b b' : Book CallbackRef}
    (h : cs.registerCallback overflowChecks callback = some (cs', r))
    (hn : Numbered issued cs) (hb : b.live = cs.live) (hb' : b'.live = cs'.live)
    (howned : b'.owned = r ::ₘ b.owned) : (Move.issue r).Takes b b' := by
  obtain ⟨rfl, hlive, -⟩ := CallbackState.registerCallback_eq_some h
  refine ⟨fun hmem => hn.fresh (hn.live _ (hb ▸ hmem)), ?_, howned⟩
  rw [hb', hlive, hb]

/-- A hook is set and its old reference given back first: nothing is lost. -/
theorem giveBack_register {issued : List CallbackRef} {st : ConfigState M}
    {cs' : CallbackState M} {callback : M.Function} {hook : Option CallbackRef}
    {r : CallbackRef} {b b' : Book CallbackRef} {rest : Multiset CallbackRef}
    (h : (hook.elim st st.forget).callbackState.registerCallback overflowChecks callback =
      some (cs', r))
    (hn : Numbered issued st.callbackState) (hb : b.live = st.callbackState.live)
    (hb' : b'.live = cs'.live) (howned : b.owned = hook.toList + rest)
    (howned' : b'.owned = r ::ₘ rest) :
    ∃ ms, Path b ms b' ∧ (ms.map Move.losses).sum = 0 := by
  cases hook with
  | none =>
      rw [Option.toList_none, Multiset.coe_nil, zero_add] at howned
      exact ⟨[.issue r], .single (register_takes h hn hb hb' (by rw [howned, howned'])), rfl⟩
  | some old =>
      rw [Option.toList_some, Multiset.coe_singleton, Multiset.singleton_add] at howned
      -- The old callback is given back whatever the counter says.
      have hback : (Move.giveBack old).Takes b ⟨st.callbackState.live.erase old, rest⟩ :=
        ⟨by rw [hb], howned⟩
      exact ⟨[.giveBack old, .issue r], .cons hback (.single (register_takes h
        (hn.forget old) (CallbackState.live_forgetCallback ..).symm hb' howned')), rfl⟩

/-- A hook is set over its old reference, which is lost if there is one. -/
theorem lose_register {issued : List CallbackRef} {cs cs' : CallbackState M}
    {callback : M.Function} {hook : Option CallbackRef} {r : CallbackRef}
    {b b' : Book CallbackRef} {rest : Multiset CallbackRef}
    (h : cs.registerCallback overflowChecks callback = some (cs', r))
    (hn : Numbered issued cs) (hb : b.live = cs.live) (hb' : b'.live = cs'.live)
    (howned : b.owned = hook.toList + rest) (howned' : b'.owned = r ::ₘ rest) :
    ∃ ms, Path b ms b' ∧ ((ms.map Move.losses).sum = 0 ↔ hook = none) := by
  cases hook with
  | none =>
      rw [Option.toList_none, Multiset.coe_nil, zero_add] at howned
      exact ⟨[.issue r], .single (register_takes h hn hb hb' (by rw [howned, howned'])),
        by simp [Move.losses]⟩
  | some old =>
      rw [Option.toList_some, Multiset.coe_singleton, Multiset.singleton_add] at howned
      have hlose : (Move.lose old).Takes b ⟨cs.live, rest⟩ := ⟨hb.symm, howned⟩
      exact ⟨[.lose old, .issue r], .cons hlose (.single (register_takes h hn rfl hb' howned')),
        by simp [Move.losses]⟩

/-- A step that the book does not notice loses nothing. -/
theorem moves_of_book_eq (h : s.book = t.book) (hleaks : ¬ s.Leaks action) :
    ∃ ms, Path s.book ms t.book ∧ ((ms.map Move.losses).sum = 0 ↔ ¬ s.Leaks action) :=
  ⟨[], h ▸ .nil, by simpa using hleaks⟩

theorem book_eq_of_sameCallbacks {config : ConfigState M}
    (h : s.config.SameCallbacks config) : s.book = { s with config := config }.book := by
  obtain ⟨hcs, hstart, hconn⟩ := h
  simp only [book, owned, hcs, hstart, hconn]

theorem idle_moves {peers : Peers} {idle : Idle M} {idles : List (Idle M)}
    {config : ConfigState M} {effects : List Effect}
    (hn : Numbered s.issued s.config.callbackState)
    (hidles : s.config.idles = idle :: idles) (hp : peers.module .input = true)
    (hexec : idle.exec overflowChecks peers { s.config with idles := idles } =
      .ok (config, effects))
    (hconfig : t.config = config) (hinput : t.input = s.input)
    (htoInput : t.toInput = s.toInput ++ inputMessages effects)
    (htoConfig : t.toConfig = s.toConfig) :
    ∃ ms, Path s.book ms t.book ∧
      ((ms.map Move.losses).sum = 0 ↔ ¬ s.Leaks (.idle peers)) := by
  rcases Idle.exec_cases hp hexec with
    ⟨hquiet, ⟨hcs, hstart, hconn⟩, heff⟩ | ⟨keymap, cs, r, rfl, hcs, rfl, heff⟩ |
    ⟨callback, cs, r, rfl, hcs, rfl, heff⟩ | ⟨callback, cs, r, rfl, hcs, rfl, heff⟩
  · refine moves_of_book_eq ?_ ?_
    · simp only [book, owned, hconfig, hinput, htoInput, htoConfig, hcs, hstart, hconn,
        heff, List.append_nil]
    · rintro ⟨⟨callback, idles', he⟩, -⟩
      rw [hidles] at he
      cases he
      cases hquiet
  · refine ⟨[.issue r], .single (register_takes hcs hn rfl ?_ ?_), ?_⟩
    · simp only [book, hconfig]
    · simp only [book, owned, hconfig, hinput, htoInput, htoConfig, heff,
        List.filterMap_append, ← Multiset.coe_add, ← Multiset.singleton_add]
      simp only [List.filterMap_cons, mappedRef, List.filterMap_nil, Multiset.coe_singleton]
      abel
    · simp [Move.losses, Leaks, hidles]
  · let rest : Multiset CallbackRef :=
      boundRefs s.input.keymaps + (s.toInput.filterMap mappedRef : List CallbackRef) +
        (s.toConfig.filterMap forgottenRef : List CallbackRef) +
        (s.config.onConnectorChange.toList : List CallbackRef)
    have howned : s.book.owned = s.config.onStartup.toList + rest := by
      simp only [book, owned, rest]
      abel
    have howned' : t.book.owned = r ::ₘ rest := by
      simp only [book, owned, hconfig, hinput, htoInput, htoConfig, heff, rest, List.append_nil,
        Option.toList_some, ← Multiset.singleton_add, Multiset.coe_singleton]
      abel
    have hlive : t.book.live = cs.live := by simp only [book, hconfig]
    obtain ⟨ms, hpath, hsum⟩ := giveBack_register hcs hn rfl hlive howned howned'
    exact ⟨ms, hpath, by simp [hsum, Leaks, hidles]⟩
  · let rest : Multiset CallbackRef :=
      boundRefs s.input.keymaps + (s.toInput.filterMap mappedRef : List CallbackRef) +
        (s.toConfig.filterMap forgottenRef : List CallbackRef) +
        (s.config.onStartup.toList : List CallbackRef)
    have howned : s.book.owned = s.config.onConnectorChange.toList + rest := by
      simp only [book, owned, rest]
      abel
    have howned' : t.book.owned = r ::ₘ rest := by
      simp only [book, owned, hconfig, hinput, htoInput, htoConfig, heff, rest, List.append_nil,
        Option.toList_some, ← Multiset.singleton_add, Multiset.coe_singleton]
      abel
    have hlive : t.book.live = cs.live := by simp only [book, hconfig]
    obtain ⟨ms, hpath, hsum⟩ := lose_register hcs hn rfl hlive howned howned'
    exact ⟨ms, hpath, by simp [hsum, Leaks, hidles]⟩

theorem inputMessage_moves {opened : Option Nat} {message : InputMessage}
    {queue : List InputMessage} (hqueue : s.toInput = message :: queue)
    (hconfig : t.config = s.config)
    (hinput : t.input = (s.input.handleMessage opened message).1)
    (htoInput : t.toInput = queue)
    (htoConfig : t.toConfig = s.toConfig ++
      configMessages (s.input.handleMessage opened message).2) :
    ∃ ms, Path s.book ms t.book ∧
      ((ms.map Move.losses).sum = 0 ↔ ¬ s.Leaks (.inputMessage opened)) := by
  cases message with
  | shutdown =>
      refine moves_of_book_eq ?_ (by simp [Leaks, hqueue])
      simp only [book, owned, hconfig, hinput, htoInput, htoConfig, hqueue,
        InputState.handleMessage, configMessages, List.filterMap_nil, List.append_nil]
      rfl
  | openFileInSessionForRenderer path =>
      refine moves_of_book_eq ?_ (by simp [Leaks, hqueue])
      have hnone : configMessages (s.input.handleMessage opened
          (.openFileInSessionForRenderer path)).2 = [] := by
        cases opened <;> rfl
      have hsame : (s.input.handleMessage opened
          (.openFileInSessionForRenderer path)).1 = s.input := rfl
      simp only [book, owned, hconfig, hinput, htoInput, htoConfig, hqueue, hnone, hsame,
        List.append_nil]
      rfl
  | keymap keyName mods r =>
      cases hkey : resolveKey X.tables keyName mods with
      | none =>
          have hsame : s.input.keymap keyName mods r = (s.input, []) :=
            InputState.keymap_rejected hkey
          refine ⟨[.lose r], .single ⟨?_, ?_⟩, ?_⟩
          · simp only [book, hconfig]
          · simp only [book, owned, hconfig, hinput, htoInput, htoConfig, hqueue,
              InputState.handleMessage, hsame, configMessages, List.filterMap_nil,
              List.filterMap_cons, mappedRef, List.append_nil, ← Multiset.cons_coe,
              ← Multiset.singleton_add]
            abel
          · simp [Move.losses, Leaks, hqueue, hkey]
      | some binding =>
          obtain ⟨mods', key⟩ := binding
          obtain ⟨hkeymaps, hback⟩ := s.input.keymap_accepted r hkey
          have hforgotten : ((s.input.keymaps.bound mods' key).toList.map
              ConfigMessage.forgetCallback).filterMap forgottenRef =
                (s.input.keymaps.bound mods' key).toList := by
            cases s.input.keymaps.bound mods' key <;> rfl
          refine moves_of_book_eq ?_ (by simp [Leaks, hqueue, hkey])
          simp only [book, owned, hconfig, hinput, htoInput, htoConfig, hqueue,
            InputState.handleMessage, hkeymaps, hback, List.filterMap_append, hforgotten,
            List.filterMap_cons, mappedRef, ← Multiset.cons_coe, ← Multiset.coe_add]
          congr 1
          have := boundRefs_bind s.input.keymaps mods' key r
          rw [Multiset.add_cons, ← Multiset.cons_add r (boundRefs _), ← this]
          abel

theorem configMessage_moves {message : ConfigMessage} {queue : List ConfigMessage}
    {config : ConfigState M} {effects : List Effect} {result : Except (ConfigError M) Unit}
    (hqueue : s.toConfig = message :: queue)
    (hhandle : s.config.handleMessage I message = .ok (config, effects, result))
    (hconfig : t.config = config) (hinput : t.input = s.input)
    (htoInput : t.toInput = s.toInput ++ inputMessages effects)
    (htoConfig : t.toConfig = queue) :
    ∃ ms, Path s.book ms t.book ∧
      ((ms.map Move.losses).sum = 0 ↔ ¬ s.Leaks .configMessage) := by
  obtain ⟨heff, hafter, -⟩ := ConfigState.handleMessage_eq_ok hhandle
  cases message with
  | forgetCallback r =>
      refine ⟨[.giveBack r], .single ⟨?_, ?_⟩, by simp [Move.losses, Leaks]⟩
      · simp only [book, hconfig, hafter, ConfigState.forget,
          CallbackState.live_forgetCallback]
      · simp only [book, owned, hconfig, hafter, ConfigState.forget, hinput, htoInput,
          htoConfig, hqueue, heff, List.append_nil, List.filterMap_cons, forgottenRef,
          ← Multiset.cons_coe, ← Multiset.singleton_add]
        abel
  | shutdown | runCallback | startup | connectorChange | extraEnv | spawn =>
      obtain ⟨hcs, hstart, hconn⟩ := hafter
      refine moves_of_book_eq ?_ (by simp [Leaks])
      simp only [book, owned, hconfig, hcs, hstart, hconn, hinput, htoInput, htoConfig,
        hqueue, heff, List.append_nil, List.filterMap_cons, forgottenRef]

/-- Every step is made of moves, and it loses a reference if and only if it is
one of the two that leak. -/
theorem Step.moves (h : Step I overflowChecks s action t)
    (hn : Numbered s.issued s.config.callbackState) :
    ∃ ms, Path s.book ms t.book ∧ ((ms.map Move.losses).sum = 0 ↔ ¬ s.Leaks action) := by
  cases h with
  | defaultKeymap _ hp hmap =>
      obtain ⟨cs, r, hcs, rfl, hsent⟩ := ConfigState.mapKey_eq_ok hmap
      have heff := inputMessages_sendOn_input hp hsent
      refine ⟨[.issue r], .single (register_takes hcs hn rfl rfl ?_),
        by simp [Move.losses, Leaks]⟩
      simp only [book, owned, heff, List.filterMap_append, ← Multiset.coe_add,
        ← Multiset.singleton_add]
      simp only [List.filterMap_cons, mappedRef, List.filterMap_nil, Multiset.coe_singleton]
      abel
  | userConfig _ hexec =>
      exact moves_of_book_eq
        (book_eq_of_sameCallbacks (ConfigState.execConfig_eq_ok hexec)) (by simp [Leaks])
  | fileChanged _ hchanged =>
      exact moves_of_book_eq
        (book_eq_of_sameCallbacks (ConfigState.configChanged_eq_ok hchanged))
        (by simp [Leaks])
  | idle _ hidles hp hexec => exact idle_moves hn hidles hp hexec rfl rfl rfl rfl
  | configMessage _ hqueue hhandle =>
      exact configMessage_moves hqueue hhandle rfl rfl rfl rfl
  | inputMessage hqueue => exact inputMessage_moves hqueue rfl rfl rfl rfl
  | key =>
      rename_i event
      have hnone : ((s.input.shortcut event).toList.map
          ConfigMessage.runCallback).filterMap forgottenRef = [] := by
        cases s.input.shortcut event <;> rfl
      refine moves_of_book_eq ?_ (by simp [Leaks])
      simp only [book, owned, InputState.keymaps_handleKeyboardEvent,
        InputState.configMessages_handleKeyboardEvent, List.filterMap_append, hnone,
        List.append_nil]
  | toConfig _ hforgotten =>
      refine moves_of_book_eq ?_ (by simp [Leaks])
      simp only [book, owned, List.filterMap_append, List.filterMap_cons, hforgotten,
        List.filterMap_nil, List.append_nil]
  | toInput hmapped =>
      refine moves_of_book_eq ?_ (by simp [Leaks])
      simp only [book, owned, List.filterMap_append, List.filterMap_cons, hmapped,
        List.filterMap_nil, List.append_nil]

/-! ## Over a run -/

theorem Step.numbered (h : Step I overflowChecks s action t)
    (hroom : Unwrapped overflowChecks s action)
    (hn : Numbered s.issued s.config.callbackState) :
    Numbered t.issued t.config.callbackState := by
  cases h with
  | defaultKeymap _ _ hmap =>
      obtain ⟨cs, r, hcs, rfl, -⟩ := ConfigState.mapKey_eq_ok hmap
      rw [issue_eq hcs]
      exact hn.register hroom hcs
  | userConfig _ hexec =>
      rw [(ConfigState.execConfig_eq_ok hexec).1]
      exact hn
  | fileChanged _ hchanged =>
      rw [(ConfigState.configChanged_eq_ok hchanged).1]
      exact hn
  | idle _ hidles hp hexec =>
      rcases Idle.exec_cases hp hexec with
        ⟨hquiet, hsame, -⟩ | ⟨keymap, cs, r, rfl, hcs, rfl, -⟩ |
        ⟨callback, cs, r, rfl, hcs, rfl, -⟩ | ⟨callback, cs, r, rfl, hcs, rfl, -⟩
      · simpa only [issueIdle, hquiet, hsame.1, Option.toList_none, List.flatMap_nil,
          List.append_nil] using hn
      · rw [issueIdle, Idle.callback, Option.toList_some, List.flatMap_singleton,
          issue_eq hcs]
        exact hn.register hroom hcs
      · rw [issueIdle, Idle.callback, Option.toList_some, List.flatMap_singleton,
          issue_forget hcs]
        cases hold : s.config.onStartup with
        | none =>
            simp only [hold, Option.elim] at hcs
            exact hn.register hroom hcs
        | some old =>
            simp only [hold, Option.elim] at hcs
            exact (hn.forget old).register hroom hcs
      · rw [issueIdle, Idle.callback, Option.toList_some, List.flatMap_singleton,
          issue_eq hcs]
        exact hn.register hroom hcs
  | @configMessage message _ _ _ _ _ _ hhandle =>
      obtain ⟨-, hafter, -⟩ := ConfigState.handleMessage_eq_ok hhandle
      cases message with
      | forgetCallback r =>
          rw [hafter]
          exact hn.forget r
      | shutdown | runCallback | startup | connectorChange | extraEnv | spawn =>
          rw [hafter.1]
          exact hn
  | inputMessage | key | toConfig | toInput => exact hn

theorem Starts.numbered (h : Starts I s) : Numbered s.issued s.config.callbackState := by
  obtain ⟨keymaps, xkbState, -, rfl⟩ := h
  exact ⟨by simp, by simp, by simp [ConfigState.fresh]⟩

theorem Starts.book (h : Starts I s) : s.book = ⟨∅, 0⟩ := by
  obtain ⟨keymaps, xkbState, -, rfl⟩ := h
  rfl

/-- In every state of a run that does not wrap the counter, the references are
numbered. -/
theorem reachable_numbered
    (h : Machine.ReachableUnder (system I overflowChecks) (Unwrapped overflowChecks) s) :
    Numbered s.issued s.config.callbackState :=
  h.invariant (I := fun s => Numbered s.issued s.config.callbackState)
    (fun _ hinit => Starts.numbered hinit)
    (fun _ _ _ hn hroom hst => Step.numbered hst hroom hn)

/-- And the book is sound: whoever can name a reference names a registered one,
and nobody else can. -/
theorem reachable_sound
    (h : Machine.ReachableUnder (system I overflowChecks) (Unwrapped overflowChecks) s) :
    s.book.Sound :=
  h.invariant_using (I := fun s => s.book.Sound) (fun _ hs => reachable_numbered hs)
    (fun _ hinit => by rw [Starts.book hinit]; exact Multiset.zero_le _)
    (fun _ _ _ hn hsound _ hst => by
      obtain ⟨ms, hpath, -⟩ := Step.moves hst hn
      exact hpath.sound hsound)

end Link

end Scape.Config
